set_option autoImplicit false

namespace SuperChip

/-- An instruction set. Super-CHIP adds scrolling, the high resolution, wide sprites, the big font
and the user flags. -/
inductive Mode where
  | chip8
  | superChip
  deriving DecidableEq, Repr

namespace Mode

def name : Mode → String
  | chip8 => "Chip8"
  | superChip => "SuperChip"

end Mode

/-- Behaviour that differs between interpreters. -/
structure Compatibility where
  /-- Shifts take their operand from the second register. -/
  shiftUsesVY : Bool
  /-- The offset jump adds the register named by its address and not register 0. -/
  jumpUsesVX : Bool
  /-- Storing and loading registers moves the index past the bytes copied. -/
  loadStoreIncrement : Bool
  /-- Adding to the index keeps it within twelve bits. -/
  maskIndex : Bool
  deriving DecidableEq, Repr

namespace Compatibility

/-- What an instruction set does unless it is told otherwise. -/
def ofMode (mode : Mode) : Compatibility where
  shiftUsesVY := false
  jumpUsesVX := false
  loadStoreIncrement := mode == .superChip
  maskIndex := false

def text (c : Compatibility) : String :=
  "Quirks \x7b shift_uses_vy: " ++ toString c.shiftUsesVY ++
  ", jump_uses_vx: " ++ toString c.jumpUsesVX ++
  ", load_store_increment: " ++ toString c.loadStoreIncrement ++
  ", mask_index: " ++ toString c.maskIndex ++ " \x7d"

end Compatibility

end SuperChip
