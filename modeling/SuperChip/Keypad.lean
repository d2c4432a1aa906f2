import SuperChip.Nibble

set_option autoImplicit false

namespace SuperChip

abbrev Key := Nibble

theorem Key.val_lt (key : Key) : key.val < 16 := key.isLt

/-- The key that a byte names: its low nibble. -/
def Key.ofByte (byte : UInt8) : Key := Fin.ofNat 16 byte.toNat

theorem Key.byte_ofByte (byte : UInt8) : UInt8.ofNat (Key.ofByte byte).val = byte &&& 0xF := by
  have low : byte.toNat &&& 15 = byte.toNat % 16 := Nat.and_two_pow_sub_one_eq_mod byte.toNat 4
  apply UInt8.toNat_inj.mp
  rw [UInt8.toNat_and]
  change byte.toNat % 16 % 256 = byte.toNat &&& 15
  omega

/-- How a wait for a key stands. -/
inductive Wait where
  | key (code : UInt8)
  /-- No key will come any more. -/
  | closed
  | parked
  deriving DecidableEq, Repr

/-- The keys held, the latest press that no wait has taken yet, and whether all waits end. A release
drops the press of its key, so a wait is only ever answered by a key that is held. -/
structure Keypad where
  down : Vector Bool 16
  pending : Option Key
  closed : Bool
  deriving DecidableEq

namespace Keypad

def empty : Keypad := ⟨Vector.replicate 16 false, none, false⟩

def isDown (keypad : Keypad) (key : Key) : Bool := keypad.down[key]

/-- The keys held, in ascending order. -/
def held (keypad : Keypad) : List Key := (List.finRange 16).filter keypad.isDown

/-- A key goes down, and its press waits to be taken. -/
def press (keypad : Keypad) (key : Key) : Keypad :=
  { keypad with down := keypad.down.set key true, pending := some key }

/-- A key goes up, and takes its pending press along. -/
def release (keypad : Keypad) (key : Key) : Keypad :=
  { keypad with
    down := keypad.down.set key false
    pending := if keypad.pending = some key then none else keypad.pending }

/-- All keys go up, and no press is pending any more. -/
def releaseAll (keypad : Keypad) : Keypad :=
  { keypad with down := Vector.replicate 16 false, pending := none }

def close (keypad : Keypad) : Keypad := { keypad with closed := true }

/-- One look of a wait at the keypad. It takes the pending press whether or not the key still
counts. -/
def wait (keypad : Keypad) : Wait × Keypad :=
  if keypad.closed then (.closed, keypad)
  else
    match keypad.pending with
    | some key =>
      (if keypad.isDown key then .key (UInt8.ofNat key.val) else .parked,
        { keypad with pending := none })
    | none => (.parked, keypad)

theorem isDown_empty (key : Key) : empty.isDown key = false := by
  simp [isDown, empty]

theorem isDown_press (keypad : Keypad) (pressed key : Key) :
    (keypad.press pressed).isDown key = (decide (key = pressed) || keypad.isDown key) := by
  simp only [isDown, press, Fin.getElem_fin, Vector.getElem_set]
  by_cases same : key = pressed
  · subst same
    simp
  · have other : pressed.val ≠ key.val := fun equal => same (Fin.ext equal.symm)
    simp [same, other]

theorem isDown_release (keypad : Keypad) (released key : Key) :
    (keypad.release released).isDown key = (decide (key ≠ released) && keypad.isDown key) := by
  simp only [isDown, release, Fin.getElem_fin, Vector.getElem_set]
  by_cases same : key = released
  · subst same
    simp
  · have other : released.val ≠ key.val := fun equal => same (Fin.ext equal.symm)
    simp [same, other]

theorem isDown_releaseAll (keypad : Keypad) (key : Key) :
    keypad.releaseAll.isDown key = false := by
  simp [isDown, releaseAll]

theorem isDown_close (keypad : Keypad) (key : Key) :
    keypad.close.isDown key = keypad.isDown key := rfl

theorem isDown_wait (keypad : Keypad) (key : Key) :
    keypad.wait.2.isDown key = keypad.isDown key := by
  unfold wait
  split
  · rfl
  · split <;> rfl

end Keypad

end SuperChip
