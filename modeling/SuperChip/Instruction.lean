import SuperChip.Word
import SuperChip.Text.Hexadecimal

set_option autoImplicit false

namespace SuperChip

/-- An instruction with its operands taken out of the word. -/
inductive Instruction where
  | clearScreen
  | ret
  | jump (target : UInt16)
  | call (target : UInt16)
  | skipIfByte (x : Register) (value : UInt8)
  | skipUnlessByte (x : Register) (value : UInt8)
  | skipIfSame (x y : Register)
  | skipUnlessSame (x y : Register)
  | setByte (x : Register) (value : UInt8)
  | addByte (x : Register) (value : UInt8)
  | copy (x y : Register)
  | or (x y : Register)
  | and (x y : Register)
  | xor (x y : Register)
  | add (x y : Register)
  | subtract (x y : Register)
  | shiftRight (x y : Register)
  | subtractFrom (x y : Register)
  | shiftLeft (x y : Register)
  | setIndex (target : UInt16)
  | jumpOffset (x : Register) (base : UInt16)
  | random (x : Register) (mask : UInt8)
  | draw (x y : Register) (rows : Fin 16)
  | skipIfKey (x : Register)
  | skipUnlessKey (x : Register)
  | readDelay (x : Register)
  | awaitKey (x : Register)
  | setDelay (x : Register)
  | setSound (x : Register)
  | addIndex (x : Register)
  | glyph (x : Register)
  | decimal (x : Register)
  | store (x : Register)
  | load (x : Register)
  | scrollDown (rows : Fin 16)
  | scrollRight
  | scrollLeft
  | exit
  | lowResolution
  | highResolution
  | drawWide (x y : Register)
  | bigGlyph (x : Register)
  | saveFlags (x : Register)
  | loadFlags (x : Register)
  | guard
  | illegal (word : Word)
  deriving DecidableEq, Repr

/-- An instruction without its operands. -/
inductive Mnemonic where
  | clearScreen
  | ret
  | jump
  | call
  | skipIfByte
  | skipUnlessByte
  | skipIfSame
  | skipUnlessSame
  | setByte
  | addByte
  | copy
  | or
  | and
  | xor
  | add
  | subtract
  | shiftRight
  | subtractFrom
  | shiftLeft
  | setIndex
  | jumpOffset
  | random
  | draw
  | skipIfKey
  | skipUnlessKey
  | readDelay
  | awaitKey
  | setDelay
  | setSound
  | addIndex
  | glyph
  | decimal
  | store
  | load
  | scrollDown
  | scrollRight
  | scrollLeft
  | exit
  | lowResolution
  | highResolution
  | drawWide
  | bigGlyph
  | saveFlags
  | loadFlags
  | guard
  | illegal
  deriving DecidableEq, Repr

namespace Mnemonic

/-- The label that tells this mnemonic from every other one. -/
def label : Mnemonic → String
  | clearScreen => "Cls"
  | ret => "Ret"
  | jump => "Jp"
  | call => "Call"
  | skipIfByte => "SeImm"
  | skipUnlessByte => "SneImm"
  | skipIfSame => "SeReg"
  | skipUnlessSame => "SneReg"
  | setByte => "Ld"
  | addByte => "AddImm"
  | copy => "Mov"
  | or => "Or"
  | and => "And"
  | xor => "Xor"
  | add => "Add"
  | subtract => "Sub"
  | shiftRight => "Shr"
  | subtractFrom => "Subn"
  | shiftLeft => "Shl"
  | setIndex => "SetIndex"
  | jumpOffset => "JpOffset"
  | random => "Rnd"
  | draw => "Drw"
  | skipIfKey => "Skp"
  | skipUnlessKey => "Sknp"
  | readDelay => "GetD"
  | awaitKey => "GetK"
  | setDelay => "SetD"
  | setSound => "SetS"
  | addIndex => "AddIndex"
  | glyph => "SetCh"
  | decimal => "Std"
  | store => "Str"
  | load => "Ldr"
  | scrollDown => "Scd"
  | scrollRight => "Scr"
  | scrollLeft => "Scl"
  | exit => "Exit"
  | lowResolution => "Low"
  | highResolution => "High"
  | drawWide => "Xdrw"
  | bigGlyph => "SetHiCh"
  | saveFlags => "SaveFlags"
  | loadFlags => "LoadFlags"
  | guard => "Guard"
  | illegal => "Illegal"

/-- The name an assembly listing shows. -/
def name : Mnemonic → String
  | clearScreen => "CLS"
  | ret => "RET"
  | jump => "JP"
  | call => "CALL"
  | skipIfByte | skipIfSame => "SE"
  | skipUnlessByte | skipUnlessSame => "SNE"
  | setByte | copy => "LD"
  | addByte | add => "ADD"
  | or => "OR"
  | and => "AND"
  | xor => "XOR"
  | subtract => "SUB"
  | shiftRight => "SHR"
  | subtractFrom => "SUBN"
  | shiftLeft => "SHL"
  | setIndex => "LD I"
  | jumpOffset => "JP V0"
  | random => "RND"
  | draw => "DRW"
  | skipIfKey => "SKP"
  | skipUnlessKey => "SKNP"
  | readDelay => "LD DT>"
  | awaitKey => "LD K"
  | setDelay => "LD >DT"
  | setSound => "LD >ST"
  | addIndex => "ADD I"
  | glyph => "LD F"
  | decimal => "LD B"
  | store => "LD [I]<"
  | load => "LD >[I]"
  | scrollDown => "SCD"
  | scrollRight => "SCR"
  | scrollLeft => "SCL"
  | exit => "EXIT"
  | lowResolution => "LOW"
  | highResolution => "HIGH"
  | drawWide => "XDRW"
  | bigGlyph => "LD HF"
  | saveFlags => "LD R<"
  | loadFlags => "LD >R"
  | guard => "GUARD"
  | illegal => "ILLEGAL"

end Mnemonic

namespace Instruction

def mnemonic : Instruction → Mnemonic
  | clearScreen => .clearScreen
  | ret => .ret
  | jump _ => .jump
  | call _ => .call
  | skipIfByte _ _ => .skipIfByte
  | skipUnlessByte _ _ => .skipUnlessByte
  | skipIfSame _ _ => .skipIfSame
  | skipUnlessSame _ _ => .skipUnlessSame
  | setByte _ _ => .setByte
  | addByte _ _ => .addByte
  | copy _ _ => .copy
  | or _ _ => .or
  | and _ _ => .and
  | xor _ _ => .xor
  | add _ _ => .add
  | subtract _ _ => .subtract
  | shiftRight _ _ => .shiftRight
  | subtractFrom _ _ => .subtractFrom
  | shiftLeft _ _ => .shiftLeft
  | setIndex _ => .setIndex
  | jumpOffset _ _ => .jumpOffset
  | random _ _ => .random
  | draw _ _ _ => .draw
  | skipIfKey _ => .skipIfKey
  | skipUnlessKey _ => .skipUnlessKey
  | readDelay _ => .readDelay
  | awaitKey _ => .awaitKey
  | setDelay _ => .setDelay
  | setSound _ => .setSound
  | addIndex _ => .addIndex
  | glyph _ => .glyph
  | decimal _ => .decimal
  | store _ => .store
  | load _ => .load
  | scrollDown _ => .scrollDown
  | scrollRight => .scrollRight
  | scrollLeft => .scrollLeft
  | exit => .exit
  | lowResolution => .lowResolution
  | highResolution => .highResolution
  | drawWide _ _ => .drawWide
  | bigGlyph _ => .bigGlyph
  | saveFlags _ => .saveFlags
  | loadFlags _ => .loadFlags
  | guard => .guard
  | illegal _ => .illegal

/-- The operands as text, in the order of the instruction's notation. -/
def operands : Instruction → List String
  | clearScreen | ret | scrollRight | scrollLeft | exit | lowResolution | highResolution
  | guard => []
  | jump target | call target | setIndex target => [target.toNat.repr]
  | skipIfByte x value | skipUnlessByte x value | setByte x value | addByte x value
  | random x value => [x.val.repr, value.toNat.repr]
  | skipIfSame x y | skipUnlessSame x y | copy x y | or x y | and x y | xor x y | add x y
  | subtract x y | shiftRight x y | subtractFrom x y | shiftLeft x y
  | drawWide x y => [x.val.repr, y.val.repr]
  | jumpOffset x base => [x.val.repr, base.toNat.repr]
  | draw x y rows => [x.val.repr, y.val.repr, rows.val.repr]
  | skipIfKey x | skipUnlessKey x | readDelay x | awaitKey x | setDelay x | setSound x
  | addIndex x | glyph x | decimal x | store x | load x | bigGlyph x | saveFlags x
  | loadFlags x => [x.val.repr]
  | scrollDown rows => [rows.val.repr]
  | illegal word => ["Opcode(0x" ++ Text.hexadecimal 4 word.toNat ++ ")"]

/-- The label followed by the operands in parentheses, if there are any. -/
def text (instruction : Instruction) : String :=
  match instruction.operands with
  | [] => instruction.mnemonic.label
  | operands => instruction.mnemonic.label ++ "(" ++ String.intercalate ", " operands ++ ")"

end Instruction

end SuperChip
