import SuperChip.Decoding

set_option autoImplicit false

namespace SuperChip.Word

open Instruction

/-- The instructions of family 0: the screen, the return from a call, and the end. -/
def decodeSystem (mode : Mode) (word : Word) : Instruction :=
  match word.y, word.n with
  | 0xE, 0x0 => clearScreen
  | 0xE, 0xE => ret
  | 0xC, n => if mode = .superChip then scrollDown n else illegal word
  | 0xF, 0xB => if mode = .superChip then scrollRight else illegal word
  | 0xF, 0xC => if mode = .superChip then scrollLeft else illegal word
  | 0xF, 0xD => if mode = .superChip then exit else illegal word
  | 0xF, 0xE => if mode = .superChip then lowResolution else illegal word
  | 0xF, 0xF => if mode = .superChip then highResolution else illegal word
  | _, _ => illegal word

/-- The instructions of family 8: arithmetic on two registers. -/
def decodeArithmetic (word : Word) : Instruction :=
  match word.n with
  | 0x0 => copy word.x word.y
  | 0x1 => or word.x word.y
  | 0x2 => and word.x word.y
  | 0x3 => xor word.x word.y
  | 0x4 => add word.x word.y
  | 0x5 => subtract word.x word.y
  | 0x6 => shiftRight word.x word.y
  | 0x7 => subtractFrom word.x word.y
  | 0xE => shiftLeft word.x word.y
  | _ => illegal word

/-- The instructions of family 14: skips on a key. -/
def decodeKey (word : Word) : Instruction :=
  match word.y, word.n with
  | 0x9, 0xE => skipIfKey word.x
  | 0xA, 0x1 => skipUnlessKey word.x
  | _, _ => illegal word

/-- The instructions of family 15: timers, keys, the index, memory and flags, and the guard. -/
def decodeDevice (mode : Mode) (word : Word) : Instruction :=
  match word.y, word.n with
  | 0x0, 0x7 => readDelay word.x
  | 0x0, 0xA => awaitKey word.x
  | 0x1, 0x5 => setDelay word.x
  | 0x1, 0x8 => setSound word.x
  | 0x1, 0xE => addIndex word.x
  | 0x2, 0x9 => glyph word.x
  | 0x3, 0x0 => if mode = .superChip then bigGlyph word.x else illegal word
  | 0x3, 0x3 => decimal word.x
  | 0x5, 0x5 => store word.x
  | 0x6, 0x5 => load word.x
  | 0x7, 0x5 => if mode = .superChip ∧ word.x ≤ 7 then saveFlags word.x else illegal word
  | 0x8, 0x5 => if mode = .superChip ∧ word.x ≤ 7 then loadFlags word.x else illegal word
  | 0xF, 0xF => if word.x = 15 then guard else illegal word
  | _, _ => illegal word

/-- The instruction of a word, by its family. -/
def decodeByFamily (mode : Mode) (word : Word) : Instruction :=
  match word.family with
  | 0x0 => if word.x = 0 then word.decodeSystem mode else illegal word
  | 0x1 => jump word.address
  | 0x2 => call word.address
  | 0x3 => skipIfByte word.x word.byte
  | 0x4 => skipUnlessByte word.x word.byte
  | 0x5 => if word.n = 0 then skipIfSame word.x word.y else illegal word
  | 0x6 => setByte word.x word.byte
  | 0x7 => addByte word.x word.byte
  | 0x8 => word.decodeArithmetic
  | 0x9 => if word.n = 0 then skipUnlessSame word.x word.y else illegal word
  | 0xA => setIndex word.address
  | 0xB => jumpOffset word.x word.address
  | 0xC => random word.x word.byte
  | 0xD =>
    if mode = .superChip ∧ word.n = 0 then drawWide word.x word.y else draw word.x word.y word.n
  | 0xE => word.decodeKey
  | _ => word.decodeDevice mode

/-- No pattern of the decoder hides a later one of another family. -/
theorem decode_eq_byFamily (mode : Mode) (word : Word) :
    word.decode mode = word.decodeByFamily mode := by
  unfold Word.decode
  split
  case h_30 =>
    rename_i family narrow
    -- The pattern of the wide sprite stands before this one.
    have rows : ¬ (_ = Mode.superChip ∧ word.n = 0) := fun wide => narrow wide.1 wide.2
    simp only [decodeByFamily, family, rows, if_false]
  case h_46 =>
    unfold decodeByFamily decodeSystem decodeArithmetic decodeKey decodeDevice
    repeat' split
    all_goals first | rfl | (exfalso; grind)
  all_goals simp only [decodeByFamily, decodeSystem, decodeArithmetic, decodeKey, decodeDevice,
    if_true, true_and, *]

end SuperChip.Word
