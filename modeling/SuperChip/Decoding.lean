import SuperChip.Instruction
import SuperChip.Mode

set_option autoImplicit false

namespace SuperChip

open Instruction in
/-- The instruction that `word` stands for in the instruction set `mode`. The first pattern that fits
decides. -/
def Word.decode (mode : Mode) (word : Word) : Instruction :=
  match mode, word.family, word.x, word.y, word.n with
  | _, 0x0, 0x0, 0xE, 0x0 => clearScreen
  | _, 0x0, 0x0, 0xE, 0xE => ret
  | .superChip, 0x0, 0x0, 0xC, n => scrollDown n
  | .superChip, 0x0, 0x0, 0xF, 0xB => scrollRight
  | .superChip, 0x0, 0x0, 0xF, 0xC => scrollLeft
  | .superChip, 0x0, 0x0, 0xF, 0xD => exit
  | .superChip, 0x0, 0x0, 0xF, 0xE => lowResolution
  | .superChip, 0x0, 0x0, 0xF, 0xF => highResolution
  | _, 0x1, _, _, _ => jump word.address
  | _, 0x2, _, _, _ => call word.address
  | _, 0x3, x, _, _ => skipIfByte x word.byte
  | _, 0x4, x, _, _ => skipUnlessByte x word.byte
  | _, 0x5, x, y, 0x0 => skipIfSame x y
  | _, 0x6, x, _, _ => setByte x word.byte
  | _, 0x7, x, _, _ => addByte x word.byte
  | _, 0x8, x, y, 0x0 => copy x y
  | _, 0x8, x, y, 0x1 => or x y
  | _, 0x8, x, y, 0x2 => and x y
  | _, 0x8, x, y, 0x3 => xor x y
  | _, 0x8, x, y, 0x4 => add x y
  | _, 0x8, x, y, 0x5 => subtract x y
  | _, 0x8, x, y, 0x6 => shiftRight x y
  | _, 0x8, x, y, 0x7 => subtractFrom x y
  | _, 0x8, x, y, 0xE => shiftLeft x y
  | _, 0x9, x, y, 0x0 => skipUnlessSame x y
  | _, 0xA, _, _, _ => setIndex word.address
  | _, 0xB, x, _, _ => jumpOffset x word.address
  | _, 0xC, x, _, _ => random x word.byte
  | .superChip, 0xD, x, y, 0x0 => drawWide x y
  | _, 0xD, x, y, n => draw x y n
  | _, 0xE, x, 0x9, 0xE => skipIfKey x
  | _, 0xE, x, 0xA, 0x1 => skipUnlessKey x
  | _, 0xF, 0xF, 0xF, 0xF => guard
  | _, 0xF, x, 0x0, 0x7 => readDelay x
  | _, 0xF, x, 0x0, 0xA => awaitKey x
  | _, 0xF, x, 0x1, 0x5 => setDelay x
  | _, 0xF, x, 0x1, 0x8 => setSound x
  | _, 0xF, x, 0x1, 0xE => addIndex x
  | _, 0xF, x, 0x2, 0x9 => glyph x
  | .superChip, 0xF, x, 0x3, 0x0 => bigGlyph x
  | _, 0xF, x, 0x3, 0x3 => decimal x
  | _, 0xF, x, 0x5, 0x5 => store x
  | _, 0xF, x, 0x6, 0x5 => load x
  | .superChip, 0xF, x, 0x7, 0x5 => if x ≤ 7 then saveFlags x else illegal word
  | .superChip, 0xF, x, 0x8, 0x5 => if x ≤ 7 then loadFlags x else illegal word
  | _, _, _, _, _ => illegal word

end SuperChip
