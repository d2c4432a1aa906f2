import SuperChip.Text.Hexadecimal
import SuperChip.Text.Quoted

set_option autoImplicit false

namespace SuperChip

structure Colour where
  red : UInt8
  green : UInt8
  blue : UInt8
  deriving DecidableEq, Repr

/-- A text that is no colour. -/
structure ColourError where
  text : String
  deriving DecidableEq, Repr

def ColourError.message (error : ColourError) : String :=
  "failed to parse hex color " ++ Text.quoted error.text ++ ", expected 0xRRGGBB"

namespace Colour

/-- What lit pixels are painted with by default. -/
def white : Colour := ⟨255, 255, 255⟩

/-- What dark pixels are painted with by default. -/
def black : Colour := ⟨0, 0, 0⟩

/-- A text without the one mark that may stand in front of the digits. -/
def unmarked : List Char → List Char
  | '0' :: 'x' :: digits => digits
  | '#' :: digits => digits
  | digits => digits

/-- The value of two digits. -/
def channel (high low : Nibble) : UInt8 := UInt8.ofNat (16 * high.val + low.val)

/-- The colour of six digits, two for each of red, green and blue. -/
def parse (text : String) : Except ColourError Colour :=
  match (unmarked text.toList).mapM Text.hexDigit? with
  | some [a, b, c, d, e, f] => .ok ⟨channel a b, channel c d, channel e f⟩
  | _ => .error ⟨text⟩

end Colour

end SuperChip
