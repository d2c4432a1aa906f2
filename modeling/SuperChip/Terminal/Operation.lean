import SuperChip.Colour

set_option autoImplicit false

namespace SuperChip.Terminal

/-- A terminal operation. Rows and columns count from zero. -/
inductive Operation where
  /-- Leaves the screen in use aside and shows another one. -/
  | enterAlternate
  /-- Goes back to the screen that was set aside. -/
  | leaveAlternate
  | hideCursor
  | showCursor
  /-- Blanks every cell. -/
  | clear
  /-- Goes back to the terminal's own colours. -/
  | resetColours
  /-- Goes to the first column of a row. -/
  | moveTo (row : UInt16)
  | foreground (colour : Colour)
  | background (colour : Colour)
  /-- Prints the upper half of a cell in the foreground colour, the lower half in the background
  colour, and moves on by a column. -/
  | halfBlock
  | bell
  deriving DecidableEq, Repr

namespace Operation

/-- A control sequence. -/
def sequence (code : String) : String := "\x1b[" ++ code

/-- The three numbers of a colour. -/
def channels (colour : Colour) : String :=
  colour.red.toNat.repr ++ ";" ++ colour.green.toNat.repr ++ ";" ++ colour.blue.toNat.repr

/-- The text that makes a terminal perform an operation. -/
def text : Operation → String
  | enterAlternate => sequence "?1049h"
  | leaveAlternate => sequence "?1049l"
  | hideCursor => sequence "?25l"
  | showCursor => sequence "?25h"
  | clear => sequence "2J"
  | resetColours => sequence "0m"
  | moveTo row => sequence ((row.toNat + 1).repr ++ ";1H")
  | foreground colour => sequence ("38;2;" ++ channels colour ++ "m")
  | background colour => sequence ("48;2;" ++ channels colour ++ "m")
  | halfBlock => "▀"
  | bell => "\x07"

end Operation

def text (operations : List Operation) : String := String.join (operations.map Operation.text)

end SuperChip.Terminal
