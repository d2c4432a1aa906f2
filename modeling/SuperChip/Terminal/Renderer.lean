import SuperChip.Screen
import SuperChip.Terminal.Operation

set_option autoImplicit false

namespace SuperChip.Terminal

/-- The colours of lit and dark pixels, and the size of the picture on the terminal. -/
structure Renderer where
  lit : Colour
  dark : Colour
  size : Option (Nat × Nat)
  deriving DecidableEq, Repr

namespace Renderer

def colour (renderer : Renderer) (lit : Bool) : Colour :=
  if lit then renderer.lit else renderer.dark

/-- The colours of the upper and the lower pixel of a cell. -/
def cell (renderer : Renderer) (frame : Frame) (row column : Nat) : Colour × Colour :=
  (renderer.colour (frame.lit column (2 * row)),
    renderer.colour (decide (2 * row + 1 < frame.height) && frame.lit column (2 * row + 1)))

/-- Paints cells one after the other, setting the colours where they change from those in use. -/
def paint (current : Option (Colour × Colour)) :
    List (Colour × Colour) → List Operation × Option (Colour × Colour)
  | [] => ([], current)
  | cell :: rest =>
    let (operations, final) := paint (some cell) rest
    (if current = some cell then (.halfBlock :: operations, final)
      else (.foreground cell.1 :: .background cell.2 :: .halfBlock :: operations, final))

def row (renderer : Renderer) (frame : Frame) (number : Nat) : List (Colour × Colour) :=
  (List.range frame.width).map (renderer.cell frame number)

/-- Paints text rows from the one with a number on, with the colours of each carried over to the next.
A row's number is told to the terminal in sixteen bits. -/
def paintRows (current : Option (Colour × Colour)) (number : Nat) :
    List (List (Colour × Colour)) → List Operation
  | [] => []
  | cells :: rest =>
    let (operations, current) := paint current cells
    .moveTo (UInt16.ofNat number) :: operations ++ paintRows current (number + 1) rest

def rows (renderer : Renderer) (frame : Frame) : List (List (Colour × Colour)) :=
  (List.range ((frame.height + 1) / 2)).map (renderer.row frame)

def present (renderer : Renderer) (frame : Frame) : List Operation × Renderer :=
  let fresh :=
    if renderer.size = some (frame.width, frame.height) then [] else [.resetColours, .clear]
  (fresh ++ paintRows none 0 (renderer.rows frame) ++ [.resetColours],
    { renderer with size := some (frame.width, frame.height) })

/-- What sets a terminal up for drawing. -/
def opening : List Operation := [.enterAlternate, .hideCursor, .clear]

/-- What gives a terminal back. -/
def closing : List Operation := [.resetColours, .showCursor, .leaveAlternate]

end Renderer

/-- A renderer on a terminal that may refuse to be written to. The first refusal is kept, and
nothing is drawn after it. -/
structure Display where
  renderer : Renderer
  refused : Option String
  deriving DecidableEq, Repr

namespace Display

/-- A display that has drawn nothing yet. -/
def fresh (lit dark : Colour) : Display := ⟨⟨lit, dark, none⟩, none⟩

/-- Draws a picture: what reaches the terminal, and the display after it. `refusal` is the
terminal's reason to refuse the writing, if it does. -/
def present (display : Display) (refusal : Option String) (frame : Frame) :
    List Operation × Display :=
  if display.refused.isSome then ([], display)
  else
    let (operations, renderer) := display.renderer.present frame
    match refusal with
    | none => (operations, ⟨renderer, none⟩)
    | some reason => ([], ⟨renderer, some reason⟩)

end Display

end SuperChip.Terminal
