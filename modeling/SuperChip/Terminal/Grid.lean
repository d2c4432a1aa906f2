import SuperChip.Terminal.Operation

set_option autoImplicit false

namespace SuperChip.Terminal

/-- A colour, or the terminal's own one. -/
abbrev Ink := Option Colour

inductive Cell where
  | blank (background : Ink)
  | halfBlock (foreground background : Ink)
  deriving DecidableEq, Repr

/-- A terminal: its size, its cells by column and row, the cursor, and the colours in use. -/
structure Grid where
  columns : Nat
  rows : Nat
  cell : Nat → Nat → Cell
  column : Nat
  row : Nat
  foreground : Ink
  background : Ink

namespace Grid

/-- Prints at the cursor, if it is on the grid, and moves it on by a column. -/
def print (grid : Grid) : Grid :=
  let written (column row : Nat) : Cell :=
    if column = grid.column ∧ row = grid.row ∧ column < grid.columns ∧ row < grid.rows then
      .halfBlock grid.foreground grid.background
    else grid.cell column row
  { grid with cell := written, column := grid.column + 1 }

/-- What an operation does to a terminal. Going to another screen, the looks of the cursor and the
bell leave no mark on the grid. Cleared cells take the background colour in use. -/
def perform (grid : Grid) : Operation → Grid
  | .enterAlternate | .leaveAlternate | .hideCursor | .showCursor | .bell => grid
  | .clear => { grid with cell := fun _ _ => .blank grid.background }
  | .resetColours => { grid with foreground := none, background := none }
  | .moveTo row => { grid with column := 0, row := row.toNat }
  | .foreground colour => { grid with foreground := some colour }
  | .background colour => { grid with background := some colour }
  | .halfBlock => grid.print

/-- Performs operations one after the other. -/
def performAll (grid : Grid) (operations : List Operation) : Grid :=
  operations.foldl perform grid

theorem performAll_nil (grid : Grid) : grid.performAll [] = grid := rfl

theorem performAll_cons (grid : Grid) (operation : Operation) (rest : List Operation) :
    grid.performAll (operation :: rest) = (grid.perform operation).performAll rest := rfl

theorem performAll_append (grid : Grid) (first second : List Operation) :
    grid.performAll (first ++ second) = (grid.performAll first).performAll second :=
  List.foldl_append ..

end Grid

end SuperChip.Terminal
