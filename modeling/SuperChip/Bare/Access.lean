set_option autoImplicit false

/-!
Checked access to plain arrays: a cell may not be there, and a difference may be negative; then there is no
result.
-/

namespace SuperChip.Bare

variable {α : Type}

/-- The difference of two numbers, unless it is negative. -/
def sub? (left right : Nat) : Option Nat := if right ≤ left then some (left - right) else none

/-- An array with another value at `place`, if it has that place. -/
def put? (cells : Array α) (place : Nat) (value : α) : Option (Array α) :=
  if inside : place < cells.size then some (cells.set place value inside) else none

/-- The places from `start` on, as many as `length`. -/
structure Window where
  start : Nat
  length : Nat
  deriving DecidableEq, Repr

namespace Window

/-- The first places of an array, if it has as many. -/
def front? (cells : Array α) (count : Nat) : Option Window :=
  if count ≤ cells.size then some ⟨0, count⟩ else none

/-- The places of a window from number `first` up to number `last`. -/
def part? (window : Window) (first last : Nat) : Option Window :=
  if first ≤ last ∧ last ≤ window.length then some ⟨window.start + first, last - first⟩ else none

/-- The lines of `width` places each that a window has, one behind the other. -/
def lines? (window : Window) (width : Nat) : Option (List Window) :=
  if width = 0 then none
  else some ((List.range (window.length / width)).map fun line => ⟨window.start + line * width, width⟩)

def Has (window : Window) (place : Nat) : Prop :=
  window.start ≤ place ∧ place < window.start + window.length

instance (window : Window) (place : Nat) : Decidable (window.Has place) :=
  inferInstanceAs (Decidable (_ ∧ _))

end Window

/-- Gives the cells of a window one value. -/
def fill (cells : Array α) (window : Window) (value : α) : Array α :=
  cells.mapIdx fun place cell => if window.Has place then value else cell

/-- Moves the cells of a window from number `first` up to number `last` to number `target` on. -/
def copyWithin? (cells : Array α) (window : Window) (first last target : Nat) :
    Option (Array α) := do
  let source ← window.part? first last
  let goal ← window.part? target (target + source.length)
  -- All cells are read before one of them is overwritten, so the two stretches may overlap.
  return cells.mapIdx fun place cell =>
    if goal.Has place then cells[source.start + (place - goal.start)]?.getD cell else cell

/-- Moves cells within a window, and gives those from number `left` up to number `right` one value. -/
def shift? (cells : Array α) (window : Window) (first last target left right : Nat) (value : α) :
    Option (Array α) := do
  let moved ← copyWithin? cells window first last target
  let gap ← window.part? left right
  return fill moved gap value

/-- Copies the first cells of `source` over the first ones of `cells`. -/
def copyFront? (cells source : Array α) (count : Nat) : Option (Array α) := do
  let goal ← Window.front? cells count
  let _ ← Window.front? source count
  return cells.mapIdx fun place cell => if goal.Has place then source[place]?.getD cell else cell

end SuperChip.Bare
