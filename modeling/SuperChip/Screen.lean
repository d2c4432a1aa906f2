set_option autoImplicit false

/-!
The picture store has room for the larger of two geometries. The geometry in use decides the width, and
with it where a pixel lies: `(x, y)` is number `y * width + x`.
-/

namespace SuperChip

/-- What becomes of sprite pixels beyond the right edge. -/
inductive Wrap where
  /-- They go on at the left edge. -/
  | wrap
  /-- They are dropped. -/
  | clip
  deriving DecidableEq, Repr

/-- The name a log line gives the policy. -/
def Wrap.name : Wrap → String
  | wrap => "Wrap"
  | clip => "Clip"

inductive Geometry where
  | standard
  | extended
  deriving DecidableEq, Repr

namespace Geometry

def width : Geometry → Nat
  | standard => 64
  | extended => 128

def height : Geometry → Nat
  | standard => 32
  | extended => 64

def area (geometry : Geometry) : Nat := geometry.width * geometry.height

def name : Geometry → String
  | standard => "Standard"
  | extended => "Extended"

end Geometry

/-- A finished picture: `width * height` pixels, row by row. -/
structure Frame where
  width : Nat
  height : Nat
  pixels : Array Bool
  deriving DecidableEq

namespace Frame

/-- Whether the pixel in column `x` of row `y` is lit. -/
def lit (frame : Frame) (x y : Nat) : Bool := frame.pixels[y * frame.width + x]?.getD false

end Frame

/-- The rows of a sprite, sixteen pixels each, leftmost in the most significant bit. -/
abbrev Sprite := List UInt16

namespace Sprite

/-- A sprite eight pixels wide has one byte to a row and leaves the right half empty. -/
def narrow (bytes : List UInt8) : Sprite := bytes.map fun byte => UInt16.ofNat (byte.toNat * 256)

/-- A sprite sixteen pixels wide has two bytes to a row; half a row at the end does not count. -/
def wide : List UInt8 → Sprite
  | left :: right :: rest => UInt16.ofNat (left.toNat * 256 + right.toNat) :: wide rest
  | _ => []

/-- Whether the pixel in column `column` of a row is set, counted from the left. -/
def rowBit (row : UInt16) (column : Nat) : Bool := row.toNat.testBit (15 - column)

/-- The set pixels of one row as pairs of row and column, from left to right. -/
def rowMarks (number : Nat) (row : UInt16) : List (Nat × Nat) :=
  ((List.range 16).filter (rowBit row)).map fun column => (number, column)

/-- The set pixels as pairs of row and column, from top to bottom and from left to right. -/
def marks (sprite : Sprite) : List (Nat × Nat) :=
  sprite.zipIdx.flatMap fun (row, number) => rowMarks number row

end Sprite

/-- The picture store, the geometry in use, and the policy for the right edge. -/
structure Screen where
  pixels : Vector Bool 8192
  geometry : Geometry
  wrap : Wrap
  deriving DecidableEq

namespace Screen

/-- A dark screen of the standard geometry. -/
def blank (policy : Wrap) : Screen := ⟨Vector.replicate 8192 false, .standard, policy⟩

def width (screen : Screen) : Nat := screen.geometry.width

def height (screen : Screen) : Nat := screen.geometry.height

/-- Whether the pixel stored as number `place` is lit. -/
def lit (screen : Screen) (place : Nat) : Bool := screen.pixels[place]?.getD false

/-- Whether the pixel in column `x` of row `y` is lit. -/
def pixel (screen : Screen) (x y : Nat) : Bool := screen.lit (y * screen.width + x)

def frame (screen : Screen) : Frame where
  width := screen.width
  height := screen.height
  pixels := screen.pixels.toArray.extract 0 screen.geometry.area

def clear (screen : Screen) : Screen := { screen with pixels := Vector.replicate 8192 false }

/-- Takes another geometry, starting from a dark picture. -/
def setGeometry (screen : Screen) (geometry : Geometry) : Screen :=
  { screen with pixels := Vector.replicate 8192 false, geometry }

/-- Turns over the pixel stored as number `place`. -/
def flip (screen : Screen) (place : Nat) : Screen :=
  if inside : place < 8192 then
    { screen with pixels := screen.pixels.set place (!screen.pixels[place]) }
  else screen

/-- Where the sprite pixel in `row` and `column` falls if the corner of the sprite is at `(ox, oy)`.
Rows go on at the top; columns beyond the right edge go on at the left one or are dropped. -/
def place? (screen : Screen) (ox oy row column : Nat) : Option Nat :=
  let line := (oy + row) % screen.height * screen.width
  if ox + column < screen.width then some (line + (ox + column))
  else
    match screen.wrap with
    | .wrap => some (line + (ox + column) % screen.width)
    | .clip => none

/-- The pixels a sprite covers when drawn at `(x, y)`, taken modulo the size of the picture. -/
def places (screen : Screen) (x y : UInt8) (sprite : Sprite) : List Nat :=
  sprite.marks.filterMap fun (row, column) =>
    screen.place? (x.toNat % screen.width) (y.toNat % screen.height) row column

/-- Turns over the pixels one after the other, and tells whether one of them was lit when its turn
came. -/
def flipAll (screen : Screen) : List Nat → Screen × Bool
  | [] => (screen, false)
  | place :: rest =>
    let hit := screen.lit place
    let (final, hits) := (screen.flip place).flipAll rest
    (final, hit || hits)

/-- Draws a sprite, and tells whether it turned off a lit pixel. -/
def draw (screen : Screen) (x y : UInt8) (sprite : Sprite) : Screen × Bool :=
  screen.flipAll (screen.places x y sprite)

/-- Paints the visible pixels anew from their column and row. -/
def repaint (screen : Screen) (paint : Nat → Nat → Bool) : Screen :=
  { screen with
    pixels := Vector.ofFn fun i =>
      if i.val < screen.geometry.area then paint (i.val % screen.width) (i.val / screen.width)
      else screen.pixels[i] }

/-- Moves the picture down; a distance of a whole screen or more leaves nothing. -/
def scrollDown (screen : Screen) (rows : Nat) : Screen :=
  if screen.height ≤ rows then screen.clear
  else screen.repaint fun x y => if y < rows then false else screen.pixel x (y - rows)

def scrollRight (screen : Screen) (columns : Nat) : Screen :=
  screen.repaint fun x y => if x < columns then false else screen.pixel (x - columns) y

def scrollLeft (screen : Screen) (columns : Nat) : Screen :=
  screen.repaint fun x y =>
    if x + columns < screen.width then screen.pixel (x + columns) y else false

theorem lit_flip (screen : Screen) (place other : Nat) :
    (screen.flip place).lit other =
      (screen.lit other ^^ decide (place = other ∧ place < 8192)) := by
  unfold flip lit
  split
  · rename_i inside
    simp only [Vector.getElem?_set]
    by_cases same : place = other
    · subst same
      simp [inside]
    · simp [same]
  · rename_i outside
    simp [outside]

theorem lit_clear (screen : Screen) (place : Nat) : screen.clear.lit place = false := by
  by_cases inside : place < 8192
  · simp [lit, clear, inside]
  · simp [lit, Vector.getElem?_eq_none (by omega : 8192 ≤ place)]

/-- Two screens of one kind are equal if the same places are lit. -/
theorem eq_of_lit {screen other : Screen} (geometry : other.geometry = screen.geometry)
    (wrap : other.wrap = screen.wrap) (same : ∀ place < 8192, other.lit place = screen.lit place) :
    other = screen := by
  obtain ⟨pixels, _, _⟩ := other
  obtain ⟨kept, _, _⟩ := screen
  have stored : pixels = kept := by
    apply Vector.ext
    intro place inside
    have alike := same place inside
    simpa only [lit, Vector.getElem?_eq_getElem inside, Option.getD_some] using alike
  subst geometry wrap stored
  rfl

theorem geometry_flipAll (screen : Screen) (places : List Nat) :
    (screen.flipAll places).1.geometry = screen.geometry ∧
      (screen.flipAll places).1.wrap = screen.wrap := by
  induction places generalizing screen with
  | nil => exact ⟨rfl, rfl⟩
  | cons place rest ih =>
    have flipped := ih (screen.flip place)
    have same : (screen.flip place).geometry = screen.geometry ∧
        (screen.flip place).wrap = screen.wrap := by
      unfold flip
      split <;> exact ⟨rfl, rfl⟩
    exact ⟨flipped.1.trans same.1, flipped.2.trans same.2⟩

end Screen

end SuperChip
