import SuperChip.Proofs.Bare.Screen

set_option autoImplicit false

namespace SuperChip

/-- Where a picture is moved to. -/
inductive Direction where
  | down
  | right
  | left
  deriving DecidableEq, Repr

namespace Screen

def scroll (screen : Screen) : Direction → Nat → Screen
  | .down => screen.scrollDown
  | .right => screen.scrollRight
  | .left => screen.scrollLeft

/-- The size of the picture along a direction. -/
def extent (screen : Screen) : Direction → Nat
  | .down => screen.height
  | .right | .left => screen.width

/-- The column and the row that the pixel in column `x` of row `y` comes from if the picture is moved
by `distance`; none if it comes from outside the picture. -/
def origin? (screen : Screen) (direction : Direction) (distance x y : Nat) : Option (Nat × Nat) :=
  match direction with
  | .down => if distance ≤ y then some (x, y - distance) else none
  | .right => if distance ≤ x then some (x - distance, y) else none
  | .left => if x + distance < screen.width then some (x + distance, y) else none

/-- The pixel at a place of the picture; outside of it all is dark. -/
def pixelAt (screen : Screen) : Option (Nat × Nat) → Bool
  | some (x, y) => screen.pixel x y
  | none => false

/-- What moving the picture makes of a screen. -/
structure Moves (before : Screen) (direction : Direction) (distance : Nat) (after : Screen) :
    Prop where
  geometry : after.geometry = before.geometry
  wrap : after.wrap = before.wrap
  pixels : ∀ x < before.width, ∀ y < before.height,
    after.pixel x y = before.pixelAt (before.origin? direction distance x y)
  /-- A move by less than the picture leaves what is behind the picture alone. -/
  margin : distance < before.extent direction →
    ∀ place, before.geometry.area ≤ place → after.lit place = before.lit place
  framed : after.Framed

variable (screen : Screen)

theorem origin?_down (distance x y : Nat) :
    screen.origin? .down distance x y = if distance ≤ y then some (x, y - distance) else none := rfl

theorem origin?_right (distance x y : Nat) :
    screen.origin? .right distance x y = if distance ≤ x then some (x - distance, y) else none := rfl

theorem origin?_left (distance x y : Nat) :
    screen.origin? .left distance x y =
      if x + distance < screen.width then some (x + distance, y) else none := rfl

theorem pixel_repaint (paint : Nat → Nat → Bool) {x y : Nat} (narrow : x < screen.width)
    (line : y < screen.height) : (screen.repaint paint).pixel x y = paint x y := by
  have width : (screen.repaint paint).width = screen.width :=
    congrArg Geometry.width (screen.geometry_repaint paint).1
  obtain ⟨row, column⟩ := screen.place_row y narrow
  rw [pixel, width, lit_repaint, if_pos (screen.place_lt_area narrow line), row, column]

theorem pixel_clear (x y : Nat) : screen.clear.pixel x y = false := screen.lit_clear _

theorem geometry_scroll (direction : Direction) (distance : Nat) :
    (screen.scroll direction distance).geometry = screen.geometry ∧
      (screen.scroll direction distance).wrap = screen.wrap := by
  cases direction with
  | down => exact screen.geometry_scrollDown distance
  | right =>
    rw [scroll, scrollRight]
    exact screen.geometry_repaint _
  | left =>
    rw [scroll, scrollLeft]
    exact screen.geometry_repaint _

theorem framed_scroll {screen : Screen} (framed : screen.Framed) (direction : Direction)
    (distance : Nat) : (screen.scroll direction distance).Framed := by
  cases direction with
  | down => exact framed_scrollDown framed distance
  | right =>
    rw [scroll, scrollRight]
    exact framed_repaint framed _
  | left =>
    rw [scroll, scrollLeft]
    exact framed_repaint framed _

theorem pixel_scroll (direction : Direction) (distance : Nat) {x y : Nat}
    (narrow : x < screen.width) (line : y < screen.height) :
    (screen.scroll direction distance).pixel x y =
      screen.pixelAt (screen.origin? direction distance x y) := by
  cases direction with
  | down =>
    rw [scroll, scrollDown, origin?]
    by_cases beyond : screen.height ≤ distance
    · have outside : ¬ distance ≤ y := by omega
      rw [if_pos beyond, pixel_clear, if_neg outside]
      rfl
    · rw [if_neg beyond, screen.pixel_repaint _ narrow line]
      by_cases outside : y < distance
      · rw [if_pos outside, if_neg (Nat.not_le_of_lt outside)]
        rfl
      · rw [if_neg outside, if_pos (Nat.le_of_not_lt outside)]
        rfl
  | right =>
    rw [scroll, scrollRight, screen.pixel_repaint _ narrow line, origin?]
    by_cases outside : x < distance
    · rw [if_pos outside, if_neg (Nat.not_le_of_lt outside)]
      rfl
    · rw [if_neg outside, if_pos (Nat.le_of_not_lt outside)]
      rfl
  | left =>
    rw [scroll, scrollLeft, screen.pixel_repaint _ narrow line, origin?]
    by_cases inside : x + distance < screen.width
    · rw [if_pos inside, if_pos inside]
      rfl
    · rw [if_neg inside, if_neg inside]
      rfl

theorem lit_scroll_margin (direction : Direction) {distance : Nat}
    (less : distance < screen.extent direction) {place : Nat}
    (behind : screen.geometry.area ≤ place) :
    (screen.scroll direction distance).lit place = screen.lit place := by
  have outside := Nat.not_lt_of_le behind
  cases direction with
  | down =>
    have within : ¬ screen.height ≤ distance := Nat.not_le_of_lt less
    rw [scroll, scrollDown, if_neg within, lit_repaint, if_neg outside]
  | right => rw [scroll, scrollRight, lit_repaint, if_neg outside]
  | left => rw [scroll, scrollLeft, lit_repaint, if_neg outside]

theorem moves_scroll {screen : Screen} (framed : screen.Framed) (direction : Direction)
    (distance : Nat) : screen.Moves direction distance (screen.scroll direction distance) where
  geometry := (screen.geometry_scroll direction distance).1
  wrap := (screen.geometry_scroll direction distance).2
  pixels _ narrow _ line := screen.pixel_scroll direction distance narrow line
  margin less _ behind := screen.lit_scroll_margin direction less behind
  framed := framed_scroll framed direction distance

/-- Two screens of one kind with nothing behind the picture are equal if they show the same. -/
theorem eq_of_pixels {screen other : Screen} (framed : screen.Framed) (bounded : other.Framed)
    (geometry : other.geometry = screen.geometry) (wrap : other.wrap = screen.wrap)
    (pixels : ∀ x < screen.width, ∀ y < screen.height, other.pixel x y = screen.pixel x y) :
    other = screen := by
  apply eq_of_lit geometry wrap
  intro place _
  by_cases shown : place < screen.geometry.area
  · have narrow := Nat.mod_lt place screen.geometry.width_pos
    have line : place / screen.width < screen.height := Nat.div_lt_of_lt_mul shown
    have width : other.width = screen.width := congrArg Geometry.width geometry
    have same := pixels _ narrow _ line
    rw [pixel, pixel, width] at same
    rwa [← Nat.div_add_mod' place screen.width]
  · have behind := Nat.le_of_not_lt shown
    have beyond : other.geometry.area ≤ place := by rwa [geometry]
    rw [framed place behind, bounded place beyond]

theorem origin?_congr {screen other : Screen} (geometry : other.geometry = screen.geometry) :
    other.origin? = screen.origin? := by
  obtain ⟨_, _, _⟩ := other
  subst geometry
  rfl

/-- A pixel of the picture comes from a pixel of the picture, if it comes from one at all. -/
theorem origin?_within {direction : Direction} {distance x y column row : Nat}
    (narrow : x < screen.width) (line : y < screen.height)
    (comes : screen.origin? direction distance x y = some (column, row)) :
    column < screen.width ∧ row < screen.height := by
  cases direction with
  | down =>
    rw [origin?_down, Option.ite_none_right_eq_some] at comes
    obtain ⟨_, same⟩ := comes
    cases same
    omega
  | right =>
    rw [origin?_right, Option.ite_none_right_eq_some] at comes
    obtain ⟨_, same⟩ := comes
    cases same
    omega
  | left =>
    rw [origin?_left, Option.ite_none_right_eq_some] at comes
    obtain ⟨inside, same⟩ := comes
    cases same
    exact ⟨inside, line⟩

/-- After two moves a pixel shows what tracing back the second and then the first leads to. -/
theorem pixel_scroll_scroll (first second : Direction) (distance further : Nat) {x y : Nat}
    (narrow : x < screen.width) (line : y < screen.height) :
    ((screen.scroll first distance).scroll second further).pixel x y =
      screen.pixelAt ((screen.origin? second further x y).bind fun (column, row) =>
        screen.origin? first distance column row) := by
  have kept := (screen.geometry_scroll first distance).1
  have width : (screen.scroll first distance).width = screen.width :=
    congrArg Geometry.width kept
  have height : (screen.scroll first distance).height = screen.height :=
    congrArg Geometry.height kept
  rw [pixel_scroll _ second further (by rwa [width]) (by rwa [height]), origin?_congr kept]
  cases comes : screen.origin? second further x y with
  | none => rfl
  | some place =>
    obtain ⟨column, row⟩ := place
    obtain ⟨slim, inside⟩ := screen.origin?_within narrow line comes
    exact screen.pixel_scroll first distance slim inside

theorem origin?_add (direction : Direction) (distance further x y : Nat) :
    ((screen.origin? direction further x y).bind fun (column, row) =>
      screen.origin? direction distance column row) =
      screen.origin? direction (distance + further) x y := by
  cases direction with
  | down =>
    simp only [origin?_down]
    by_cases near : further ≤ y
    · rw [if_pos near, Option.bind_some]
      by_cases far : distance ≤ y - further
      · rw [if_pos far, if_pos (by omega), Nat.add_comm distance, Nat.sub_sub]
      · rw [if_neg far, if_neg (by omega)]
    · rw [if_neg near, if_neg (by omega), Option.bind_none]
  | right =>
    simp only [origin?_right]
    by_cases near : further ≤ x
    · rw [if_pos near, Option.bind_some]
      by_cases far : distance ≤ x - further
      · rw [if_pos far, if_pos (by omega), Nat.add_comm distance, Nat.sub_sub]
      · rw [if_neg far, if_neg (by omega)]
    · rw [if_neg near, if_neg (by omega), Option.bind_none]
  | left =>
    simp only [origin?_left]
    by_cases near : x + further < screen.width
    · rw [if_pos near, Option.bind_some]
      dsimp only
      rw [Nat.add_assoc, Nat.add_comm further]
    · rw [if_neg near, if_neg (by omega), Option.bind_none]

/-- A move to a side leaves rows alone, and a move down leaves columns alone. -/
theorem origin?_comm {sideways : Direction} (level : sideways ≠ .down) (rows columns x y : Nat) :
    ((screen.origin? sideways columns x y).bind fun (column, row) =>
      screen.origin? .down rows column row) =
      (screen.origin? .down rows x y).bind fun (column, row) =>
        screen.origin? sideways columns column row := by
  cases sideways with
  | down => contradiction
  | right =>
    simp only [origin?_down, origin?_right]
    by_cases below : rows ≤ y <;> by_cases behind : columns ≤ x <;> simp [below, behind]
  | left =>
    simp only [origin?_down, origin?_left]
    by_cases below : rows ≤ y <;> by_cases inside : x + columns < screen.width <;>
      simp [below, inside]

/-- A screen that shows at each pixel what two moves bring there is what the two moves make. -/
theorem scroll_scroll_eq {screen : Screen} (framed : screen.Framed) {after : Screen}
    (bounded : after.Framed) (geometry : after.geometry = screen.geometry)
    (wrap : after.wrap = screen.wrap) (first second : Direction) (distance further : Nat)
    (pixels : ∀ x < screen.width, ∀ y < screen.height,
      after.pixel x y = screen.pixelAt ((screen.origin? second further x y).bind
        fun (column, row) => screen.origin? first distance column row)) :
    (screen.scroll first distance).scroll second further = after := by
  have once := screen.geometry_scroll first distance
  have twice := (screen.scroll first distance).geometry_scroll second further
  have width : after.width = screen.width := congrArg Geometry.width geometry
  have height : after.height = screen.height := congrArg Geometry.height geometry
  apply eq_of_pixels bounded (framed_scroll (framed_scroll framed first distance) second further)
  · rw [twice.1, once.1, geometry]
  · rw [twice.2, once.2, wrap]
  · intro x narrow y line
    rw [width] at narrow
    rw [height] at line
    rw [screen.pixel_scroll_scroll first second distance further narrow line, pixels x narrow y line]

theorem scroll_add {screen : Screen} (framed : screen.Framed) (direction : Direction)
    (distance further : Nat) :
    (screen.scroll direction distance).scroll direction further =
      screen.scroll direction (distance + further) := by
  have kept := screen.geometry_scroll direction (distance + further)
  apply scroll_scroll_eq framed (framed_scroll framed _ _) kept.1 kept.2
  intro x narrow y line
  rw [origin?_add, pixel_scroll _ _ _ narrow line]

theorem scroll_comm {screen : Screen} (framed : screen.Framed) {sideways : Direction}
    (level : sideways ≠ .down) (rows columns : Nat) :
    (screen.scroll .down rows).scroll sideways columns =
      (screen.scroll sideways columns).scroll .down rows := by
  have once := screen.geometry_scroll sideways columns
  have twice := (screen.scroll sideways columns).geometry_scroll .down rows
  apply scroll_scroll_eq framed (framed_scroll (framed_scroll framed _ _) _ _)
    (twice.1.trans once.1) (twice.2.trans once.2)
  intro x narrow y line
  rw [pixel_scroll_scroll _ _ _ _ _ narrow line, screen.origin?_comm level]

end Screen

/-- The moves over a plain array of pixels. -/
def Bare.Screen.scroll? (screen : Bare.Screen) : Direction → Nat → Option Bare.Screen
  | .down => screen.scrollDown?
  | .right => screen.scrollRight?
  | .left => screen.scrollLeft?

namespace Screen

theorem scroll?_bare (screen : Screen) (direction : Direction) (distance : Nat) :
    screen.bare.scroll? direction distance = some (screen.scroll direction distance).bare := by
  cases direction with
  | down => exact screen.scrollDown?_bare distance
  | right => exact screen.scrollRight?_bare distance
  | left => exact screen.scrollLeft?_bare distance

/-- Scrolling a screen that has nothing behind the picture moves exactly the picture, whatever the
distance, and over a plain array it never reaches outside of it. Two moves in one direction are one,
and a move down and a move to a side can be made in either order. -/
theorem scrolling_moves_picture (screen : Screen) (framed : screen.Framed) :
    (∀ direction distance,
      screen.Moves direction distance (screen.scroll direction distance) ∧
      screen.bare.scroll? direction distance = some (screen.scroll direction distance).bare) ∧
    (∀ direction distance further,
      (screen.scroll direction distance).scroll direction further =
        screen.scroll direction (distance + further)) ∧
    ∀ sideways, sideways ≠ .down → ∀ rows columns,
      (screen.scroll .down rows).scroll sideways columns =
        (screen.scroll sideways columns).scroll .down rows := by
  refine ⟨?_, ?_, ?_⟩
  · intro direction distance
    exact ⟨moves_scroll framed direction distance, screen.scroll?_bare direction distance⟩
  · intro direction distance further
    exact scroll_add framed direction distance further
  · intro sideways level rows columns
    exact scroll_comm framed level rows columns

/-- A lit pixel in the corner of the larger picture goes to the right edge, and beyond it is gone:
it does not come back in the next line. -/
theorem scrolling_moves_picture_to_edge :
    ∃ screen : Screen, screen.Framed ∧ screen.pixel 0 0 = true ∧
      (screen.scroll .right 127).pixel 127 0 = true ∧
      (screen.scroll .right 128).pixel 0 1 = false ∧
      (screen.scroll .right 100).scroll .right 28 = screen.scroll .right 128 ∧
      (screen.scroll .down 5).scroll .left 1 = (screen.scroll .left 1).scroll .down 5 := by
  have dark : ((blank .wrap).setGeometry .extended).lit 0 = false := lit_clear (blank .wrap) 0
  have framed := framed_flip (framed_setGeometry (blank .wrap) .extended)
    (show 0 < Geometry.area .extended by decide)
  have corner : (((blank .wrap).setGeometry .extended).flip 0).pixel 0 0 = true := by
    rw [pixel, Nat.zero_mul, lit_flip, dark]
    decide
  obtain ⟨moves, add, swaps⟩ := scrolling_moves_picture _ framed
  refine ⟨_, framed, corner, ?_, ?_, ?_, ?_⟩
  · exact ((moves .right 127).1.pixels 127 (by decide) 0 (by decide)).trans corner
  · exact (moves .right 128).1.pixels 0 (by decide) 1 (by decide)
  · exact add .right 100 28
  · exact swaps .left (by decide) 5 1

end Screen

end SuperChip
