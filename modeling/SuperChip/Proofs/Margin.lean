import SuperChip.Screen

set_option autoImplicit false

namespace SuperChip

namespace Geometry

theorem area_le (geometry : Geometry) : geometry.area ≤ 8192 := by cases geometry <;> decide

theorem width_pos (geometry : Geometry) : 0 < geometry.width := by cases geometry <;> decide

theorem height_pos (geometry : Geometry) : 0 < geometry.height := by cases geometry <;> decide

end Geometry

namespace Screen

/-- Whether all pixels behind the picture are dark. -/
def Framed (screen : Screen) : Prop :=
  ∀ place, screen.geometry.area ≤ place → screen.lit place = false

theorem framed_clear (screen : Screen) : screen.clear.Framed :=
  fun place _ => screen.lit_clear place

theorem framed_blank (policy : Wrap) : (blank policy).Framed :=
  framed_clear (blank policy)

theorem framed_setGeometry (screen : Screen) (geometry : Geometry) :
    (screen.setGeometry geometry).Framed :=
  framed_clear (screen.setGeometry geometry)

theorem place_lt_area (screen : Screen) {x y : Nat} (narrow : x < screen.width)
    (line : y < screen.height) : y * screen.width + x < screen.geometry.area := by
  have area : screen.geometry.area = screen.height * screen.width := Nat.mul_comm _ _
  calc y * screen.width + x < y * screen.width + screen.width := by omega
    _ = (y + 1) * screen.width := (Nat.succ_mul _ _).symm
    _ ≤ screen.height * screen.width := Nat.mul_le_mul_right _ line
    _ = screen.geometry.area := area.symm

theorem place?_lt_area {screen : Screen} {ox oy row column place : Nat}
    (falls : screen.place? ox oy row column = some place) : place < screen.geometry.area := by
  have line : (oy + row) % screen.height < screen.height :=
    Nat.mod_lt _ screen.geometry.height_pos
  have narrow : (ox + column) % screen.width < screen.width :=
    Nat.mod_lt _ screen.geometry.width_pos
  unfold place? at falls
  split at falls
  · rename_i within
    cases falls
    exact screen.place_lt_area within line
  · split at falls
    · cases falls
      exact screen.place_lt_area narrow line
    · cases falls

theorem places_lt_area (screen : Screen) (x y : UInt8) (sprite : Sprite) :
    ∀ place ∈ screen.places x y sprite, place < screen.geometry.area := by
  intro place listed
  obtain ⟨mark, _, falls⟩ := List.mem_filterMap.mp listed
  exact place?_lt_area falls

theorem places_stored (screen : Screen) (x y : UInt8) (sprite : Sprite) :
    ∀ place ∈ screen.places x y sprite, place < 8192 := by
  intro place listed
  have shown := screen.places_lt_area x y sprite place listed
  exact Nat.lt_of_lt_of_le shown screen.geometry.area_le

theorem geometry_flip (screen : Screen) (place : Nat) :
    (screen.flip place).geometry = screen.geometry :=
  (screen.geometry_flipAll [place]).1

theorem framed_flip {screen : Screen} (framed : screen.Framed) {place : Nat}
    (inside : place < screen.geometry.area) : (screen.flip place).Framed := by
  intro other behind
  rw [geometry_flip] at behind
  have apart : ¬ (place = other ∧ place < 8192) := by omega
  rw [lit_flip, framed other behind, decide_eq_false apart]
  rfl

theorem framed_flipAll {screen : Screen} (framed : screen.Framed) {places : List Nat}
    (inside : ∀ place ∈ places, place < screen.geometry.area) :
    (screen.flipAll places).1.Framed := by
  induction places generalizing screen with
  | nil => exact framed
  | cons place rest ih =>
    apply ih (framed_flip framed (inside place List.mem_cons_self))
    intro later listed
    rw [geometry_flip]
    exact inside later (List.mem_cons_of_mem _ listed)

theorem framed_draw {screen : Screen} (framed : screen.Framed) (x y : UInt8) (sprite : Sprite) :
    (screen.draw x y sprite).1.Framed :=
  framed_flipAll framed (screen.places_lt_area x y sprite)

theorem geometry_repaint (screen : Screen) (paint : Nat → Nat → Bool) :
    (screen.repaint paint).geometry = screen.geometry ∧
      (screen.repaint paint).wrap = screen.wrap := by
  cases screen
  exact ⟨rfl, rfl⟩

theorem lit_repaint (screen : Screen) (paint : Nat → Nat → Bool) (place : Nat) :
    (screen.repaint paint).lit place =
      if place < screen.geometry.area then paint (place % screen.width) (place / screen.width)
      else screen.lit place := by
  have stored := screen.geometry.area_le
  by_cases inside : place < 8192
  · simp [lit, repaint, inside]
  · have outside : ¬ place < screen.geometry.area := by omega
    simp [lit, inside, outside]

theorem framed_repaint {screen : Screen} (framed : screen.Framed) (paint : Nat → Nat → Bool) :
    (screen.repaint paint).Framed := by
  intro place behind
  rw [(screen.geometry_repaint paint).1] at behind
  rw [lit_repaint, if_neg (Nat.not_lt_of_le behind)]
  exact framed place behind

theorem framed_scrollDown {screen : Screen} (framed : screen.Framed) (rows : Nat) :
    (screen.scrollDown rows).Framed := by
  unfold scrollDown
  split
  · exact screen.framed_clear
  · exact framed_repaint framed _

theorem geometry_scrollDown (screen : Screen) (rows : Nat) :
    (screen.scrollDown rows).geometry = screen.geometry ∧
      (screen.scrollDown rows).wrap = screen.wrap := by
  unfold scrollDown
  split
  · exact ⟨rfl, rfl⟩
  · exact screen.geometry_repaint _

end Screen

end SuperChip
