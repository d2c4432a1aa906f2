import SuperChip.Proofs.Screen.Drawing

set_option autoImplicit false

namespace SuperChip

/-- One call that draws: the origin, the bytes of the sprite, and whether its rows have two each. -/
structure Drawing where
  x : UInt8
  y : UInt8
  bytes : List UInt8
  wide : Bool
  deriving DecidableEq, Repr

namespace Drawing

def sprite (drawing : Drawing) : Sprite := Sprite.ofBytes drawing.bytes drawing.wide

/-- How many complete rows the sprite has. -/
def rows (drawing : Drawing) : Nat := drawing.bytes.length / Sprite.rowSize drawing.wide

/-- Whether the pixel in `row` and `column` of the sprite is set. -/
def bit (drawing : Drawing) (row column : Nat) : Bool :=
  Sprite.bit (Sprite.rowSize drawing.wide) (drawing.bytes.getD · 0) row column

/-- The screen after a drawing, and whether a lit pixel was turned off. -/
def on (drawing : Drawing) (screen : Screen) : Screen × Bool :=
  screen.draw drawing.x drawing.y drawing.sprite

/-- The pixels that a drawing turns over, one after the other. -/
def places (drawing : Drawing) (screen : Screen) : List Nat :=
  screen.places drawing.x drawing.y drawing.sprite

end Drawing

namespace Screen

/-- The screen after drawings one after the other. -/
def drawAll (screen : Screen) (drawings : List Drawing) : Screen :=
  drawings.foldl (fun screen drawing => (drawing.on screen).1) screen

theorem places_congr {screen other : Screen} (geometry : other.geometry = screen.geometry)
    (wrap : other.wrap = screen.wrap) : other.places = screen.places := by
  obtain ⟨pixels, _, _⟩ := other
  subst geometry wrap
  rfl

variable (screen : Screen)

/-- Drawings are one long turning over of pixels, whose places are known from the start. -/
theorem drawAll_eq_flipAll (drawings : List Drawing) :
    screen.drawAll drawings = (screen.flipAll (drawings.flatMap (·.places screen))).1 := by
  induction drawings generalizing screen with
  | nil => rfl
  | cons first rest ih =>
    have kept := screen.geometry_draw first.x first.y first.sprite
    have same : (fun drawing : Drawing => drawing.places (first.on screen).1) =
        fun drawing => drawing.places screen := by
      funext drawing
      rw [Drawing.places, Drawing.places, Drawing.on, places_congr kept.1 kept.2]
    have later : screen.drawAll (first :: rest) = (first.on screen).1.drawAll rest := rfl
    rw [later, ih, same, List.flatMap_cons, flipAll_append]
    rfl

theorem stored_flatMap (drawings : List Drawing) :
    ∀ place ∈ drawings.flatMap (·.places screen), place < 8192 := by
  intro place listed
  obtain ⟨drawing, _, covered⟩ := List.mem_flatMap.mp listed
  exact screen.places_stored _ _ _ place covered

/-- Only matters how often each pixel is covered, and of that only whether it is odd. -/
theorem drawAll_eq_of_parity {drawings others : List Drawing}
    (parity : ∀ place, (drawings.flatMap (·.places screen)).count place % 2 =
      (others.flatMap (·.places screen)).count place % 2) :
    screen.drawAll drawings = screen.drawAll others := by
  have drawn := screen.geometry_flipAll (drawings.flatMap (·.places screen))
  have kept := screen.geometry_flipAll (others.flatMap (·.places screen))
  rw [drawAll_eq_flipAll, drawAll_eq_flipAll]
  apply eq_of_lit (drawn.1.trans kept.1.symm) (drawn.2.trans kept.2.symm)
  intro place _
  rw [lit_flipAll _ (screen.stored_flatMap drawings), lit_flipAll _ (screen.stored_flatMap others),
    parity]

theorem drawAll_perm {drawings others : List Drawing} (same : drawings.Perm others) :
    screen.drawAll drawings = screen.drawAll others := by
  apply screen.drawAll_eq_of_parity
  intro place
  rw [(same.flatMap_right _).count_eq]

theorem drawAll_cancel (drawing : Drawing) (front middle back : List Drawing) :
    screen.drawAll (front ++ drawing :: middle ++ drawing :: back) =
      screen.drawAll (front ++ middle ++ back) := by
  apply screen.drawAll_eq_of_parity
  intro place
  simp only [List.flatMap_append, List.flatMap_cons, List.count_append]
  omega

/-- A set pixel of a sprite is dropped only behind the right edge, and only by clipping. -/
theorem isSome_place?_iff (ox oy row column : Nat) :
    (screen.place? ox oy row column).isSome = true ↔
      (screen.wrap = .clip → ox + column < screen.width) := by
  unfold place?
  by_cases within : ox + column < screen.width
  · simp [within]
  · cases screen.wrap <;> simp [within]

theorem exists_mem_places_iff (drawing : Drawing) :
    (∃ place, place ∈ drawing.places screen) ↔
      ∃ row < drawing.rows, ∃ column < 8 * Sprite.rowSize drawing.wide,
        drawing.bit row column = true ∧
          (screen.wrap = .clip → drawing.x.toNat % screen.width + column < screen.width) := by
  unfold Drawing.places Drawing.sprite places
  constructor
  · rintro ⟨place, listed⟩
    obtain ⟨⟨row, column⟩, marked, falls⟩ := List.mem_filterMap.mp listed
    obtain ⟨complete, within, set⟩ := (Sprite.mem_marks_ofBytes _ _ row column).mp marked
    refine ⟨row, complete, column, within, set, ?_⟩
    apply (screen.isSome_place?_iff _ (drawing.y.toNat % screen.height) row column).mp
    exact Option.isSome_of_mem falls
  · rintro ⟨row, complete, column, within, set, shown⟩
    have marked := (Sprite.mem_marks_ofBytes _ _ row column).mpr ⟨complete, within, set⟩
    have falls := (screen.isSome_place?_iff _ (drawing.y.toNat % screen.height) row column).mpr shown
    obtain ⟨place, placed⟩ := Option.isSome_iff_exists.mp falls
    exact ⟨place, List.mem_filterMap.mpr ⟨(row, column), marked, placed⟩⟩

/-- Of two equal drawings one meets a lit pixel, as the first turns over what the second meets. -/
theorem collides_twice_iff (drawing : Drawing) (short : drawing.rows ≤ screen.height) :
    ((drawing.on screen).2 = true ∨ (drawing.on (drawing.on screen).1).2 = true) ↔
      ∃ place, place ∈ drawing.places screen := by
  have apart : (drawing.places screen).Nodup :=
    screen.nodup_places_of_short drawing.x drawing.y short
  have kept := screen.geometry_draw drawing.x drawing.y drawing.sprite
  have again : (drawing.on (drawing.on screen).1) =
      (drawing.on screen).1.flipAll (drawing.places screen) := by
    rw [Drawing.on, draw, Drawing.on, places_congr kept.1 kept.2]
    rfl
  have turned : ∀ place ∈ drawing.places screen,
      (drawing.on screen).1.lit place = !screen.lit place := by
    intro place listed
    have once : (drawing.places screen).count place = 1 := by
      rw [apart.count, if_pos listed]
    refine (screen.lit_draw _ _ _ place).trans ?_
    change (_ ^^ decide ((drawing.places screen).count place % 2 = 1)) = _
    rw [once]
    simp
  rw [again, (drawing.on screen).1.flipAll_hits apart]
  change (screen.flipAll (drawing.places screen)).2 = true ∨ _ ↔ _
  rw [screen.flipAll_hits apart, ← exists_or]
  refine exists_congr fun place => ?_
  rw [← and_or_left, and_iff_left_iff_imp]
  intro listed
  rw [turned place listed]
  cases screen.lit place <;> simp

/-- Drawing is an abelian action of order two on screens. The order of drawings is free, and two
equal ones cancel out; in particular a sprite drawn twice restores the screen. If the sprite is no
taller than the picture, one of the two drawings collides exactly if a complete row of the sprite has
a set pixel that is not clipped. -/
theorem drawings_commute_and_cancel (screen : Screen) :
    (∀ drawings others : List Drawing, drawings.Perm others →
      screen.drawAll drawings = screen.drawAll others) ∧
    (∀ (drawing : Drawing) (front middle back : List Drawing),
      screen.drawAll (front ++ drawing :: middle ++ drawing :: back) =
        screen.drawAll (front ++ middle ++ back)) ∧
    (∀ drawing : Drawing, (drawing.on (drawing.on screen).1).1 = screen) ∧
    ∀ drawing : Drawing, drawing.rows ≤ screen.height →
      (((drawing.on screen).2 = true ∨ (drawing.on (drawing.on screen).1).2 = true) ↔
        ∃ row < drawing.rows, ∃ column < 8 * Sprite.rowSize drawing.wide,
          drawing.bit row column = true ∧
            (screen.wrap = .clip → drawing.x.toNat % screen.width + column < screen.width)) := by
  refine ⟨?_, ?_, ?_, ?_⟩
  · intro drawings others same
    exact screen.drawAll_perm same
  · intro drawing front middle back
    exact screen.drawAll_cancel drawing front middle back
  · intro drawing
    exact screen.drawAll_cancel drawing [] [] []
  · intro drawing short
    rw [screen.collides_twice_iff drawing short, exists_mem_places_iff]

/-- At a clipping right edge: a sprite is erased by drawing it again with another one drawn in
between, and collides if one of its set pixels shows. -/
theorem drawings_commute_and_cancel_clipped :
    (blank .clip).drawAll [⟨63, 0, [0xC0], false⟩, ⟨60, 0, [0xFF, 0xFF], true⟩] =
        (blank .clip).drawAll [⟨60, 0, [0xFF, 0xFF], true⟩, ⟨63, 0, [0xC0], false⟩] ∧
      (blank .clip).drawAll
          [⟨63, 0, [0xC0], false⟩, ⟨60, 0, [0xFF, 0xFF], true⟩, ⟨63, 0, [0xC0], false⟩] =
        (blank .clip).drawAll [⟨60, 0, [0xFF, 0xFF], true⟩] ∧
      ((Drawing.on ⟨63, 0, [0xC0], false⟩ (blank .clip)).2 = true ∨
        (Drawing.on ⟨63, 0, [0xC0], false⟩
          (Drawing.on ⟨63, 0, [0xC0], false⟩ (blank .clip)).1).2 = true) ∧
      ¬ ((Drawing.on ⟨63, 0, [0x40], false⟩ (blank .clip)).2 = true ∨
        (Drawing.on ⟨63, 0, [0x40], false⟩
          (Drawing.on ⟨63, 0, [0x40], false⟩ (blank .clip)).1).2 = true) := by
  obtain ⟨permutes, cancels, _, collides⟩ := drawings_commute_and_cancel (blank .clip)
  refine ⟨?_, ?_, ?_, ?_⟩
  · exact permutes _ _ (List.Perm.swap _ _ [])
  · exact cancels ⟨63, 0, [0xC0], false⟩ [] [⟨60, 0, [0xFF, 0xFF], true⟩] []
  · exact (collides ⟨63, 0, [0xC0], false⟩ (by decide)).mpr (by decide)
  · exact mt (collides ⟨63, 0, [0x40], false⟩ (by decide)).mp (by decide)

end Screen

end SuperChip
