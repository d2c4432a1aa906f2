import SuperChip.Bare.Screen
import SuperChip.Proofs.Bare.Access
import SuperChip.Proofs.Margin

set_option autoImplicit false

namespace SuperChip

theorem Bare.pixelByte_xor (lit : Bool) : pixelByte lit ^^^ pixelOn = pixelByte (!lit) := by
  cases lit <;> rfl

theorem Bare.pixelByte_bne (lit : Bool) : (pixelByte lit != pixelOff) = lit := by
  cases lit <;> rfl

namespace Screen

open Bare (tabulate)

variable (screen : Screen)

theorem pixels_eq_tabulate : screen.pixels.toArray = tabulate 8192 screen.lit := by
  apply Array.ext
  · simp [tabulate]
  · intro place _ _
    simp [tabulate, lit]

theorem pixels_bare : screen.bare.pixels = (tabulate 8192 screen.lit).map Bare.pixelByte :=
  congrArg (Array.map Bare.pixelByte) screen.pixels_eq_tabulate

/-- The picture is stored, whatever the geometry. -/
theorem front?_bare :
    Bare.Window.front? screen.bare.pixels (screen.bare.width * screen.bare.height) =
      some ⟨0, screen.width * screen.height⟩ := by
  apply Bare.Window.front?_of_le
  change screen.geometry.area ≤ (screen.pixels.toArray.map Bare.pixelByte).size
  rw [Array.size_map, Vector.size_toArray]
  exact screen.geometry.area_le

theorem frame?_bare : screen.bare.frame? = some screen.frame.bare := by
  rw [Bare.Screen.frame?, front?_bare]
  have visible : (screen.pixels.toArray.map Bare.pixelByte).extract 0 screen.geometry.area =
      (screen.pixels.toArray.extract 0 screen.geometry.area).map Bare.pixelByte := by simp
  exact congrArg (fun pixels => some (Bare.Frame.mk screen.width screen.height pixels)) visible

theorem map_dark : (screen.bare.pixels.map fun _ => Bare.pixelOff) = screen.clear.bare.pixels := by
  apply Array.ext
  · simp [bare]
  · intro place _ _
    simp [bare, clear, Bare.pixelByte]

theorem clear_bare : screen.bare.clear = screen.clear.bare := by
  rw [Bare.Screen.clear, map_dark]
  rfl

theorem setGeometry_bare (geometry : Geometry) :
    screen.bare.setGeometry geometry = (screen.setGeometry geometry).bare :=
  clear_bare { screen with geometry }

theorem flip?_bare {place : Nat} (inside : place < 8192) :
    screen.bare.flip? place = some ((screen.flip place).bare, screen.lit place) := by
  have stored : place < screen.bare.pixels.size := by simpa [bare] using inside
  have pixel : screen.bare.pixels[place]? = some (Bare.pixelByte screen.pixels[place]) := by
    simp [bare, inside]
  simp only [Bare.Screen.flip?, pixel, Option.bind_eq_bind, Option.bind_some,
    Bare.put?_of_lt stored, Bare.pixelByte_xor, Bare.pixelByte_bne, flip, lit, inside]
  simp [bare, inside]

theorem flipAll_append (places more : List Nat) :
    screen.flipAll (places ++ more) =
      (((screen.flipAll places).1.flipAll more).1,
        (screen.flipAll places).2 || ((screen.flipAll places).1.flipAll more).2) := by
  induction places generalizing screen with
  | nil => simp [flipAll]
  | cons place rest ih =>
    rw [List.cons_append, flipAll, ih]
    simp [flipAll, Bool.or_assoc]

theorem place?_congr {screen other : Screen} (geometry : other.geometry = screen.geometry)
    (wrap : other.wrap = screen.wrap) : other.place? = screen.place? := by
  obtain ⟨pixels, _, _⟩ := other
  subst geometry wrap
  rfl

theorem place?_flipAll (places : List Nat) : (screen.flipAll places).1.place? = screen.place? :=
  place?_congr (screen.geometry_flipAll places).1 (screen.geometry_flipAll places).2

theorem place?_eq_across (ox oy row column : Nat) :
    screen.place? ox oy row column = (screen.bare.across (ox + column)).map
      ((oy + row) % screen.height * screen.width + ·) := by
  unfold place? Bare.Screen.across
  change _ = Option.map _ (if ox + column < screen.width then _ else _)
  split
  · rfl
  · simp only [bare]
    cases screen.wrap with
    | wrap => rfl
    | clip => rfl

/-- If a pixel is dropped behind the right edge, so are those to the right of it. -/
theorem across_eq_none {column later : Nat} (behind : column ≤ later)
    (dropped : screen.bare.across column = none) : screen.bare.across later = none := by
  unfold Bare.Screen.across at dropped ⊢
  split at dropped
  · cases dropped
  · rename_i outside
    rw [if_neg (fun within => outside (Nat.lt_of_le_of_lt behind within))]
    cases wrap : screen.bare.wrap with
    | wrap =>
      rw [wrap] at dropped
      cases dropped
    | clip => rfl

/-- Where the set pixels of a part of a sprite row fall. -/
def rowPlaces (ox oy number : Nat) (row : UInt16) (column count : Nat) : List Nat :=
  ((List.range' column count).filter (Sprite.rowBit row)).filterMap (screen.place? ox oy number)

section Row

variable {screen} {ox oy number column count : Nat} {row : UInt16}

theorem rowPlaces_unset (unset : ¬ Sprite.rowBit row column) :
    screen.rowPlaces ox oy number row column (count + 1) =
      screen.rowPlaces ox oy number row (column + 1) count := by
  rw [rowPlaces, List.range'_succ, List.filter_cons_of_neg unset]
  rfl

theorem rowPlaces_set (set : Sprite.rowBit row column) {px : Nat}
    (falls : screen.bare.across (ox + column) = some px) :
    screen.rowPlaces ox oy number row column (count + 1) =
      ((oy + number) % screen.height * screen.width + px) ::
        screen.rowPlaces ox oy number row (column + 1) count := by
  rw [rowPlaces, List.range'_succ, List.filter_cons_of_pos set, List.filterMap_cons, place?_eq_across,
    falls]
  rfl

/-- Once a pixel is dropped, nothing more of the row falls anywhere. -/
theorem rowPlaces_dropped (dropped : screen.bare.across (ox + column) = none) :
    screen.rowPlaces ox oy number row column count = [] := by
  rw [rowPlaces, List.filterMap_eq_nil_iff]
  intro later listed
  have behind := (List.mem_range'_1.mp (List.mem_filter.mp listed).1).1
  rw [place?_eq_across, screen.across_eq_none (by omega) dropped]
  rfl

end Row

theorem rowPlaces_flip (place : Nat) :
    (screen.flip place).rowPlaces = screen.rowPlaces := by
  funext ox oy number row column count
  rw [rowPlaces, rowPlaces, ← screen.place?_flipAll [place]]
  rfl

theorem drawRow?_bare (ox oy number : Nat) (row : UInt16) (column count : Nat) :
    Bare.Screen.drawRow? ox ((oy + number) % screen.height) row column count screen.bare =
      some ((screen.flipAll (screen.rowPlaces ox oy number row column count)).map bare id) := by
  induction count generalizing column screen with
  | zero => rfl
  | succ count ih =>
    unfold Bare.Screen.drawRow?
    split
    · rename_i set
      cases falls : screen.bare.across (ox + column) with
      | none =>
        rw [rowPlaces_dropped falls]
        rfl
      | some px =>
        have place : screen.place? ox oy number column =
            some ((oy + number) % screen.height * screen.width + px) := by
          rw [place?_eq_across, falls]
          rfl
        have inside := Nat.lt_of_lt_of_le (place?_lt_area place) screen.geometry.area_le
        rw [rowPlaces_set set falls]
        -- Turning over a pixel changes no place that the rest of the row falls in.
        have flipped := screen.flip?_bare inside
        have later := ih (screen.flip ((oy + number) % screen.height * screen.width + px)) (column + 1)
        have height : (screen.flip ((oy + number) % screen.height * screen.width + px)).height =
            screen.height := congrArg Geometry.height (screen.geometry_flip _)
        have width : screen.bare.width = screen.width := rfl
        rw [height, rowPlaces_flip] at later
        simp only [width, flipped, later, Option.bind_eq_bind, Option.bind_some, Option.pure_def,
          flipAll]
        rfl
    · rename_i unset
      rw [rowPlaces_unset unset]
      exact ih screen (column + 1)

/-- A row of which only the first `count` pixels can be set falls where these do. -/
theorem rowPlaces_of_blank {count : Nat} (within : count ≤ 16) {row : UInt16}
    (blank : ∀ column, count ≤ column → column < 16 → Sprite.rowBit row column = false)
    (ox oy number : Nat) :
    screen.rowPlaces ox oy number row 0 count = screen.rowPlaces ox oy number row 0 16 := by
  have behind : (List.range' count (16 - count)).filter (Sprite.rowBit row) = [] := by
    rw [List.filter_eq_nil_iff]
    intro column listed
    have bounds := List.mem_range'_1.mp listed
    rw [blank column bounds.1 (by omega)]
    exact Bool.false_ne_true
  have all : List.range' 0 16 = List.range' 0 count ++ List.range' count (16 - count) := by
    have joined : List.range' 0 count ++ List.range' (0 + count) (16 - count) =
        List.range' 0 (count + (16 - count)) := List.range'_append_1
    rw [Nat.zero_add, Nat.add_sub_cancel' within] at joined
    exact joined.symm
  rw [rowPlaces, rowPlaces, all, List.filter_append, behind, List.append_nil]

theorem filterMap_rowMarks (ox oy number : Nat) (row : UInt16) :
    (Sprite.rowMarks number row).filterMap
        (fun (number, column) => screen.place? ox oy number column) =
      screen.rowPlaces ox oy number row 0 16 := by
  rw [Sprite.rowMarks, List.filterMap_map, List.range_eq_range']
  rfl

theorem drawRows?_bare (ox oy : Nat) {count : Nat} (within : count ≤ 16) (number : Nat)
    {rows : List UInt16} (blank : ∀ row ∈ rows, ∀ column, count ≤ column → column < 16 →
      Sprite.rowBit row column = false) :
    Bare.Screen.drawRows? ox oy count number rows screen.bare =
      some ((screen.flipAll (((rows.zipIdx number).flatMap fun (row, number) =>
        Sprite.rowMarks number row).filterMap fun (number, column) =>
          screen.place? ox oy number column)).map bare id) := by
  induction rows generalizing number screen with
  | nil => rfl
  | cons row rest ih =>
    rw [List.forall_mem_cons] at blank
    have first := screen.drawRow?_bare ox oy number row 0 count
    rw [screen.rowPlaces_of_blank within blank.1] at first
    have later := ih (screen.flipAll (screen.rowPlaces ox oy number row 0 16)).1 (number + 1) blank.2
    rw [place?_flipAll] at later
    have height : screen.bare.height = screen.height := rfl
    rw [List.zipIdx_cons, List.flatMap_cons, List.filterMap_append, filterMap_rowMarks,
      flipAll_append]
    simp only [Bare.Screen.drawRows?, height, first, later, Option.bind_eq_bind, Option.bind_some,
      Option.pure_def, Prod.map]
    rfl

end Screen

namespace Sprite

theorem rowBit_narrow (byte : UInt8) {column : Nat} (right : 8 ≤ column) (within : column < 16) :
    rowBit (UInt16.ofNat (byte.toNat * 256)) column = false := by
  have bound := byte.toNat_lt
  have value : (UInt16.ofNat (byte.toNat * 256)).toNat = byte.toNat * 2 ^ 8 := by
    change byte.toNat * 256 % 65536 = byte.toNat * 256
    omega
  have low : ¬ 8 ≤ 15 - column := by omega
  rw [rowBit, value, Nat.testBit_mul_two_pow, decide_eq_false low, Bool.false_and]

/-- The rows of a sprite are its first row and those of the other bytes. -/
theorem rows?_append {front : List UInt8} {wide : Bool} (rest : List UInt8)
    (whole : front.length = if wide then 2 else 1) :
    Bare.rows? (front ++ rest) wide = do
      let row ← Bare.row? front wide
      let rows ← Bare.rows? rest wide
      return row :: rows := by
  have positive : 0 < front.length := by
    rw [whole]
    split <;> decide
  unfold Bare.rows?
  generalize (if wide then 2 else 1) = size at whole
  subst whole
  have first : ((front ++ rest).drop (0 * front.length)).take front.length = front := by simp
  have later (number : Nat) :
      ((front ++ rest).drop ((number + 1) * front.length)).take front.length =
        (rest.drop (number * front.length)).take front.length := by
    rw [Nat.succ_mul, Nat.add_comm, ← List.drop_drop, List.drop_left]
  simp only [List.length_append, Nat.add_div_left _ positive, List.range_succ_eq_map,
    List.mapM_cons, List.mapM_map, first, later, Function.comp_def, Nat.succ_eq_add_one]

theorem rows?_narrow (bytes : List UInt8) : Bare.rows? bytes false = some (narrow bytes) := by
  induction bytes with
  | nil => rfl
  | cons byte rest ih =>
    have rows : Bare.rows? ([byte] ++ rest) false = _ := rows?_append rest rfl
    rw [ih] at rows
    exact rows

theorem rows?_wide (bytes : List UInt8) : Bare.rows? bytes true = some (wide bytes) := by
  fun_induction wide bytes with
  | case1 left right rest ih =>
    have rows : Bare.rows? ([left, right] ++ rest) true = _ := rows?_append rest rfl
    rw [ih] at rows
    exact rows
  | case2 bytes short =>
    match bytes with
    | [] => rfl
    | [_] => simp [Bare.rows?]
    | left :: right :: rest => exact absurd rfl (short left right rest)

end Sprite

namespace Screen

open Bare (tabulate tabulate_congr shift?_tabulate)

variable (screen : Screen)

theorem draw?_bare_narrow (x y : UInt8) (bytes : List UInt8) :
    screen.bare.draw? x y bytes false =
      some ((screen.draw x y (Sprite.narrow bytes)).map bare id) := by
  have blank : ∀ row ∈ Sprite.narrow bytes, ∀ column, 8 ≤ column → column < 16 →
      Sprite.rowBit row column = false := by
    intro row listed column right within
    obtain ⟨byte, _, rfl⟩ := List.mem_map.mp listed
    exact Sprite.rowBit_narrow byte right within
  rw [Bare.Screen.draw?, Sprite.rows?_narrow]
  exact screen.drawRows?_bare (x.toNat % screen.width) (y.toNat % screen.height) (by decide) 0 blank

theorem draw?_bare_wide (x y : UInt8) (bytes : List UInt8) :
    screen.bare.draw? x y bytes true =
      some ((screen.draw x y (Sprite.wide bytes)).map bare id) := by
  have blank : ∀ row ∈ Sprite.wide bytes, ∀ column, 16 ≤ column → column < 16 →
      Sprite.rowBit row column = false :=
    fun _ _ _ behind within => absurd behind (Nat.not_le_of_lt within)
  rw [Bare.Screen.draw?, Sprite.rows?_wide]
  exact screen.drawRows?_bare (x.toNat % screen.width) (y.toNat % screen.height) (by decide) 0 blank

/-- The pixels after the first `lines` lines of the picture were painted anew, each pixel from its
place. -/
def paintedUpTo (lines : Nat) (paint : Nat → Bool) : Array Bool :=
  tabulate 8192 fun place =>
    if place < lines * screen.width then paint place else screen.lit place

theorem lines_le : screen.height * screen.width ≤ 8192 := by
  rw [Nat.mul_comm]
  exact screen.geometry.area_le

/-- A place in a line tells the line and the column. -/
theorem place_row (line : Nat) {column : Nat} (narrow : column < screen.width) :
    (line * screen.width + column) / screen.width = line ∧
      (line * screen.width + column) % screen.width = column := by
  have positive : 0 < screen.width := screen.geometry.width_pos
  rw [Nat.mul_comm, Nat.mul_add_div positive, Nat.mul_add_mod, Nat.div_eq_of_lt narrow,
    Nat.mod_eq_of_lt narrow]
  exact ⟨rfl, rfl⟩

theorem repaint_bare (paint : Nat → Nat → Bool) :
    (screen.repaint paint).bare =
      ⟨(screen.paintedUpTo screen.height fun place =>
        paint (place % screen.width) (place / screen.width)).map Bare.pixelByte,
        screen.geometry, screen.wrap⟩ := by
  have area : screen.geometry.area = screen.height * screen.width := Nat.mul_comm _ _
  simp only [repaint, bare, paintedUpTo, Bare.Screen.mk.injEq, and_true, area]
  refine congrArg (Array.map Bare.pixelByte) ?_
  apply Array.ext
  · simp [tabulate]
  · intro place _ _
    simp [tabulate, lit]

/-- If each line is changed as asked, the whole picture is. -/
theorem onLines?_bare {change : Array UInt8 → Bare.Window → Option (Array UInt8)}
    {paint : Nat → Bool}
    (changes : ∀ line < screen.height,
      change ((screen.paintedUpTo line paint).map Bare.pixelByte)
          ⟨line * screen.width, screen.width⟩ =
        some ((screen.paintedUpTo (line + 1) paint).map Bare.pixelByte)) :
    screen.bare.onLines? change =
      some ⟨(screen.paintedUpTo screen.height paint).map Bare.pixelByte, screen.geometry,
        screen.wrap⟩ := by
  have positive : screen.bare.width ≠ 0 := Nat.ne_of_gt screen.geometry.width_pos
  have count : screen.width * screen.height / screen.bare.width = screen.height :=
    Nat.mul_div_cancel_left _ screen.geometry.width_pos
  have start : screen.bare.pixels = (screen.paintedUpTo 0 paint).map Bare.pixelByte := by
    refine screen.pixels_bare.trans (congrArg _ (tabulate_congr fun place _ => ?_))
    rw [Nat.zero_mul, if_neg (Nat.not_lt_zero place)]
  have loop : (List.range screen.height).foldlM
      (fun pixels line => change pixels ⟨0 + line * screen.bare.width, screen.bare.width⟩)
      ((screen.paintedUpTo 0 paint).map Bare.pixelByte) =
        some ((screen.paintedUpTo screen.height paint).map Bare.pixelByte) := by
    refine Bare.foldlM_range (fun lines => (screen.paintedUpTo lines paint).map Bare.pixelByte)
      fun line before => ?_
    rw [Nat.zero_add]
    exact changes line before
  rw [Bare.Screen.onLines?, front?_bare]
  simp only [Option.bind_eq_bind, Option.bind_some, Bare.Window.lines?, positive, if_false, count,
    List.foldlM_map, start, loop]
  rfl

theorem shift?_down {rows : Nat} (less : rows ≤ screen.height) :
    Bare.shift? (tabulate 8192 screen.lit) ⟨0, screen.width * screen.height⟩
      0 ((screen.height - rows) * screen.width) (rows * screen.width) 0 (rows * screen.width) false =
      some (screen.paintedUpTo screen.height fun place =>
        if place / screen.width < rows then false
        else screen.pixel (place % screen.width) (place / screen.width - rows)) := by
  have stored : screen.width * screen.height ≤ 8192 := screen.geometry.area_le
  have total : (screen.height - rows) * screen.width + rows * screen.width =
      screen.width * screen.height := by
    rw [← Nat.add_mul, Nat.sub_add_cancel less, Nat.mul_comm]
  refine (shift?_tabulate (by dsimp only; omega) (Nat.zero_le _) (by dsimp only; omega)
    (by dsimp only; omega) (Nat.zero_le _) (by dsimp only; omega) false).trans ?_
  refine congrArg some (tabulate_congr fun place _ => ?_)
  have row_column := Nat.div_add_mod' place screen.width
  have above : place / screen.width < rows ↔ place < rows * screen.width :=
    Nat.div_lt_iff_lt_mul screen.geometry.width_pos
  have area : screen.height * screen.width = screen.width * screen.height := Nat.mul_comm _ _
  simp only [Bare.Window.Has, pixel, above, area, Nat.sub_mul]
  by_cases free : place < rows * screen.width
  · rw [if_pos (by omega), if_pos (by omega), if_pos free]
  · have lower : rows * screen.width ≤ place / screen.width * screen.width :=
      Nat.mul_le_mul_right _ (Nat.le_of_not_lt (mt above.mp free))
    by_cases shown : place < screen.width * screen.height
    · rw [if_neg (by omega), if_pos (by omega), if_pos shown, if_neg free]
      congr 1
      omega
    · rw [if_neg (by omega), if_neg (by omega), if_neg shown]

theorem scrollDown?_bare (rows : Nat) :
    screen.bare.scrollDown? rows = some (screen.scrollDown rows).bare := by
  by_cases beyond : screen.height ≤ rows
  · rw [scrollDown, if_pos beyond, ← clear_bare]
    exact if_pos beyond
  · have less := Nat.le_of_not_le beyond
    have width : screen.bare.width = screen.width := rfl
    have height : screen.bare.height = screen.height := rfl
    have shifted := Bare.shift?_map Bare.pixelByte (tabulate 8192 screen.lit)
      ⟨0, screen.width * screen.height⟩ 0 ((screen.height - rows) * screen.width)
      (rows * screen.width) 0 (rows * screen.width) false
    rw [shift?_down screen less, ← pixels_bare] at shifted
    rw [scrollDown, if_neg beyond, repaint_bare]
    refine (if_neg beyond).trans ?_
    rw [front?_bare]
    simp only [Option.bind_eq_bind, Option.bind_some, Bare.sub?_of_le less, width, height]
    exact congrArg (Option.bind · fun pixels => some { screen.bare with pixels }) shifted

/-- One more line is painted if its pixels are as asked, and those before and behind it stay. -/
theorem tabulate_eq_paintedUpTo {line : Nat} {paint value : Nat → Bool}
    (earlier : ∀ place < line * screen.width, value place = paint place)
    (current : ∀ column < screen.width,
      value (line * screen.width + column) = paint (line * screen.width + column))
    (later : ∀ place, line * screen.width + screen.width ≤ place → value place = screen.lit place) :
    tabulate 8192 value = screen.paintedUpTo (line + 1) paint := by
  refine tabulate_congr fun place _ => ?_
  rw [Nat.succ_mul]
  by_cases before : place < line * screen.width
  · rw [if_pos (by omega), earlier place before]
  · by_cases within : place < line * screen.width + screen.width
    · have painted := current (place - line * screen.width) (by omega)
      rw [Nat.add_sub_cancel' (by omega)] at painted
      rw [if_pos within, painted]
    · rw [if_neg within, later place (by omega)]

theorem line_le {line : Nat} (shown : line < screen.height) :
    line * screen.width + screen.width ≤ 8192 := by
  rw [← Nat.succ_mul]
  exact Nat.le_trans (Nat.mul_le_mul_right _ shown) screen.lines_le

theorem shift?_right {line : Nat} (shown : line < screen.height) (columns : Nat) :
    Bare.shift? (screen.paintedUpTo line fun place => if place % screen.width < columns then false
        else screen.pixel (place % screen.width - columns) (place / screen.width))
      ⟨line * screen.width, screen.width⟩ 0 (screen.width - min columns screen.width)
      (min columns screen.width) 0 (min columns screen.width) false =
      some (screen.paintedUpTo (line + 1) fun place =>
        if place % screen.width < columns then false
        else screen.pixel (place % screen.width - columns) (place / screen.width)) := by
  refine (shift?_tabulate (screen.line_le shown) (Nat.zero_le _) (by dsimp only; omega) (by dsimp only; omega)
    (Nat.zero_le _) (by dsimp only; omega) false).trans ?_
  refine congrArg some (screen.tabulate_eq_paintedUpTo ?_ ?_ ?_)
  · intro place before
    simp only [Bare.Window.Has]
    rw [if_neg (by omega), if_neg (by omega), if_pos before]
  · intro column narrow
    obtain ⟨row, same⟩ := screen.place_row line narrow
    simp only [Bare.Window.Has, pixel, row, same]
    by_cases free : column < columns
    · rw [if_pos (by omega), if_pos free]
    · rw [if_neg (by omega), if_pos (by omega), if_neg (by omega), if_neg free]
      congr 1
      omega
  · intro place behind
    simp only [Bare.Window.Has]
    rw [if_neg (by omega), if_neg (by omega), if_neg (by omega)]

theorem scrollRight?_bare (columns : Nat) :
    screen.bare.scrollRight? columns = some (screen.scrollRight columns).bare := by
  rw [scrollRight, repaint_bare]
  refine screen.onLines?_bare fun line shown => ?_
  have kept : Bare.sub? screen.bare.width (min columns screen.bare.width) =
      some (screen.width - min columns screen.width) := Bare.sub?_of_le (Nat.min_le_right _ _)
  rw [kept]
  refine (Bare.shift?_map Bare.pixelByte _ _ _ _ _ _ _ false).trans ?_
  exact congrArg (Option.map _) (screen.shift?_right shown columns)

theorem shift?_left {line : Nat} (shown : line < screen.height) (columns : Nat) :
    Bare.shift? (screen.paintedUpTo line fun place =>
        if place % screen.width + columns < screen.width then
          screen.pixel (place % screen.width + columns) (place / screen.width)
        else false)
      ⟨line * screen.width, screen.width⟩ (min columns screen.width) screen.width 0
      (screen.width - min columns screen.width) screen.width false =
      some (screen.paintedUpTo (line + 1) fun place =>
        if place % screen.width + columns < screen.width then
          screen.pixel (place % screen.width + columns) (place / screen.width)
        else false) := by
  refine (shift?_tabulate (screen.line_le shown) (Nat.min_le_right _ _) (Nat.le_refl _) (by dsimp only; omega)
    (Nat.sub_le _ _) (Nat.le_refl _) false).trans ?_
  refine congrArg some (screen.tabulate_eq_paintedUpTo ?_ ?_ ?_)
  · intro place before
    simp only [Bare.Window.Has]
    rw [if_neg (by omega), if_neg (by omega), if_pos before]
  · intro column narrow
    obtain ⟨row, same⟩ := screen.place_row line narrow
    simp only [Bare.Window.Has, pixel, row, same]
    by_cases kept : column + columns < screen.width
    · rw [if_neg (by omega), if_pos (by omega), if_neg (by omega), if_pos kept]
      congr 1
      omega
    · rw [if_pos (by omega), if_neg kept]
  · intro place behind
    simp only [Bare.Window.Has]
    rw [if_neg (by omega), if_neg (by omega), if_neg (by omega)]

theorem scrollLeft?_bare (columns : Nat) :
    screen.bare.scrollLeft? columns = some (screen.scrollLeft columns).bare := by
  rw [scrollLeft, repaint_bare]
  refine screen.onLines?_bare fun line shown => ?_
  have kept : Bare.sub? screen.bare.width (min columns screen.bare.width) =
      some (screen.width - min columns screen.width) := Bare.sub?_of_le (Nat.min_le_right _ _)
  rw [kept]
  refine (Bare.shift?_map Bare.pixelByte _ _ _ _ _ _ _ false).trans ?_
  exact congrArg (Option.map _) (screen.shift?_left shown columns)

end Screen

end SuperChip
