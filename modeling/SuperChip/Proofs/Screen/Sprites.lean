import SuperChip.Proofs.Bare.Screen

set_option autoImplicit false

namespace SuperChip

namespace Sprite

/-- How many bytes a row has. -/
def rowSize (wide : Bool) : Nat := if wide then 2 else 1

theorem rowSize_pos (wide : Bool) : 0 < rowSize wide := by cases wide <;> decide

theorem rowSize_le (wide : Bool) : rowSize wide ≤ 2 := by cases wide <;> decide

/-- The sprite that bytes stand for; half a row at the end does not count. -/
def ofBytes (bytes : List UInt8) (wide : Bool) : Sprite :=
  if wide then .wide bytes else .narrow bytes

/-- Whether the pixel in `row` and `column` is set, if the rows have `size` bytes each and the most
significant bit of a byte is its leftmost pixel. -/
def bit (size : Nat) (byte : Nat → UInt8) (row column : Nat) : Bool :=
  (byte (size * row + column / 8)).toNat.testBit (7 - column % 8)

theorem bit_congr {size row column : Nat} {byte other : Nat → UInt8}
    (same : byte (size * row + column / 8) = other (size * row + column / 8)) :
    bit size byte row column = bit size other row column := by
  rw [bit, bit, same]

/-- The two bytes of a row have its left and its right half. -/
theorem rowBit_of_bytes (left right : UInt8) {column : Nat} (within : column < 16) :
    rowBit (UInt16.ofNat (left.toNat * 256 + right.toNat)) column =
      if column < 8 then left.toNat.testBit (7 - column) else right.toNat.testBit (15 - column) := by
  have leftBound := left.toNat_lt
  have rightBound := right.toNat_lt
  have value : (UInt16.ofNat (left.toNat * 256 + right.toNat)).toNat =
      2 ^ 8 * left.toNat + right.toNat := by
    change (left.toNat * 256 + right.toNat) % 65536 = 256 * left.toNat + right.toNat
    omega
  rw [rowBit, value, Nat.testBit_two_pow_mul_add _ rightBound]
  by_cases first : column < 8
  · have high : ¬ 15 - column < 8 := by omega
    have place : 15 - column - 8 = 7 - column := by omega
    rw [if_neg high, if_pos first, place]
  · have low : 15 - column < 8 := by omega
    rw [if_pos low, if_neg first]

theorem getElem?_wide (bytes : List UInt8) (row : Nat) :
    (wide bytes)[row]? =
      if row < bytes.length / 2 then
        some (UInt16.ofNat ((bytes.getD (2 * row) 0).toNat * 256 +
          (bytes.getD (2 * row + 1) 0).toNat))
      else none := by
  fun_induction wide bytes generalizing row with
  | case1 left right rest ih =>
    cases row with
    | zero => simp
    | succ row =>
      have behind : row + 1 < (left :: right :: rest).length / 2 ↔ row < rest.length / 2 := by
        simp only [List.length_cons]
        omega
      have place : 2 * (row + 1) = 2 * row + 1 + 1 := by omega
      simp only [List.getElem?_cons_succ, ih, behind, place, List.getD_cons_succ]
  | case2 bytes short =>
    have none : bytes.length / 2 = 0 := by
      rcases bytes with _ | ⟨left, _ | ⟨right, rest⟩⟩
      · rfl
      · exact Nat.div_eq_of_lt (show 1 < 2 by decide)
      · exact absurd rfl (short left right rest)
    rw [none, if_neg (Nat.not_lt_zero row)]
    rfl

theorem mem_marks_iff (sprite : Sprite) (row column : Nat) :
    (row, column) ∈ sprite.marks ↔
      ∃ bits, sprite[row]? = some bits ∧ column < 16 ∧ rowBit bits column = true := by
  simp only [marks, rowMarks, List.mem_flatMap, List.mem_map, List.mem_filter, List.mem_range,
    Prod.mk.injEq]
  constructor
  · rintro ⟨⟨bits, number⟩, listed, _, ⟨within, set⟩, rfl, rfl⟩
    exact ⟨bits, List.mk_mem_zipIdx_iff_getElem?.mp listed, within, set⟩
  · rintro ⟨bits, found, within, set⟩
    exact ⟨(bits, row), List.mk_mem_zipIdx_iff_getElem?.mpr found, column, ⟨within, set⟩, rfl, rfl⟩

theorem mem_marks_narrow (bytes : List UInt8) (row column : Nat) :
    (row, column) ∈ (narrow bytes).marks ↔
      row < bytes.length ∧ column < 8 ∧ bit 1 (bytes.getD · 0) row column = true := by
  rw [mem_marks_iff, narrow, List.getElem?_map]
  by_cases inside : row < bytes.length
  · have value : bytes.getD row 0 = bytes[row] := by simp [inside]
    by_cases left : column < 8
    · have first : 1 * row + column / 8 = row := by omega
      have place : 7 - column % 8 = 7 - column := by omega
      have within : column < 16 := by omega
      have bits := rowBit_of_bytes bytes[row] 0 within
      rw [if_pos left, UInt8.toNat_zero, Nat.add_zero] at bits
      simp only [bit, first, place, value, List.getElem?_eq_getElem inside, Option.map_some,
        Option.some.injEq, exists_eq_left', inside, left, within, bits, true_and]
    · simp only [left, false_and, and_false, iff_false, List.getElem?_eq_getElem inside,
        Option.map_some, Option.some.injEq, exists_eq_left']
      rintro ⟨within, set⟩
      rw [rowBit_narrow _ (Nat.le_of_not_lt left) within] at set
      cases set
  · simp [inside]

theorem mem_marks_wide (bytes : List UInt8) (row column : Nat) :
    (row, column) ∈ (wide bytes).marks ↔
      row < bytes.length / 2 ∧ column < 16 ∧ bit 2 (bytes.getD · 0) row column = true := by
  rw [mem_marks_iff, getElem?_wide]
  by_cases inside : row < bytes.length / 2
  · simp only [inside, if_true, Option.some.injEq, exists_eq_left', true_and]
    refine and_congr_right fun within => ?_
    rw [rowBit_of_bytes _ _ within, bit]
    by_cases left : column < 8
    · have first : 2 * row + column / 8 = 2 * row := by omega
      have place : 7 - column % 8 = 7 - column := by omega
      rw [if_pos left, first, place]
    · have second : 2 * row + column / 8 = 2 * row + 1 := by omega
      have place : 7 - column % 8 = 15 - column := by omega
      rw [if_neg left, second, place]
  · simp [inside]

/-- A pixel is marked if it is the set bit of a byte in a complete row. -/
theorem mem_marks_ofBytes (bytes : List UInt8) (wide : Bool) (row column : Nat) :
    (row, column) ∈ (ofBytes bytes wide).marks ↔
      row < bytes.length / rowSize wide ∧ column < 8 * rowSize wide ∧
        bit (rowSize wide) (bytes.getD · 0) row column = true := by
  cases wide with
  | false =>
    have rows : bytes.length / rowSize false = bytes.length := Nat.div_one _
    rw [rows]
    exact mem_marks_narrow bytes row column
  | true => exact mem_marks_wide bytes row column

theorem nodup_rowMarks (number : Nat) (row : UInt16) : (rowMarks number row).Nodup := by
  rw [rowMarks, List.Nodup, List.pairwise_map]
  refine List.Pairwise.imp ?_ (List.nodup_range.filter (rowBit row))
  intro first second other same
  exact other (Prod.mk.inj same).2

/-- No pixel of a sprite is listed twice: each row is its own, and its columns ascend. -/
theorem nodup_marks (sprite : Sprite) : sprite.marks.Nodup := by
  rw [marks, List.Nodup, List.pairwise_flatMap]
  refine ⟨fun (row, number) _ => nodup_rowMarks number row, ?_⟩
  have numbered : (sprite.zipIdx.map Prod.snd).Nodup := by
    rw [List.zipIdx_map_snd]
    exact List.nodup_range'
  rw [List.Nodup, List.pairwise_map] at numbered
  refine numbered.imp ?_
  rintro ⟨row, number⟩ ⟨other, later⟩ apart first marked second listed rfl
  obtain ⟨_, _, rfl⟩ := List.mem_map.mp marked
  obtain ⟨_, _, same⟩ := List.mem_map.mp listed
  exact apart (Prod.mk.inj same).1.symm

end Sprite

namespace Screen

/-- Whether a column, which may lie beyond the right edge, shows as column `px` of the picture. -/
def ShowsIn (screen : Screen) (column px : Nat) : Prop :=
  (if screen.wrap = .wrap then column % screen.width else column) = px

instance (screen : Screen) (column px : Nat) : Decidable (screen.ShowsIn column px) :=
  inferInstanceAs (Decidable (_ = _))

/-- Whether a sprite drawn at `(x, y)` covers the pixel in column `px` of row `py`. The sprite has
`rows` rows of `size` bytes each. -/
def Covers (screen : Screen) (x y : UInt8) (size rows : Nat) (byte : Nat → UInt8) (px py : Nat) :
    Prop :=
  ∃ row < rows, ∃ column < 8 * size, Sprite.bit size byte row column = true ∧
    (y.toNat % screen.height + row) % screen.height = py ∧
    screen.ShowsIn (x.toNat % screen.width + column) px

instance (screen : Screen) (x y : UInt8) (size rows : Nat) (byte : Nat → UInt8) (px py : Nat) :
    Decidable (screen.Covers x y size rows byte px py) :=
  inferInstanceAs (Decidable (∃ row < rows, ∃ column < 8 * size, _ ∧ _))

variable (screen : Screen)

theorem across_eq_some_iff (column px : Nat) :
    screen.bare.across column = some px ↔ px < screen.width ∧ screen.ShowsIn column px := by
  have positive : 0 < screen.width := screen.geometry.width_pos
  have below := Nat.mod_lt column positive
  have width : screen.bare.width = screen.width := rfl
  have wrap : screen.bare.wrap = screen.wrap := rfl
  unfold Bare.Screen.across ShowsIn
  rw [width, wrap]
  by_cases within : column < screen.width
  · rw [if_pos within, Nat.mod_eq_of_lt within, ite_self, Option.some.injEq]
    omega
  · rw [if_neg within]
    cases screen.wrap with
    | wrap =>
      simp only [if_true, Option.some.injEq]
      omega
    | clip =>
      simp only [reduceCtorEq, if_false, false_iff]
      omega

/-- Where a sprite pixel falls, told by the column and the row of the picture. -/
theorem place?_eq_some_iff (ox oy row column : Nat) {px : Nat} (narrow : px < screen.width)
    (py : Nat) :
    screen.place? ox oy row column = some (py * screen.width + px) ↔
      (oy + row) % screen.height = py ∧ screen.ShowsIn (ox + column) px := by
  rw [place?_eq_across, Option.map_eq_some_iff]
  constructor
  · rintro ⟨shown, across, same⟩
    obtain ⟨below, shows⟩ := (screen.across_eq_some_iff _ _).mp across
    have line := screen.place_row ((oy + row) % screen.height) below
    rw [same, (screen.place_row py narrow).1, (screen.place_row py narrow).2] at line
    obtain ⟨rfl, rfl⟩ := line
    exact ⟨rfl, shows⟩
  · rintro ⟨rfl, shows⟩
    exact ⟨px, (screen.across_eq_some_iff _ _).mpr ⟨narrow, shows⟩, rfl⟩

theorem mem_places_iff (x y : UInt8) (bytes : List UInt8) (wide : Bool) {px : Nat}
    (narrow : px < screen.width) (py : Nat) :
    py * screen.width + px ∈ screen.places x y (Sprite.ofBytes bytes wide) ↔
      screen.Covers x y (Sprite.rowSize wide) (bytes.length / Sprite.rowSize wide) (bytes.getD · 0)
        px py := by
  simp only [places, List.mem_filterMap, Prod.exists, Sprite.mem_marks_ofBytes,
    screen.place?_eq_some_iff _ _ _ _ narrow, Covers, and_assoc, exists_and_left]

/-- Around a circle, two ways shorter than it that end at one place are of one length. -/
theorem eq_of_add_mod_eq {size start first second : Nat} (short : first < size)
    (low : second < size) (same : (start + first) % size = (start + second) % size) :
    first = second := by
  have ahead := Nat.sub_mod_eq_zero_of_mod_eq same
  have behind := Nat.sub_mod_eq_zero_of_mod_eq same.symm
  rw [Nat.add_sub_add_left, Nat.mod_eq_of_lt (by omega)] at ahead behind
  omega

theorem ShowsIn.inj {screen : Screen} {ox column later px : Nat} (slim : column < 16)
    (thin : later < 16) (shows : screen.ShowsIn (ox + column) px)
    (meets : screen.ShowsIn (ox + later) px) : column = later := by
  have wide : 16 ≤ screen.width := by
    unfold width
    cases screen.geometry <;> decide
  unfold ShowsIn at shows meets
  split at shows
  · rename_i wraps
    rw [if_pos wraps] at meets
    exact eq_of_add_mod_eq (by omega) (by omega) (shows.trans meets.symm)
  · rename_i clips
    rw [if_neg clips] at meets
    omega

/-- Two pixels of a sprite that is no taller than the picture fall on different places. -/
theorem place?_inj {ox oy row column other later place : Nat} (short : row < screen.height)
    (low : other < screen.height) (slim : column < 16) (thin : later < 16)
    (falls : screen.place? ox oy row column = some place)
    (meets : screen.place? ox oy other later = some place) : row = other ∧ column = later := by
  have positive : 0 < screen.width := screen.geometry.width_pos
  have narrow := Nat.mod_lt place positive
  -- A place is a column of a line, so each of the two pixels falls in that line and that column.
  rw [← Nat.div_add_mod' place screen.width, screen.place?_eq_some_iff _ _ _ _ narrow] at falls meets
  exact ⟨eq_of_add_mod_eq short low (falls.1.trans meets.1.symm), falls.2.inj slim thin meets.2⟩

theorem nodup_places (x y : UInt8) {sprite : Sprite}
    (short : ∀ row column, (row, column) ∈ sprite.marks → row < screen.height) :
    (screen.places x y sprite).Nodup := by
  rw [places, List.Nodup, List.pairwise_filterMap]
  refine sprite.nodup_marks.imp_of_mem ?_
  rintro ⟨row, column⟩ ⟨other, later⟩ marked listed apart place falls _ meets rfl
  obtain ⟨_, _, slim, _⟩ := (Sprite.mem_marks_iff sprite row column).mp marked
  obtain ⟨_, _, thin, _⟩ := (Sprite.mem_marks_iff sprite other later).mp listed
  obtain ⟨rfl, rfl⟩ := screen.place?_inj (short _ _ marked) (short _ _ listed) slim thin falls meets
  exact apart rfl

end Screen

end SuperChip
