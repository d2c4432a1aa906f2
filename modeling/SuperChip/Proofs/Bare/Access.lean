import SuperChip.Bare.Access

set_option autoImplicit false

namespace SuperChip.Bare

variable {α β : Type}

/-- A loop runs through if each of its turns leads from one state to the next. -/
theorem foldlM_range {turn : β → Nat → Option β} (state : Nat → β) {count : Nat}
    (turns : ∀ i < count, turn (state i) i = some (state (i + 1))) :
    (List.range count).foldlM turn (state 0) = some (state count) := by
  induction count with
  | zero => rfl
  | succ count ih =>
    have earlier := ih fun i before => turns i (Nat.lt_succ_of_lt before)
    have last := turns count (Nat.lt_succ_self count)
    rw [List.range_succ, List.foldlM_append, earlier]
    simp [last]

theorem mapM_of_forall {f : α → Option β} {g : α → β} {values : List α}
    (succeeds : ∀ value ∈ values, f value = some (g value)) :
    values.mapM f = some (values.map g) := by
  induction values with
  | nil => rfl
  | cons value rest ih =>
    rw [List.forall_mem_cons] at succeeds
    simp [succeeds.1, ih succeeds.2]

theorem getElem?_ofFn {size : Nat} {value : Fin size → α} {place : Nat} (inside : place < size) :
    (Vector.ofFn value).toArray[place]? = some (value ⟨place, inside⟩) := by
  simp [inside]

theorem put?_of_lt {cells : Array α} {place : Nat} (inside : place < cells.size) (value : α) :
    put? cells place value = some (cells.set place value) :=
  dif_pos inside

theorem sub?_of_le {left right : Nat} (less : right ≤ left) : sub? left right = some (left - right) :=
  if_pos less

namespace Window

theorem front?_of_le {cells : Array α} {count : Nat} (within : count ≤ cells.size) :
    front? cells count = some ⟨0, count⟩ :=
  if_pos within

theorem part?_of_le {window : Window} {first last : Nat} (order : first ≤ last)
    (within : last ≤ window.length) :
    window.part? first last = some ⟨window.start + first, last - first⟩ :=
  if_pos ⟨order, within⟩

end Window

theorem copyFront?_of_short {cells source : Array α} {count : Nat}
    (short : cells.size < count ∨ source.size < count) : copyFront? cells source count = none := by
  unfold copyFront? Window.front?
  by_cases room : count ≤ cells.size
  · have few : ¬ count ≤ source.size := by omega
    simp [few]
  · simp [room]

/-- Copying the first cells of one array over those of another succeeds if both have them. -/
theorem copyFront?_of_le {cells source result : Array α} {count : Nat}
    (room : count ≤ cells.size) (enough : count ≤ source.size)
    (copied : ∀ place < count, result[place]? = source[place]?)
    (kept : ∀ place, count ≤ place → result[place]? = cells[place]?) :
    copyFront? cells source count = some result := by
  simp only [copyFront?, Window.front?_of_le room, Window.front?_of_le enough, Option.bind_eq_bind,
    Option.bind_some, Option.pure_def, Option.some.injEq]
  refine Array.ext_getElem? fun place => ?_
  rw [Array.getElem?_mapIdx]
  by_cases ahead : place < count
  · have stored : place < cells.size := by omega
    have read : place < source.size := by omega
    rw [copied place ahead]
    simp [stored, read, Window.Has, ahead]
  · rw [kept place (Nat.le_of_not_lt ahead)]
    simp [Window.Has, ahead]

/-- The array of the values at the places below `size`. -/
def tabulate (size : Nat) (value : Nat → α) : Array α := Array.ofFn fun place : Fin size => value place

variable {size : Nat} {value : Nat → α}

theorem tabulate_congr {other : Nat → α} (same : ∀ place < size, value place = other place) :
    tabulate size value = tabulate size other :=
  congrArg Array.ofFn (funext fun place => same place place.isLt)

theorem fill_tabulate (window : Window) (filling : α) :
    fill (tabulate size value) window filling =
      tabulate size fun place => if window.Has place then filling else value place := by
  apply Array.ext
  · simp [fill, tabulate]
  · intro place _ _
    simp [fill, tabulate]

/-- Within a window that lies in the array, copying cells that the window has to places that it has
succeeds. -/
theorem copyWithin?_tabulate {window : Window} (inside : window.start + window.length ≤ size)
    {first last target : Nat} (order : first ≤ last) (within : last ≤ window.length)
    (room : target + (last - first) ≤ window.length) :
    copyWithin? (tabulate size value) window first last target =
      some (tabulate size fun place =>
        if Window.Has ⟨window.start + target, last - first⟩ place
        then value (window.start + first + (place - (window.start + target)))
        else value place) := by
  have goal := Window.part?_of_le (Nat.le_add_right target (last - first)) room
  rw [Nat.add_sub_cancel_left] at goal
  simp only [copyWithin?, Window.part?_of_le order within, goal, Option.bind_eq_bind,
    Option.bind_some, Option.pure_def, Option.some.injEq]
  apply Array.ext
  · simp [tabulate]
  · intro place _ _
    simp only [Array.getElem_mapIdx, tabulate, Array.getElem_ofFn]
    split
    · rename_i copied
      obtain ⟨ahead, behind⟩ := copied
      have stored : window.start + first + (place - (window.start + target)) < size := by
        dsimp only at ahead behind
        omega
      simp [stored]
    · rfl

/-- Moving cells within a window and filling a gap in it succeeds. -/
theorem shift?_tabulate {window : Window} (inside : window.start + window.length ≤ size)
    {first last target left right : Nat} (order : first ≤ last) (within : last ≤ window.length)
    (room : target + (last - first) ≤ window.length) (ahead : left ≤ right)
    (ends : right ≤ window.length) (filling : α) :
    shift? (tabulate size value) window first last target left right filling =
      some (tabulate size fun place =>
        if Window.Has ⟨window.start + left, right - left⟩ place then filling
        else if Window.Has ⟨window.start + target, last - first⟩ place
        then value (window.start + first + (place - (window.start + target)))
        else value place) := by
  simp only [shift?, copyWithin?_tabulate inside order within room, Window.part?_of_le ahead ends,
    Option.bind_eq_bind, Option.bind_some, Option.pure_def, fill_tabulate]

section Map

variable (f : α → β)

theorem fill_map (cells : Array α) (window : Window) (filling : α) :
    fill (cells.map f) window (f filling) = (fill cells window filling).map f := by
  refine Array.ext_getElem? fun place => ?_
  simp only [fill, Array.getElem?_mapIdx, Array.getElem?_map, Option.map_map, Function.comp_def,
    apply_ite f]

theorem copyWithin?_map (cells : Array α) (window : Window) (first last target : Nat) :
    copyWithin? (cells.map f) window first last target =
      (copyWithin? cells window first last target).map (Array.map f) := by
  unfold copyWithin?
  cases window.part? first last with
  | none => rfl
  | some source =>
    simp only [Option.bind_eq_bind, Option.bind_some]
    cases window.part? target (target + source.length) with
    | none => rfl
    | some goal =>
      refine congrArg some (Array.ext_getElem? fun place => ?_)
      simp only [Array.getElem?_mapIdx, Array.getElem?_map, Option.map_map, Function.comp_def,
        apply_ite f, Option.getD_map]

/-- Moving cells and filling a gap does not look at the cells, so it is the same on any others. -/
theorem shift?_map (cells : Array α) (window : Window) (first last target left right : Nat)
    (filling : α) :
    shift? (cells.map f) window first last target left right (f filling) =
      (shift? cells window first last target left right filling).map (Array.map f) := by
  rw [shift?, copyWithin?_map, shift?]
  cases copyWithin? cells window first last target with
  | none => rfl
  | some moved =>
    simp only [Option.bind_eq_bind, Option.map_some, Option.bind_some]
    cases window.part? left right with
    | none => rfl
    | some gap => exact congrArg some (fill_map f moved gap filling)

end Map

end SuperChip.Bare
