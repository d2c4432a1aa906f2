import SuperChip.Bare.Loading
import SuperChip.Proofs.Bare.Machine
import SuperChip.Proofs.Building

set_option autoImplicit false

namespace SuperChip

namespace Bare

variable {α : Type} {size : Nat} {value : Nat → α}

theorem fill_all (cells : Array α) (filling : α) :
    fill cells ⟨0, cells.size⟩ filling = tabulate cells.size fun _ => filling := by
  apply Array.ext
  · simp [fill, tabulate]
  · intro place before _
    rw [fill, Array.size_mapIdx] at before
    simp [fill, tabulate, Window.Has, before]

/-- Copying an array to places that are there succeeds. -/
theorem copyTo?_tabulate {source : Array α} {start : Nat} (room : start + source.size ≤ size) :
    copyTo? (tabulate size value) source start =
      some (tabulate size fun place =>
        if start ≤ place then source[place - start]?.getD (value place) else value place) := by
  have within : start + source.size ≤ (tabulate size value).size := by simpa [tabulate] using room
  rw [copyTo?, Window.part?_of_le (Nat.le_add_right _ _) within]
  simp only [Option.bind_eq_bind, Option.bind_some, Option.pure_def, Option.some.injEq]
  apply Array.ext
  · simp [tabulate]
  · intro place _ _
    simp only [Array.getElem_mapIdx, tabulate, Array.getElem_ofFn, Window.Has]
    by_cases behind : start ≤ place
    · by_cases copied : place - start < source.size
      · have stretch : place < start + source.size := by omega
        simp [behind, copied, stretch]
      · have beyond : ¬ place < start + source.size := by omega
        simp [behind, copied, beyond]
    · simp [behind]

theorem blankMemory?_eq {memory font bigFont : Array UInt8} (cells : memory.size = 0x1010)
    (small : font.size = 80) (large : bigFont.size = 160) :
    blankMemory? memory font bigFont =
      some (tabulate 0x1010 fun place =>
        if 0x1000 ≤ place then 0xFF
        else if 80 ≤ place then bigFont[place - 80]?.getD 0 else font[place]?.getD 0) := by
  have zero := fill_all memory 0
  rw [cells] at zero
  have guard : Window.part? ⟨0, 0x1010⟩ Memory.size 0x1010 = some ⟨0x1000, 0x10⟩ := by decide
  have first : Memory.fontStart.toNat + font.size ≤ 0x1010 := by
    rw [small]
    decide
  have second : Memory.bigFontStart.toNat + bigFont.size ≤ 0x1010 := by
    rw [large]
    decide
  simp only [blankMemory?, cells, zero, copyTo?_tabulate first, copyTo?_tabulate second, guard,
    Option.bind_eq_bind, Option.bind_some, Option.pure_def, fill_tabulate]
  refine congrArg some (tabulate_congr fun place inside => ?_)
  have fills : Window.Has ⟨0x1000, 0x10⟩ place ↔ 0x1000 ≤ place :=
    ⟨And.left, fun behind => ⟨behind, inside⟩⟩
  have start : Memory.fontStart.toNat = 0 := rfl
  have bigStart : Memory.bigFontStart.toNat = 80 := rfl
  simp only [fills, start, bigStart, Nat.zero_le, if_true, Nat.sub_zero]
  -- Where the big font lies the small one has ended.
  by_cases behind : 80 ≤ place
  · have ended : font[place]? = none := Array.getElem?_eq_none (by omega)
    rw [ended]
    rfl
  · rw [if_neg behind, if_neg behind]

end Bare

namespace Memory

open Bare (tabulate tabulate_congr)

theorem bytes_eq_tabulate (memory : Memory) : memory.bytes.toArray = tabulate 0x1010 memory.cell := by
  apply Array.ext
  · simp [tabulate]
  · intro place _ _
    simp [tabulate, cell]

theorem copyTo?_bare (memory : Memory) {program : Array UInt8} (fits : program.size ≤ programLimit) :
    Bare.copyTo? memory.bytes.toArray program programStart.toNat =
      some (memory.withProgram program).bytes.toArray := by
  have limit : program.size ≤ 0xE00 := fits
  have start : programStart.toNat = 0x200 := rfl
  have room : programStart.toNat + program.size ≤ 0x1010 := by omega
  rw [memory.bytes_eq_tabulate, (memory.withProgram program).bytes_eq_tabulate,
    Bare.copyTo?_tabulate room, start]
  refine congrArg some (tabulate_congr fun place inside => ?_)
  by_cases ahead : place < 0x200
  · rw [if_neg (Nat.not_le_of_lt ahead), cell_withProgram_before _ _ _ ahead]
  · have behind : 0x200 ≤ place := Nat.le_of_not_lt ahead
    rw [if_pos behind]
    by_cases addressed : place < 0x1000
    · rw [cell_withProgram _ _ _ behind addressed]
    · have ended : program[place - 0x200]? = none := Array.getElem?_eq_none (by omega)
      rw [cell_withProgram_guard _ _ _ (Nat.le_of_not_lt addressed), ended]
      rfl

end Memory

namespace State

open Bare (tabulate tabulate_congr)

variable (state : State)

theorem setFont_loader (bytes : Array UInt8) :
    state.loader.setFont bytes = state.answered (state.setFont bytes) := by
  unfold Bare.Loader.setFont setFont Font.ofBytes?
  by_cases size : bytes.size = 80
  · simp only [if_pos size, dif_pos size]
    rfl
  · simp only [if_neg size, dif_neg size]
    rfl

theorem blankMemory?_bare :
    Bare.blankMemory? state.memory.bytes.toArray state.font.toArray Font.big.toArray =
      some (Memory.blank state.font).bytes.toArray := by
  rw [Bare.blankMemory?_eq (Vector.size_toArray _) (Vector.size_toArray _) (Vector.size_toArray _),
    (Memory.blank state.font).bytes_eq_tabulate]
  refine congrArg some (tabulate_congr fun place inside => ?_)
  by_cases behind : 0x1000 ≤ place
  · rw [if_pos behind, Memory.cell_blank_guard _ _ behind]
  · rw [if_neg behind, Memory.cell_blank _ _ (Nat.lt_of_not_le behind)]

theorem reset?_loader : state.loader.reset? = some state.reset.loader := by
  have screen := state.screen.setGeometry_bare .standard
  simp only [Bare.Loader.reset?, loader, bare, blankMemory?_bare, screen, Option.bind_eq_bind,
    Option.bind_some]
  rfl

theorem loadProgram?_loader (program : Array UInt8) :
    state.loader.loadProgram? program = some (state.answered (state.loadProgram program)) := by
  unfold Bare.Loader.loadProgram? loadProgram
  split
  · rfl
  · split
    · rfl
    · rename_i fits
      rw [reset?_loader]
      generalize state.reset = fresh
      have copied := fresh.memory.copyTo?_bare (Nat.le_of_not_lt fits)
      simp only [loader, bare, copied, Option.bind_eq_bind, Option.bind_some]
      rfl

end State

end SuperChip
