import SuperChip.Proofs.Bare.Loading
import SuperChip.Proofs.Soundness

set_option autoImplicit false

namespace SuperChip

/-- Memory with a program: the fonts and the program at their places, the guard behind, and zero
everywhere else. -/
structure Memory.Image (font : Font) (program : Array UInt8) (memory : Memory) : Prop where
  small : ∀ i (inside : i < 80), memory.cell i = font[i]
  large : ∀ i (inside : i < 160), memory.cell (80 + i) = Font.big[i]
  loaded : ∀ i (inside : i < program.size), memory.cell (0x200 + i) = program[i]
  guard : ∀ p, 0x1000 ≤ p → memory.cell p = 0xFF
  free : ∀ p, 240 ≤ p → p < 0x200 ∨ 0x200 + program.size ≤ p → p < 0x1000 → memory.cell p = 0

theorem Memory.image_withProgram (font : Font) {program : Array UInt8}
    (fits : program.size ≤ programLimit) : ((blank font).withProgram program).Image font program := by
  have limit : program.size ≤ 0xE00 := fits
  constructor
  · intro i inside
    rw [cell_withProgram_before _ _ _ (by omega), cell_blank _ _ (by omega), if_neg (by omega)]
    simp [inside]
  · intro i inside
    rw [cell_withProgram_before _ _ _ (by omega), cell_blank _ _ (by omega), if_pos (by omega),
      Nat.add_sub_cancel_left]
    simp [inside]
  · intro i inside
    rw [cell_withProgram _ _ _ (by omega) (by omega), Nat.add_sub_cancel_left]
    simp [inside]
  · intro p behind
    rw [cell_withProgram_guard _ _ _ behind, cell_blank_guard _ _ behind]
  · intro p behind apart before
    by_cases ahead : p < 0x200
    · rw [cell_withProgram_before _ _ _ ahead, cell_blank_free _ _ behind before]
    · have ended : program[p - 0x200]? = none := Array.getElem?_eq_none (by omega)
      rw [cell_withProgram _ _ _ (by omega) before, ended, cell_blank_free _ _ behind before]
      rfl

namespace Bare.Handling

/-- The font that a handling gives a state, if it is one. -/
def font? : Handling → Option (Array UInt8)
  | setFont bytes => if bytes.size = 80 then some bytes else none
  | _ => none

/-- The font that was given last, or the one from before. -/
def latestFont (font : Array UInt8) (handlings : List Handling) : Array UInt8 :=
  (handlings.filterMap font?).getLast?.getD font

theorem latestFont_cons (font : Array UInt8) (handling : Handling) (rest : List Handling) :
    latestFont font (handling :: rest) = latestFont (handling.font?.getD font) rest := by
  unfold latestFont
  rw [List.filterMap_cons]
  cases handling.font? with
  | none => rfl
  | some bytes =>
    simp only [List.getLast?_cons]
    rfl

end Bare.Handling

namespace State

open Bare (Handling)

variable (before : State)

/-- How a state answers to a font: one of the right size is kept for the next reset, and nothing else
changes; another is refused, and nothing changes. -/
structure TakesFont (bytes : Array UInt8) : Prop where
  accepts : bytes.size = 80 → ∃ after, before.setFont bytes = .ok after ∧
    before.loader.setFont bytes = ⟨after.loader, .ok ()⟩ ∧ after.font.toArray = bytes ∧
    after = { before with font := after.font }
  refuses : bytes.size ≠ 80 →
    before.setFont bytes = .error (.fontSize bytes.size 80) ∧
    before.loader.setFont bytes = ⟨before.loader, .error (.fontSize bytes.size 80)⟩

/-- A state just powered on, with a program in memory and the generator as it was. -/
structure Boots (program : Array UInt8) (after : State) : Prop where
  image : after.memory.Image before.font program
  rest : ∀ seed source, after =
    { State.powerOn before.mode before.compatibility before.screen.wrap seed source with
      memory := after.memory, generator := before.generator, font := before.font }

/-- How a state answers to a program: one that fits is loaded, another is refused for its size, and
nothing changes. -/
structure TakesProgram (program : Array UInt8) : Prop where
  accepts : 1 ≤ program.size → program.size ≤ 3584 → ∃ after, before.loadProgram program = .ok after ∧
    before.loader.loadProgram? program = some ⟨after.loader, .ok ()⟩ ∧ before.Boots program after
  refusesEmpty : program.size = 0 →
    before.loadProgram program = .error .programEmpty ∧
    before.loader.loadProgram? program = some ⟨before.loader, .error .programEmpty⟩
  refusesLarge : 3584 < program.size →
    before.loadProgram program = .error (.programTooLarge program.size 3584) ∧
    before.loader.loadProgram? program =
      some ⟨before.loader, .error (.programTooLarge program.size 3584)⟩

theorem setFont_eq_error_iff (bytes : Array UInt8) (error : MachineError) :
    before.setFont bytes = .error error ↔ bytes.size ≠ 80 ∧ error = .fontSize bytes.size 80 := by
  unfold setFont Font.ofBytes?
  by_cases size : bytes.size = 80
  · simp [size]
  · simp [size, eq_comm]

theorem loadProgram_eq_error_iff (program : Array UInt8) (error : MachineError) :
    before.loadProgram program = .error error ↔
      program = #[] ∧ error = .programEmpty ∨
      3584 < program.size ∧ error = .programTooLarge program.size 3584 := by
  have limit : Memory.programLimit = 3584 := rfl
  rw [loadProgram, limit, ← Array.size_eq_zero_iff]
  by_cases empty : program.size = 0
  · have few : ¬ 3584 < program.size := by omega
    simp [empty, eq_comm]
  · by_cases large : 3584 < program.size
    · simp [empty, large, eq_comm]
    · simp [empty, large]

theorem takesFont (bytes : Array UInt8) : before.TakesFont bytes := by
  have same := before.setFont_loader bytes
  constructor
  · intro size
    have taken : Font.ofBytes? bytes = some ⟨bytes, size⟩ := dif_pos size
    have accepted := (before.setFont_eq_ok_iff _ bytes).mpr ⟨_, taken, rfl⟩
    rw [accepted] at same
    exact ⟨_, accepted, same, rfl, rfl⟩
  · intro size
    have refused := (before.setFont_eq_error_iff bytes _).mpr ⟨size, rfl⟩
    rw [refused] at same
    exact ⟨refused, same⟩

theorem takesProgram (program : Array UInt8) : before.TakesProgram program := by
  have same := before.loadProgram?_loader program
  constructor
  · intro some fits
    have loads := (before.loadProgram_eq_ok_iff _ program).mpr ⟨⟨some, fits⟩, rfl⟩
    rw [loads] at same
    refine ⟨_, loads, same, ?_, fun seed source => rfl⟩
    exact Memory.image_withProgram before.font fits
  · intro empty
    have none := Array.size_eq_zero_iff.mp empty
    have refused := (before.loadProgram_eq_error_iff program _).mpr (.inl ⟨none, rfl⟩)
    rw [refused] at same
    exact ⟨refused, same⟩
  · intro large
    have refused := (before.loadProgram_eq_error_iff program _).mpr (.inr ⟨large, rfl⟩)
    rw [refused] at same
    exact ⟨refused, same⟩

theorem font_execute (instruction : Instruction) (held : Held) :
    (instruction.execute before held).state.font = before.font := by
  cases failure : instruction.failure? before with
  | some error => rw [Instruction.execute_of_failure failure]
  | none => exact (sameChoices_of_does (Instruction.does_execute failure held)).font

/-- Only a font that is accepted replaces the font. -/
theorem handle?_loader (handling : Handling) :
    ∃ after : State, before.loader.handle? handling = some after.loader ∧
      after.font.toArray = handling.font?.getD before.font.toArray := by
  cases handling with
  | setFont bytes =>
    by_cases size : bytes.size = 80
    · obtain ⟨after, _, accepted, font, _⟩ := (before.takesFont bytes).accepts size
      refine ⟨after, ?_, ?_⟩
      · rw [Bare.Loader.handle?, accepted]
      · rw [font, Handling.font?, if_pos size]
        rfl
    · obtain ⟨_, refused⟩ := (before.takesFont bytes).refuses size
      refine ⟨before, ?_, ?_⟩
      · rw [Bare.Loader.handle?, refused]
      · rw [Handling.font?, if_neg size]
        rfl
  | loadProgram program =>
    have same := before.loadProgram?_loader program
    cases loads : before.loadProgram program with
    | error error =>
      refine ⟨before, ?_, rfl⟩
      rw [Bare.Loader.handle?, same, loads]
      rfl
    | ok after =>
      obtain ⟨_, loaded⟩ := (before.loadProgram_eq_ok_iff after program).mp loads
      have font : after.font = before.font := by rw [loaded]; rfl
      refine ⟨after, ?_, congrArg Vector.toArray font⟩
      rw [Bare.Loader.handle?, same, loads]
      rfl
  | reset => exact ⟨before.reset, before.reset?_loader, rfl⟩
  | run word held =>
    have within := Word.withinFlags_decode before.mode word
    have executed := Instruction.execute?_bare within before held
    have state : before.loader.state = before.bare := rfl
    have mode : before.bare.mode = before.mode := rfl
    refine ⟨((word.decode before.mode).execute before held).state, ?_, ?_⟩
    · rw [Bare.Loader.handle?, state, mode, executed]
      have kept : ((word.decode before.mode).execute before held).state.loader =
          ⟨((word.decode before.mode).execute before held).state.bare, before.font.toArray⟩ := by
        rw [loader, before.font_execute _ held]
      rw [kept]
      rfl
    · exact congrArg Vector.toArray (before.font_execute _ held)
  | deliver x key =>
    refine ⟨before.deliverKey x key, ?_, rfl⟩
    have delivered := before.deliverKey?_bare x key
    simp only [Bare.Loader.handle?, loader, delivered]
    rfl
  | setTimers timers => exact ⟨{ before with timers }, rfl, rfl⟩

theorem follow?_loader (handlings : List Handling) :
    ∃ later : State, before.loader.follow? handlings = some later.loader ∧
      later.font.toArray = Handling.latestFont before.font.toArray handlings := by
  induction handlings generalizing before with
  | nil => exact ⟨before, rfl, rfl⟩
  | cons handling rest ih =>
    obtain ⟨after, handled, font⟩ := before.handle?_loader handling
    obtain ⟨later, followed, latest⟩ := ih after
    refine ⟨later, ?_, ?_⟩
    · rw [Bare.Loader.follow?, List.foldlM_cons, handled]
      exact followed
    · rw [latest, font, Handling.latestFont_cons]

end State

/-- The font is looked at first. -/
theorem Configuration.initial_eq_error_iff (c : Configuration) (error : MachineError) :
    c.initial = .error error ↔
      (∃ font, c.font = some font ∧ font.size ≠ 80 ∧ error = .fontSize font.size 80) ∨
      (∀ font, c.font = some font → font.size = 80) ∧
        (c.program = #[] ∧ error = .programEmpty ∨
          3584 < c.program.size ∧ error = .programTooLarge c.program.size 3584) := by
  simp only [Configuration.initial]
  generalize State.powerOn c.mode (c.compatibility.getD (.ofMode c.mode)) c.policy c.seed
    c.source = blank
  cases c.font with
  | none =>
    refine (blank.loadProgram_eq_error_iff c.program error).trans ?_
    simp
  | some font =>
    by_cases size : font.size = 80
    · obtain ⟨lettered, accepted, _⟩ := (blank.takesFont font).accepts size
      simp only [accepted]
      refine (lettered.loadProgram_eq_error_iff c.program error).trans ?_
      simp [size]
    · have refused := ((blank.takesFont font).refuses size).1
      simp only [refused]
      change Except.error _ = Except.error error ↔ _
      simp [size, eq_comm]

/-- Loading looks at sizes first and then builds the whole image. Whatever was done to a state, one
thing after the other, it keeps the font that was taken last; it takes a font of eighty bytes and a
program of up to 3584, and refuses another without a change. A machine is not built if its font is
refused, or else if its program is missing, empty or too long. -/
theorem loading_builds_image :
    (∀ (state : State) (handlings : List Bare.Handling), ∃ later : State,
      state.loader.follow? handlings = some later.loader ∧
      later.font.toArray = Bare.Handling.latestFont state.font.toArray handlings ∧
      (∀ bytes, later.TakesFont bytes) ∧ ∀ program, later.TakesProgram program) ∧
    ∀ (c : Configuration) (program : Option (Array UInt8)) (error : MachineError),
      Machine.build { c with program := program.getD #[] } = .error error ↔
        (∃ font, c.font = some font ∧ font.size ≠ 80 ∧ error = .fontSize font.size 80) ∨
        (∀ font, c.font = some font → font.size = 80) ∧
          ((program = none ∨ program = some #[]) ∧ error = .programEmpty ∨
            ∃ bytes, program = some bytes ∧ 3584 < bytes.size ∧
              error = .programTooLarge bytes.size 3584) := by
  constructor
  · intro state handlings
    obtain ⟨later, followed, latest⟩ := state.follow?_loader handlings
    exact ⟨later, followed, latest, later.takesFont, later.takesProgram⟩
  · intro c program error
    have starts (c : Configuration) : Machine.build c = .error error ↔ c.initial = .error error := by
      rw [Machine.build_eq]
      cases c.initial <;> simp [Except.map]
    rw [starts, Configuration.initial_eq_error_iff]
    cases program with
    | none => simp
    | some bytes => simp

end SuperChip
