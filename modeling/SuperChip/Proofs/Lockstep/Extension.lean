import SuperChip.Proofs.Lockstep.Relation
import SuperChip.Proofs.Vocabulary

set_option autoImplicit false

namespace SuperChip

/-- Whether an event is no fetch, or the fetch of a word that means the same in both instruction
sets. -/
def Event.Shared (event : Event) : Prop :=
  ∀ pc word mnemonic, event = .fetched pc word mnemonic → word.isAdded = false

namespace State

/-- A state with another instruction set. -/
def inMode (state : State) (mode : Mode) : State := { state with mode }

/-- Whether one state has the basic instruction set, and the other Super-CHIP's with everything else
the same. -/
structure Extends (basic extended : State) : Prop where
  mode : basic.mode = .chip8
  same : extended = basic.inMode .superChip

end State

/-- What an instruction does is independent of the instruction set it was read in. -/
theorem Instruction.execute_inMode (instruction : Instruction) (state : State) (mode : Mode)
    (held : Held) :
    instruction.execute (state.inMode mode) held =
      ⟨(instruction.execute state held).state.inMode mode,
        (instruction.execute state held).result⟩ := by
  -- Only the instructions that may fail branch on the state before they give a result.
  cases instruction with
  | ret =>
    have stack : (state.inMode mode).stack = state.stack := rfl
    simp only [execute, State.ret, stack]
    cases state.stack.pop? <;> rfl
  | call target =>
    have stack : (state.inMode mode).stack.push? (state.pc + 2) =
      state.stack.push? (state.pc + 2) := rfl
    have pc : (state.inMode mode).pc = state.pc := rfl
    simp only [execute, State.call, pc, stack]
    cases state.stack.push? (state.pc + 2) <;> rfl
  | guard =>
    have pc : (state.inMode mode).pc = state.pc := rfl
    simp only [execute, State.guard, pc]
    split <;> rfl
  | _ => rfl

theorem Instruction.mode_execute (instruction : Instruction) (state : State) (held : Held) :
    (instruction.execute state held).state.mode = state.mode :=
  congrArg (·.state.mode) (instruction.execute_inMode state state.mode held)

theorem State.extends_of_initial {c : Configuration} {compatibility : Compatibility}
    {state : State} (starts : Configuration.initial { c with
      mode := .chip8, compatibility := some compatibility } = .ok state) :
    state.Extends (state.recast .superChip compatibility) := by
  obtain ⟨font, _, loads⟩ := Configuration.initial_eq_ok starts
  obtain ⟨_, rfl⟩ := (State.loadProgram_eq_ok_iff _ _ _).mp loads
  exact ⟨rfl, rfl⟩

theorem State.lockstep_extends : State.Lockstep Event.Shared State.Extends where
  screen pair := by
    rw [pair.same]
    rfl
  timers pair := by
    rw [pair.same]
    rfl
  pc pair := by
    rw [pair.same]
    rfl
  fetches address pair := by
    rw [pair.same]
    rfl
  reads pair shared := by
    rw [pair.same, pair.mode]
    exact (Word.decode_eq_iff _).mpr (shared _ _ _ rfl)
  executes {basic extended} instruction held pair := by
    obtain ⟨mode, rfl⟩ := pair
    rw [instruction.execute_inMode]
    exact ⟨⟨(instruction.mode_execute basic held).trans mode, rfl⟩, rfl⟩
  takes x key pair := by
    rw [pair.same]
    exact ⟨pair.mode, rfl⟩
  withTimers timers pair := by
    rw [pair.same]
    exact ⟨pair.mode, rfl⟩
  loads program pair := by
    rw [pair.same]
    exact ⟨pair.mode, rfl⟩

namespace Machine

theorem shared_iff (machine : Machine) (held : Held) :
    (∀ event ∈ (machine.runInstruction held).events, event.Shared) ↔
      machine.word.isAdded = false :=
  machine.forall_fetched_iff held fun word => word.isAdded = false

variable {basic : Machine}

/-- A basic machine halts at a word that Super-CHIP adds, unless the word draws a sprite. -/
theorem step_of_added (mode : basic.state.mode = .chip8) (running : basic.status = .running)
    (added : basic.word.isAdded = true) (other : basic.word.family ≠ 0xD) (held : Held) :
    (basic.step held).outcome = .error (.illegalWord basic.word basic.state.pc) ∧
      (basic.step held).machine.status =
        .halted ⟨.illegalWord basic.word basic.state.pc, basic.word, basic.state.pc⟩ := by
  have illegal : basic.instruction = .illegal basic.word := by
    rw [Machine.instruction, mode]
    exact Word.decode_of_added added other
  rw [step_of_running held running, runInstruction_outcome, runInstruction_machine, illegal]
  exact ⟨rfl, rfl⟩

end Machine

/-- Super-CHIP is a conservative extension of the basic instruction set. With either set a
configuration is refused for one reason, or it builds two machines that answer and report the same
and differ in the mode only, as long as the basic one has fetched no word that Super-CHIP adds. When
it comes to such a word, and the word draws no sprite, the basic machine halts. -/
theorem extension_conservative (c : Configuration) (compatibility : Compatibility) :
    (∃ error,
      Machine.build { c with mode := .chip8, compatibility := some compatibility } = .error error ∧
      Machine.build { c with mode := .superChip, compatibility := some compatibility } =
        .error error) ∨
    ∃ basic extended events reported,
      Machine.build { c with mode := .chip8, compatibility := some compatibility } =
        .ok (basic, events) ∧
      Machine.build { c with mode := .superChip, compatibility := some compatibility } =
        .ok (extended, reported) ∧
      ∀ (keys : KeySource) (actions : List Action) (final : Console)
        (given : List (Response × List Event)),
        (Console.mk basic keys).performAll actions = (final, given) →
        (∀ answer ∈ given, ∀ event ∈ answer.2, event.Shared) →
        (∃ other, (Console.mk extended keys).performAll actions = (⟨other, final.keys⟩, given) ∧
          Machine.Related State.Extends final.machine other) ∧
        (final.machine.status = .running → final.machine.word.isAdded = true →
          final.machine.word.family ≠ 0xD → ∀ held,
            (final.machine.step held).outcome =
              .error (.illegalWord final.machine.word final.machine.state.pc) ∧
            (final.machine.step held).machine.status =
              .halted ⟨.illegalWord final.machine.word final.machine.state.pc, final.machine.word,
                final.machine.state.pc⟩) := by
  have starts := c.initial_recast .chip8 .superChip compatibility compatibility
  rcases Machine.build_paired starts with refused | ⟨state, events, reported, starts, plain, wide⟩
  · exact .inl refused
  · refine .inr ⟨_, _, events, reported, plain, wide, ?_⟩
    intro keys actions final given performed shared
    have start : Machine.Related State.Extends ⟨state, c.strategy, .running, c.program, 0⟩
        ⟨state.recast .superChip compatibility, c.strategy, .running, c.program, 0⟩ :=
      ⟨State.extends_of_initial starts, rfl, rfl, rfl, rfl⟩
    have consoles : Console.Paired (Machine.Related State.Extends) ⟨_, keys⟩ ⟨_, keys⟩ :=
      ⟨start, rfl⟩
    have together := consoles.performAll (Machine.lockstep_related State.lockstep_extends) actions
    rw [performed] at together
    obtain ⟨paired, same⟩ := together shared
    refine ⟨⟨_, ?_, paired.machine⟩, fun running added other held => ?_⟩
    · exact Prod.ext (congrArg (Console.mk _) paired.keys.symm) same.symm
    · exact Machine.step_of_added paired.machine.state.mode running added other held

/-- A program that jumps to the exit runs alike up to the exit, which the basic set does not have. -/
theorem extension_conservative_exit :
    ∃ basic extended events reported,
      Machine.build { program := #[0x12, 0x02, 0x00, 0xFD], mode := .chip8,
                      compatibility := some (.ofMode .chip8) } = .ok (basic, events) ∧
      Machine.build { program := #[0x12, 0x02, 0x00, 0xFD], mode := .superChip,
                      compatibility := some (.ofMode .chip8) } = .ok (extended, reported) ∧
      (extended.step fun _ => false).outcome = (basic.step fun _ => false).outcome ∧
      (extended.step fun _ => false).machine.state =
        (basic.step fun _ => false).machine.state.inMode .superChip ∧
      ∀ held, ((basic.step fun _ => false).machine.step held).outcome =
        .error (.illegalWord 0x00FD 0x202) := by
  rcases extension_conservative { program := #[0x12, 0x02, 0x00, 0xFD] } (.ofMode .chip8) with
    ⟨error, refused, _⟩ | ⟨basic, extended, events, reported, plain, wide, runs⟩
  · cases refused
  · refine ⟨basic, extended, events, reported, plain, wide, ?_⟩
    have mode : basic.state.mode = .chip8 := by
      obtain ⟨_, starts, rfl⟩ := Machine.of_build plain
      exact (State.extends_of_initial starts).mode
    have word : basic.word = 0x1202 := by
      rw [Machine.word, Machine.word_of_build plain]
      rfl
    have jumps : basic.instruction = .jump 0x202 := by
      rw [Machine.instruction, word, mode]
      rfl
    have running := Machine.running_of_build plain
    have jumped := Machine.step_of_going (fun _ => false) running
      (by rw [jumps]; rfl) (.inl rfl)
    have next : (basic.step fun _ => false).machine.word = 0x00FD := by
      rw [jumped]
      change basic.state.memory.fetch 0x202 = _
      exact Machine.fetch_of_build plain (by decide) (by decide)
    have shared : ∀ event ∈ (basic.step fun _ => false).events, event.Shared := by
      rw [Machine.step_of_running _ running, Machine.shared_iff, word]
      rfl
    generalize reached : (basic.step fun _ => false).machine = middle at jumped next
    obtain ⟨⟨other, performed, pair⟩, halts⟩ := runs .absent [.step] ⟨middle, .absent⟩
      [(.outcome (basic.step fun _ => false).outcome, (basic.step fun _ => false).events)]
      (by rw [← reached]; rfl) (List.forall_mem_singleton.mpr shared)
    obtain ⟨console, given⟩ := Prod.ext_iff.mp performed
    obtain rfl : (extended.step fun _ => false).machine = other := congrArg Console.machine console
    have answer := congrArg Prod.fst (List.cons.inj given).1
    rw [next] at halts
    subst jumped
    exact ⟨Response.outcome.inj answer, pair.state.same,
      fun held => (halts rfl rfl (by decide) held).1⟩

end SuperChip
