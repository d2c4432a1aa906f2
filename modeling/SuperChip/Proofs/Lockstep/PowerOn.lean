import SuperChip.Proofs.Lockstep.Relation
import SuperChip.Proofs.Soundness

set_option autoImplicit false

namespace SuperChip

/-- Whether an event is no fetch, or the fetch of a word that draws no random number. -/
def Event.Determined (event : Event) : Prop :=
  ∀ pc word mnemonic, event = .fetched pc word mnemonic → word.family ≠ 0xC

/-- A state with other random numbers to come. -/
def State.withGenerator (state : State) (generator : Generator) : State := { state with generator }

/-- Only one instruction draws a random number, and the others leave the generator where it is. -/
theorem Instruction.execute_withGenerator {instruction : Instruction} (state : State)
    (generator : Generator) (held : Held) (determined : ∀ x mask, instruction ≠ .random x mask) :
    instruction.execute (state.withGenerator generator) held =
      ⟨(instruction.execute state held).state.withGenerator generator,
        (instruction.execute state held).result⟩ := by
  cases instruction with
  | random x mask => exact absurd rfl (determined x mask)
  | ret =>
    have stack : (state.withGenerator generator).stack = state.stack := rfl
    simp only [execute, State.ret, stack]
    cases state.stack.pop? <;> rfl
  | call target =>
    have stack : (state.withGenerator generator).stack.push? (state.pc + 2) =
      state.stack.push? (state.pc + 2) := rfl
    have pc : (state.withGenerator generator).pc = state.pc := rfl
    simp only [execute, State.call, pc, stack]
    cases state.stack.push? (state.pc + 2) <;> rfl
  | guard =>
    have pc : (state.withGenerator generator).pc = state.pc := rfl
    simp only [execute, State.guard, pc]
    split <;> rfl
  | _ => rfl

namespace Machine

/-- A machine with other random numbers to come. -/
def withGenerator (machine : Machine) (generator : Generator) : Machine :=
  { machine with state := machine.state.withGenerator generator }

theorem determined_iff (machine : Machine) (held : Held) :
    (∀ event ∈ (machine.runInstruction held).events, event.Determined) ↔
      machine.word.family ≠ 0xC :=
  machine.forall_fetched_iff held fun word => word.family ≠ 0xC

theorem runInstruction_withGenerator (machine : Machine) (generator : Generator) (held : Held)
    (determined : machine.word.family ≠ 0xC) :
    PairedSteps (fun left right => right = left.withGenerator generator)
      (machine.runInstruction held) ((machine.withGenerator generator).runInstruction held) := by
  have fixed (x : Register) (mask : UInt8) : machine.instruction ≠ .random x mask :=
    fun draws => determined (Word.family_of_random draws)
  have executed := Instruction.execute_withGenerator machine.state generator held fixed
  have instruction : (machine.withGenerator generator).instruction = machine.instruction := rfl
  have state : (machine.withGenerator generator).state = machine.state.withGenerator generator := rfl
  constructor
  · rw [runInstruction_machine, runInstruction_machine, instruction, state, executed]
    rfl
  · rw [runInstruction_outcome, runInstruction_outcome, instruction, state, executed]
  · rw [runInstruction_events, runInstruction_events, instruction, state, executed]
    rfl

theorem reset_withGenerator (machine : Machine) (generator : Generator) :
    PairedResets (fun left right => right = left.withGenerator generator) machine.reset
      (machine.withGenerator generator).reset := by
  have state : (machine.withGenerator generator).state = machine.state.withGenerator generator := rfl
  have program : (machine.withGenerator generator).program = machine.program := rfl
  unfold reset
  rw [state, program]
  rcases State.loadProgram_uniform machine.program with ⟨error, refused⟩ | loads
  · rw [refused, refused]
    rfl
  · rw [loads, loads]
    exact ⟨rfl, rfl⟩

/-- As long as no random number is drawn, it does not matter which ones are to come. -/
theorem lockstep_withGenerator (generator : Generator) :
    Lockstep Event.Determined fun left right => right = left.withGenerator generator where
  screen := by
    rintro left _ rfl
    rfl
  timers := by
    rintro left _ rfl
    rfl
  status := by
    rintro left _ rfl
    rfl
  runs := by
    rintro left _ held rfl _ determined
    exact left.runInstruction_withGenerator generator held
      ((left.determined_iff held).mp determined)
  takes := by
    rintro left _ x key rfl awaiting
    have asked : (left.withGenerator generator).status = .awaitingKey x := awaiting
    simp only [resume, awaiting, asked]
    rfl
  withTimers := by
    rintro left _ timers rfl
    rfl
  resets := by
    rintro left _ rfl
    exact left.reset_withGenerator generator

variable {c : Configuration} {machine : Machine}

theorem exists_build (reachable : Reachable c machine) :
    ∃ fresh events, build c = .ok (fresh, events) := by
  apply reachable.keeps (P := fun _ => ∃ fresh events, build c = .ok (fresh, events))
  · exact fun success => ⟨_, _, success⟩
  · exact fun _ _ built => built
  · exact fun _ _ built => built
  · exact fun _ _ built => built
  · exact fun _ built _ => built

/-- A sound machine is reset to what its configuration builds, but for the random numbers. -/
theorem Sound.reset_eq (sound : machine.Sound c) {fresh : Machine} {events : List Event}
    (success : build c = .ok (fresh, events)) :
    machine.reset =
      .ok (fresh.withGenerator machine.state.generator, [.loaded c.program.size]) := by
  obtain ⟨state, starts, rfl⟩ := of_build success
  obtain ⟨font, letters, loads⟩ := Configuration.initial_eq_ok starts
  obtain ⟨fits, rfl⟩ := (State.loadProgram_eq_ok_iff _ _ _).mp loads
  have lettered : machine.state.font = font := Vector.toArray_inj.mp (sound.font.trans letters.symm)
  have loaded := (machine.state.loadProgram_eq_ok_iff _ c.program).mpr ⟨fits, rfl⟩
  unfold Machine.reset
  rw [sound.program, loaded]
  simp only [bind, Except.bind, State.reset, State.powerOn, withGenerator, State.withGenerator,
    sound.mode, sound.compatibility, sound.wrap, sound.strategy, lettered]
  rfl

/-- A reset is as good as switching off and on. Every machine that comes from a configuration is reset
to the machine that the configuration builds, but for the random numbers, which go on where they
were; a second reset changes nothing; and whatever is done to the machine after the reset gives what
it gives on the machine just built, and leaves the same machine, as long as no random number is
drawn. -/
theorem reset_powers_on (reachable : Reachable c machine) :
    ∃ fresh next events reported,
      build c = .ok (fresh, events) ∧ machine.reset = .ok (next, reported) ∧
      next = fresh.withGenerator machine.state.generator ∧ next.reset = .ok (next, reported) ∧
      ∀ (keys : KeySource) (actions : List Action) (final : Console)
        (given : List (Response × List Event)),
        (Console.mk fresh keys).performAll actions = (final, given) →
        (∀ answer ∈ given, ∀ event ∈ answer.2, event.Determined) →
        (Console.mk next keys).performAll actions =
          (⟨final.machine.withGenerator machine.state.generator, final.keys⟩, given) := by
  obtain ⟨fresh, events, success⟩ := exists_build reachable
  have resets := reachable.sound.reset_eq success
  refine ⟨fresh, _, events, _, success, resets, rfl, ?_, ?_⟩
  · exact (Reachable.reset reachable resets).sound.reset_eq success
  · intro keys actions final given performed determined
    have start : Console.Paired (fun left right => right = left.withGenerator machine.state.generator)
        ⟨fresh, keys⟩ ⟨fresh.withGenerator machine.state.generator, keys⟩ := ⟨rfl, rfl⟩
    have together := start.performAll (lockstep_withGenerator machine.state.generator) actions
    rw [performed] at together
    obtain ⟨⟨reached, held⟩, same⟩ := together determined
    exact Prod.ext (congrArg₂ Console.mk reached held.symm) same.symm

/-- After a switch to the extended geometry a reset brings the standard one back, and the program
starts again as on a new machine. -/
theorem reset_powers_on_widened :
    ∃ fresh events machine next reported,
      build { program := #[0x00, 0xFF] } = .ok (fresh, events) ∧
      Reachable { program := #[0x00, 0xFF] } machine ∧
      machine.state.screen.geometry = .extended ∧ machine.reset = .ok (next, reported) ∧
      next.state.screen.geometry = fresh.state.screen.geometry ∧
      (next.step fun _ => false).outcome = (fresh.step fun _ => false).outcome := by
  obtain ⟨start, events, success⟩ :
      ∃ machine events, build { program := #[0x00, 0xFF] } = .ok (machine, events) := ⟨_, _, rfl⟩
  have word : start.word = 0x00FF := word_of_build success
  have running := running_of_build success
  have widens : start.instruction = .highResolution := by
    rw [instruction, word, (sound_of_build success).mode]
    rfl
  have widened := step_of_going (fun _ => false) running (by rw [widens]; rfl) (.inr rfl)
  have reachable := Reachable.step (fun _ => false) (.built success)
  obtain ⟨fresh, next, events', reported, built, resets, same, _, runs⟩ := reset_powers_on reachable
  obtain ⟨rfl, rfl⟩ := Prod.ext_iff.mp (Except.ok.inj (success.symm.trans built))
  refine ⟨start, events, _, next, reported, success, reachable, ?_, resets, ?_, ?_⟩
  · rw [widened]
    rfl
  · rw [same]
    rfl
  · have determined : ∀ event ∈ (start.step fun _ => false).events, event.Determined := by
      rw [step_of_running _ running, determined_iff, word]
      decide
    have performed := runs .absent [.step] _ _ rfl (List.forall_mem_singleton.mpr determined)
    have given := (List.cons.inj (congrArg Prod.snd performed)).1
    exact Response.outcome.inj (congrArg Prod.fst given)

end Machine

end SuperChip
