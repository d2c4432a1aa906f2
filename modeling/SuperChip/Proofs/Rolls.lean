import SuperChip.Proofs.Lockstep.PowerOn
import SuperChip.Proofs.Run.Iteration

set_option autoImplicit false

namespace SuperChip

/-- A random number that was rolled: the word of the instruction, and what its register got. -/
structure Roll where
  word : Word
  value : UInt8
  deriving DecidableEq, Repr

namespace Machine

/-- The number that a step rolls, if it rolls one. -/
def rolls (machine : Machine) (held : Held) : List Roll :=
  if machine.status = .running ∧ machine.word.family = 0xC then
    [⟨machine.word, (machine.step held).machine.state.register machine.word.x⟩]
  else []

/-- The numbers rolled in the steps of a transcript, in order. -/
def rollsAlong : Machine → List Exchange → List Roll
  | _, [] => []
  | machine, .stepped held outcome events :: rest =>
    machine.rolls held ++ (machine.undergo (.stepped held outcome events)).rollsAlong rest
  | machine, exchange :: rest => (machine.undergo exchange).rollsAlong rest

/-- The machines that come from a configuration, with the numbers that were rolled on the way, across
all resets. -/
inductive History (c : Configuration) : List Roll → Machine → Prop where
  | built {machine : Machine} {events : List Event} (success : build c = .ok (machine, events)) :
      History c [] machine
  | step {rolls : List Roll} {machine : Machine} (held : Held) (history : History c rolls machine) :
      History c (rolls ++ machine.rolls held) (machine.step held).machine
  | run {rolls : List Roll} {machine final : Machine} {transcript : List Exchange} {ending : Ending}
      (history : History c rolls machine) (runs : machine.Runs transcript final ending) :
      History c (rolls ++ machine.rollsAlong transcript) final
  | tick {rolls : List Roll} {machine : Machine} (history : History c rolls machine) :
      History c rolls machine.tick.1
  | resume {rolls : List Roll} {machine : Machine} (key : UInt8)
      (history : History c rolls machine) : History c rolls (machine.resume key).1
  | withTimers {rolls : List Roll} {machine : Machine} (timers : Timers)
      (history : History c rolls machine) : History c rolls (machine.withTimers timers)
  | reset {rolls : List Roll} {machine next : Machine} {events : List Event}
      (history : History c rolls machine) (success : machine.reset = .ok (next, events)) :
      History c rolls next

end Machine

/-- Only one instruction takes a word from the random stream. -/
theorem Instruction.generator_execute {instruction : Instruction} (state : State) (held : Held)
    (determined : ∀ x mask, instruction ≠ .random x mask) :
    (instruction.execute state held).state.generator = state.generator := by
  have same : instruction.execute state held = _ :=
    execute_withGenerator state state.generator held determined
  exact congrArg (fun executed => executed.state.generator) same

namespace Machine

variable {c : Configuration} {machine : Machine} {rolled : List Roll}

/-- A roll takes the next word of the stream, whatever its mask. -/
theorem step_of_rolling (running : machine.status = .running)
    (family : machine.word.family = 0xC) (held : Held) :
    (machine.step held).outcome = .ok .proceeded ∧
    (machine.step held).machine =
      { machine with
        state := { machine.state with
          registers := machine.state.registers.set machine.word.x
            ((machine.state.generator.stream machine.state.generator.position).toUInt8 &&&
              machine.word.byte)
          generator := { machine.state.generator with
            position := machine.state.generator.position + 1 }
          pc := machine.state.pc + 2 }
        lastWord := machine.word } := by
  have rolls : machine.instruction = .random machine.word.x machine.word.byte :=
    Word.decode_random _ family
  rw [step_of_running held running, runInstruction_outcome, runInstruction_machine, rolls]
  exact ⟨rfl, rfl⟩

theorem rolls_of_rolling (running : machine.status = .running)
    (family : machine.word.family = 0xC) (held : Held) :
    machine.rolls held = [⟨machine.word,
      (machine.state.generator.stream machine.state.generator.position).toUInt8 &&&
        machine.word.byte⟩] := by
  rw [rolls, if_pos ⟨running, family⟩, (step_of_rolling running family held).2, State.register]
  simp only [Fin.getElem_fin, Vector.getElem_set_self]

theorem generator_step (held : Held)
    (idle : ¬ (machine.status = .running ∧ machine.word.family = 0xC)) :
    (machine.step held).machine.state.generator = machine.state.generator := by
  by_cases running : machine.status = .running
  · rw [step_of_running held running, runInstruction_machine]
    refine Instruction.generator_execute machine.state held fun x mask rolls => idle ⟨running, ?_⟩
    exact Word.family_of_random rolls
  · rw [step_of_standing held running]

theorem generator_resume (key : UInt8) :
    (machine.resume key).1.state.generator = machine.state.generator := by
  unfold resume
  split <;> rfl

theorem generator_reset {next : Machine} {events : List Event}
    (success : machine.reset = .ok (next, events)) :
    next.state.generator = machine.state.generator := by
  obtain ⟨state, loads, rfl⟩ := of_reset success
  obtain ⟨_, rfl⟩ := (State.loadProgram_eq_ok_iff _ _ _).mp loads
  rfl

/-- What it means for the numbers rolled so far to be the first words of a stream, each under its
mask. -/
structure Follows (stream : Nat → UInt32) (rolled : List Roll) (machine : Machine) : Prop where
  /-- The stream stands behind the words that were rolled. -/
  generator : machine.state.generator = ⟨stream, rolled.length⟩
  values : ∀ k roll, rolled[k]? = some roll →
    roll.value = (stream k).toUInt8 &&& roll.word.byte

theorem Follows.same {stream : Nat → UInt32} (follows : machine.Follows stream rolled)
    {later : Machine} (kept : later.state.generator = machine.state.generator) : later.Follows stream rolled :=
  ⟨kept.trans follows.generator, follows.values⟩

theorem Follows.step {stream : Nat → UInt32} (follows : machine.Follows stream rolled)
    (held : Held) :
    (machine.step held).machine.Follows stream (rolled ++ machine.rolls held) := by
  by_cases rolling : machine.status = .running ∧ machine.word.family = 0xC
  · obtain ⟨running, family⟩ := rolling
    rw [rolls_of_rolling running family, (step_of_rolling running family held).2, follows.generator]
    constructor
    · rw [List.length_append]
      rfl
    · intro k roll found
      by_cases earlier : k < rolled.length
      · rw [List.getElem?_append_left earlier] at found
        exact follows.values k roll found
      · rw [List.getElem?_append_right (Nat.le_of_not_lt earlier), List.getElem?_singleton,
          Option.ite_none_right_eq_some] at found
        obtain ⟨latest, same⟩ := found
        have last : k = rolled.length := by omega
        subst last
        cases same
        rfl
  · rw [rolls, if_neg rolling, List.append_nil]
    exact follows.same (generator_step held rolling)

/-- Along a transcript the numbers go on as the stream does. -/
theorem Follows.along {stream : Nat → UInt32} (follows : machine.Follows stream rolled)
    (transcript : List Exchange) :
    (transcript.foldl undergo machine).Follows stream (rolled ++ machine.rollsAlong transcript) := by
  induction transcript generalizing machine rolled with
  | nil =>
    rw [rollsAlong, List.append_nil]
    exact follows
  | cons exchange rest ih =>
    cases exchange with
    | stepped held outcome events =>
      rw [rollsAlong, ← List.append_assoc]
      exact ih (follows.step held)
    | waited answer =>
      cases answer with
      | key key => exact ih (follows.same (generator_resume key))
      | closed => exact ih follows
      | parked => exact ih follows
    | looked raised => exact ih follows
    | presented frame => exact ih follows

theorem follows_of_build {events : List Event} (success : build c = .ok (machine, events)) :
    machine.Follows c.stream [] := by
  obtain ⟨state, starts, rfl⟩ := of_build success
  obtain ⟨font, _, loads⟩ := Configuration.initial_eq_ok starts
  obtain ⟨_, rfl⟩ := (State.loadProgram_eq_ok_iff _ _ _).mp loads
  exact ⟨rfl, fun k roll found => by cases found⟩

theorem History.follows (history : History c rolled machine) : machine.Follows c.stream rolled := by
  induction history with
  | built success => exact follows_of_build success
  | step held _ ih => exact ih.step held
  | @run _ machine _ transcript _ _ runs ih =>
    rw [← runs.reached]
    exact ih.along transcript
  | tick _ ih => exact ih.same rfl
  | resume key _ ih => exact ih.same (generator_resume key)
  | withTimers timers _ ih => exact ih.same rfl
  | reset _ success ih => exact ih.same (generator_reset success)

theorem exists_history (reachable : Reachable c machine) : ∃ rolled, History c rolled machine := by
  apply reachable.keeps (P := fun machine => ∃ rolled, History c rolled machine)
  · exact fun success => ⟨_, .built success⟩
  · rintro machine held _ ⟨rolled, history⟩
    exact ⟨_, history.step held⟩
  · rintro machine key _ ⟨rolled, history⟩
    exact ⟨_, history.resume key⟩
  · rintro machine timers _ ⟨rolled, history⟩
    exact ⟨_, history.withTimers timers⟩
  · rintro machine next events _ ⟨rolled, history⟩ success
    exact ⟨_, history.reset success⟩

/-- The random numbers of a machine are the words of one stream, in order. Every machine that comes
from a configuration has a history of the numbers rolled since it was built. Number `k` of them is the
low byte of word `k` of its stream, under the mask of its instruction; the next instruction that rolls
takes the next word, whatever its mask, and sets its register to it; and nothing else that can be done
to the machine moves the stream. A run under any host rolls the numbers of its steps. -/
theorem rolls_follow_stream (c : Configuration) :
    (∀ machine, Reachable c machine → ∃ rolled, History c rolled machine) ∧
    ∀ rolled machine, History c rolled machine →
      machine.state.generator = ⟨c.stream, rolled.length⟩ ∧
      (∀ k roll, rolled[k]? = some roll →
        roll.value = (c.stream k).toUInt8 &&& roll.word.byte) ∧
      (∀ held, machine.status = .running → machine.word.family = 0xC →
        (machine.step held).outcome = .ok .proceeded ∧
        (machine.step held).machine =
          { machine with
            state := { machine.state with
              registers := machine.state.registers.set machine.word.x
                ((c.stream rolled.length).toUInt8 &&& machine.word.byte)
              generator := ⟨c.stream, rolled.length + 1⟩
              pc := machine.state.pc + 2 }
            lastWord := machine.word }) ∧
      (∀ held, ¬ (machine.status = .running ∧ machine.word.family = 0xC) →
        (machine.step held).machine.state.generator = machine.state.generator) ∧
      (∀ key, (machine.resume key).1.state.generator = machine.state.generator) ∧
      machine.tick.1.state.generator = machine.state.generator ∧
      (∀ timers, (machine.withTimers timers).state.generator = machine.state.generator) ∧
      (∀ next events, machine.reset = .ok (next, events) →
        next.state.generator = machine.state.generator) ∧
      ∀ {σ : Type} (host : Host σ) (count : Nat) (s last : σ) (final : Machine) (ending : Ending),
        machine.run host count s = (last, final, ending) → ending.Returned →
        ∃ transcript, machine.Runs transcript final ending ∧
          host.Plays s (.presented machine.frame :: transcript) last ∧
          final.state.generator = ⟨c.stream, rolled.length + (machine.rollsAlong transcript).length⟩ ∧
          History c (rolled ++ machine.rollsAlong transcript) final := by
  refine ⟨fun _ => exists_history, fun rolled machine history => ?_⟩
  have follows := history.follows
  refine ⟨follows.generator, follows.values, ?_, fun held => generator_step held, generator_resume,
    rfl, fun _ => rfl, fun _ _ => generator_reset, ?_⟩
  · intro held running family
    have rolling := step_of_rolling running family held
    rw [follows.generator] at rolling
    exact rolling
  · intro σ host count s last final ending ran returned
    obtain ⟨transcript, runs, plays⟩ := runs_of_turns host count ran returned
    have later := history.run runs
    refine ⟨transcript, runs, ⟨_, rfl, plays⟩, ?_, later⟩
    rw [later.follows.generator, List.length_append]

/-- A roll under an empty mask uses up a word, and a reset gives none back. -/
theorem rolls_follow_stream_masked :
    ∃ machine, History { program := #[0xC0, 0x00, 0xC1, 0xFF], seed := some 7 }
        [⟨0xC000, 0⟩, ⟨0xC1FF, (Random.word 7 1).toUInt8⟩] machine ∧
      machine.state.pc = Memory.programStart ∧ machine.state.generator = ⟨Random.word 7, 2⟩ := by
  obtain ⟨start, events, success⟩ : ∃ machine events,
      build { program := #[0xC0, 0x00, 0xC1, 0xFF], seed := some 7 } = .ok (machine, events) :=
    ⟨_, _, rfl⟩
  have stream := (rolls_follow_stream { program := #[0xC0, 0x00, 0xC1, 0xFF], seed := some 7 }).2
  have running := running_of_build success
  have word : start.word = 0xC000 := word_of_build success
  have built := History.built success
  obtain ⟨_, rolled⟩ := (stream _ _ built).2.2.1 (fun _ => false) running (by rw [word]; rfl)
  have later : (start.step fun _ => false).machine.word = 0xC1FF := by
    rw [rolled, Machine.word, pc_of_build success]
    change start.state.memory.fetch 0x202 = _
    exact fetch_of_build success (by decide) (by decide)
  have once := built.step fun _ => false
  rw [rolls_of_rolling running (by rw [word]; rfl), (stream _ _ built).1, word] at once
  have twice := once.step fun _ => false
  rw [rolls_of_rolling (by rw [rolled]; exact running) (by rw [later]; rfl), (stream _ _ once).1,
    later] at twice
  have resets := (Reachable.step (fun _ => false) (.step (fun _ => false) (.built success))).sound
    |>.reset_eq success
  have again := twice.reset resets
  have nothing (value : UInt8) : value &&& Word.byte 0xC000 = 0 := UInt8.and_zero
  have everything (value : UInt8) : value &&& Word.byte 0xC1FF = value := UInt8.and_neg_one
  rw [nothing, everything] at again
  have started : start.state.pc = Memory.programStart := pc_of_build success
  exact ⟨_, again, started, (stream _ _ again).1⟩

end Machine

end SuperChip
