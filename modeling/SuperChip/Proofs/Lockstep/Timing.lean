import SuperChip.Proofs.Lockstep.Relation

set_option autoImplicit false

namespace SuperChip

namespace Action

/-- Whether an action is on the timers and on nothing else. -/
def isTiming : Action → Bool
  | tick | setDelay _ | setSound _ | setTimers _ | drain _ => true
  | _ => false

/-- What is left of an action when it no longer sets the sound counter. -/
def muted : Action → Option Action
  | setSound _ => none
  | setTimers timers => some (setTimers ⟨timers.delay, 0⟩)
  | action => some action

end Action

/-- A state with other timers. -/
def State.withTimers (state : State) (timers : Timers) : State := { state with timers }

namespace Instruction

/-- What an instruction makes of timers that it finds. -/
def timersAfter (instruction : Instruction) (state : State) (timers : Timers) : Timers :=
  match instruction with
  | setDelay x => timers.setDelay (state.register x)
  | setSound x => timers.setSound (state.register x)
  | _ => timers

/-- With other timers an instruction does the same, unless it reads another delay. -/
theorem execute_withTimers (instruction : Instruction) (state : State) (timers : Timers)
    (held : Held)
    (reads : ∀ x, instruction = .readDelay x → timers.delay = state.timers.delay) :
    instruction.execute (state.withTimers timers) held =
      ⟨(instruction.execute state held).state.withTimers (instruction.timersAfter state timers),
        (instruction.execute state held).result⟩ := by
  cases instruction with
  | readDelay x =>
    have delay : (state.withTimers timers).timers.delay = state.timers.delay := reads x rfl
    simp only [execute, State.readDelay, delay]
    rfl
  | ret =>
    have stack : (state.withTimers timers).stack = state.stack := rfl
    simp only [execute, State.ret, stack]
    cases state.stack.pop? <;> rfl
  | call target =>
    have stack : (state.withTimers timers).stack.push? (state.pc + 2) =
      state.stack.push? (state.pc + 2) := rfl
    have pc : (state.withTimers timers).pc = state.pc := rfl
    simp only [execute, State.call, pc, stack]
    cases state.stack.push? (state.pc + 2) <;> rfl
  | guard =>
    have pc : (state.withTimers timers).pc = state.pc := rfl
    simp only [execute, State.guard, pc]
    split <;> rfl
  | _ => rfl

theorem delay_timersAfter (instruction : Instruction) (state : State) {timers other : Timers}
    (same : timers.delay = other.delay) :
    (instruction.timersAfter state timers).delay = (instruction.timersAfter state other).delay := by
  cases instruction with
  | setDelay x => rfl
  | _ => exact same

end Instruction

namespace Machine

variable (machine : Machine) (timers : Timers) (held : Held)

/-- The delay that the next step reads, if it reads one. -/
def delayRead? : Option UInt8 :=
  match machine.status, machine.instruction with
  | .running, .readDelay _ => some machine.state.timers.delay
  | _, _ => none

/-- What the next step makes of timers that it finds. -/
def timersAfter : Timers :=
  match machine.status with
  | .running => machine.instruction.timersAfter machine.state timers
  | _ => timers

variable {machine}

theorem delayRead?_of_reads {x : Register} (running : machine.status = .running)
    (reads : machine.instruction = .readDelay x) :
    machine.delayRead? = some machine.state.timers.delay := by
  simp only [delayRead?, running, reads]

variable (machine)

theorem delayRead?_withTimers :
    (machine.withTimers timers).delayRead? = machine.delayRead?.map fun _ => timers.delay := by
  change (match machine.status, machine.instruction with
    | .running, .readDelay _ => some timers.delay
    | _, _ => none) = _
  unfold delayRead?
  split <;> rfl

/-- With other timers a step does the same, unless it reads another delay. -/
theorem step_withTimers (reads : (machine.withTimers timers).delayRead? = machine.delayRead?) :
    PairedSteps (fun left right => right = left.withTimers (machine.timersAfter timers))
      (machine.step held) ((machine.withTimers timers).step held) := by
  by_cases running : machine.status = .running
  · have also : (machine.withTimers timers).status = .running := running
    have delays (x : Register) (asks : machine.instruction = .readDelay x) :
        timers.delay = machine.state.timers.delay := by
      rw [delayRead?_withTimers, delayRead?_of_reads running asks] at reads
      exact Option.some.inj reads
    have executed := machine.instruction.execute_withTimers machine.state timers held delays
    have after : machine.timersAfter timers = machine.instruction.timersAfter machine.state timers := by
      simp only [timersAfter, running]
    have instruction : (machine.withTimers timers).instruction = machine.instruction := rfl
    have state : (machine.withTimers timers).state = machine.state.withTimers timers := rfl
    rw [step_of_running held running, step_of_running held also, after]
    constructor
    · rw [runInstruction_machine, runInstruction_machine, instruction, state, executed]
      rfl
    · rw [runInstruction_outcome, runInstruction_outcome, instruction, state, executed]
    · rw [runInstruction_events, runInstruction_events, instruction, state, executed]
      rfl
  · have status : (machine.withTimers timers).status = machine.status := rfl
    unfold step timersAfter
    rw [status]
    cases standing : machine.status with
    | running => exact absurd standing running
    | _ => exact ⟨rfl, rfl, rfl⟩

theorem timers_step :
    (machine.step held).machine.state.timers = machine.timersAfter machine.state.timers := by
  have same := (machine.step_withTimers machine.state.timers held rfl).machine
  exact congrArg (·.state.timers) same

theorem delay_timersAfter {timers other : Timers} (same : timers.delay = other.delay) :
    (machine.timersAfter timers).delay = (machine.timersAfter other).delay := by
  unfold timersAfter
  split
  · exact machine.instruction.delay_timersAfter machine.state same
  · exact same

theorem resume_withTimers (key : UInt8) :
    (machine.withTimers timers).resume key =
      ((machine.resume key).1.withTimers timers, (machine.resume key).2) := by
  have status : (machine.withTimers timers).status = machine.status := rfl
  unfold resume
  rw [status]
  split <;> rfl

/-- A reset that succeeds leaves nothing of the timers that it finds. -/
theorem reset_withTimers :
    (machine.withTimers timers).reset = machine.reset := by
  have state : (machine.withTimers timers).state = machine.state.withTimers timers := rfl
  have program : (machine.withTimers timers).program = machine.program := rfl
  unfold reset
  rw [state, program]
  rcases State.loadProgram_uniform machine.program with ⟨error, refused⟩ | loads
  · rw [refused, refused]
    rfl
  · rw [loads, loads]
    rfl

end Machine

namespace Console

/-- A console with other timers. -/
def withTimers (console : Console) (timers : Timers) : Console := console.onTimers fun _ => timers

/-- A console without what its timers show. -/
def untimed (console : Console) : Console := console.withTimers .zero

def delay (console : Console) : UInt8 := console.machine.state.timers.delay

/-- The delay that an action reads, if it is a step that reads one. -/
def delayRead? (console : Console) : Action → Option UInt8
  | .step => console.machine.delayRead?
  | _ => none

/-- The delays read while actions are performed, in their order. -/
def delaysRead (console : Console) : List Action → List UInt8
  | [] => []
  | action :: rest =>
    (console.delayRead? action).toList ++ delaysRead (console.perform action).1 rest

/-- What there is to see while actions are performed, apart from the timers: what each action that is
not on the timers gave, and all of the console after it but the timers. -/
def showings (console : Console) : List Action → List ((Response × List Event) × Console)
  | [] => []
  | action :: rest =>
    let (next, given) := console.perform action
    if action.isTiming then showings next rest
    else (given, next.untimed) :: showings next rest

variable {left right : Console} {action : Action}

theorem eq_withTimers (same : left.untimed = right.untimed) :
    right = left.withTimers right.machine.state.timers :=
  congrArg (·.withTimers right.machine.state.timers) same.symm

theorem delayRead?_withTimers (console : Console) (timers : Timers) (action : Action) :
    (console.withTimers timers).delayRead? action =
      (console.delayRead? action).map fun _ => timers.delay := by
  cases action with
  | step => exact console.machine.delayRead?_withTimers timers
  | _ => rfl

/-- Consoles that differ in their timers only read a delay together, each its own. -/
theorem delayRead?_of_untimed (same : left.untimed = right.untimed) (action : Action) :
    right.delayRead? action = (left.delayRead? action).map fun _ => right.delay :=
  (congrArg (·.delayRead? action) (eq_withTimers same)).trans
    (left.delayRead?_withTimers _ action)

/-- With other timers an action that is not on them does the same, unless it reads another delay. -/
theorem perform_withTimers (console : Console) (timers : Timers) (driving : action.isTiming = false)
    (plain : ∀ limits, action ≠ .run limits)
    (reads : (console.withTimers timers).delayRead? action = console.delayRead? action) :
    ∃ after, (console.withTimers timers).perform action =
        ((console.perform action).1.withTimers after, (console.perform action).2) ∧
      (timers.delay = console.delay → after.delay = (console.perform action).1.delay) := by
  cases action with
  | step =>
    obtain ⟨machine, outcome, events⟩ :=
      console.machine.step_withTimers timers console.keys.held reads
    refine ⟨console.machine.timersAfter timers, ?_, ?_⟩
    · have performed : (console.withTimers timers).perform .step =
          (⟨((console.machine.withTimers timers).step console.keys.held).machine, console.keys⟩,
            .outcome ((console.machine.withTimers timers).step console.keys.held).outcome,
            ((console.machine.withTimers timers).step console.keys.held).events) := rfl
      rw [performed, machine, ← outcome, ← events]
      rfl
    · intro same
      have written := console.machine.timers_step console.keys.held
      have delays := console.machine.delay_timersAfter same
      exact delays.trans (congrArg Timers.delay written).symm
  | resume key =>
    refine ⟨timers, ?_, ?_⟩
    · have resumed := console.machine.resume_withTimers timers key
      have performed : (console.withTimers timers).perform (.resume key) =
          (⟨((console.machine.withTimers timers).resume key).1, console.keys⟩,
            .flag ((console.machine.withTimers timers).resume key).2, []) := rfl
      rw [performed, resumed]
      rfl
    · intro same
      have kept : (console.machine.resume key).1.state.timers = console.machine.state.timers := by
        unfold Machine.resume
        split <;> rfl
      exact same.trans (congrArg Timers.delay kept).symm
  | reset =>
    have resets := console.machine.reset_withTimers timers
    have machine : (console.withTimers timers).machine = console.machine.withTimers timers := rfl
    simp only [perform, machine, resets]
    cases console.machine.reset with
    | ok next =>
      -- The timers that were found are gone.
      exact ⟨next.1.state.timers, rfl, fun _ => rfl⟩
    | error error => exact ⟨timers, rfl, id⟩
  | press key | release key | releaseAll | close => exact ⟨timers, rfl, id⟩
  | run limits => exact absurd rfl (plain limits)
  | tick | setDelay value | setSound value | setTimers written | drain period => cases driving

/-- Consoles that differ in their timers only do so after an action, unless it is on the timers or
reads two delays. -/
theorem perform_of_untimed (same : left.untimed = right.untimed) (driving : action.isTiming = false)
    (plain : ∀ limits, action ≠ .run limits)
    (reads : left.delayRead? action = right.delayRead? action) :
    (left.perform action).2 = (right.perform action).2 ∧
      (left.perform action).1.untimed = (right.perform action).1.untimed ∧
      (left.delay = right.delay → (left.perform action).1.delay = (right.perform action).1.delay) := by
  have other := eq_withTimers same
  rw [other] at reads
  obtain ⟨after, performed, delays⟩ := left.perform_withTimers _ driving plain reads.symm
  rw [← other] at performed
  rw [performed]
  exact ⟨rfl, rfl, fun equal => (delays equal.symm).symm⟩

theorem untimed_of_timing (console : Console) (timing : action.isTiming = true) :
    (console.perform action).1.untimed = console.untimed := by
  cases action with
  | tick | setDelay value | setSound value | setTimers written | drain period => rfl
  | _ => cases timing

theorem delayRead?_of_timing (console : Console) (timing : action.isTiming = true) :
    console.delayRead? action = none := by
  cases action with
  | step => cases timing
  | _ => rfl

theorem showings_cons_of_timing (console : Console) (timing : action.isTiming = true)
    (rest : List Action) :
    console.showings (action :: rest) = (console.perform action).1.showings rest := by
  simp only [showings, timing, if_true]

theorem showings_cons_of_driving (console : Console) (driving : action.isTiming = false)
    (rest : List Action) :
    console.showings (action :: rest) =
      ((console.perform action).2, (console.perform action).1.untimed) ::
        (console.perform action).1.showings rest := by
  simp only [showings, driving, Bool.false_eq_true, if_false]

theorem delaysRead_cons_of_timing (console : Console) (timing : action.isTiming = true)
    (rest : List Action) :
    console.delaysRead (action :: rest) = (console.perform action).1.delaysRead rest := by
  rw [delaysRead, console.delayRead?_of_timing timing]
  rfl

/-- Actions on the timers come to nothing but other timers. -/
theorem exists_after_timing (console : Console) {timings : List Action}
    (timing : ∀ action ∈ timings, action.isTiming = true) (rest : List Action) :
    ∃ next : Console, next.untimed = console.untimed ∧
      console.showings (timings ++ rest) = next.showings rest ∧
      console.delaysRead (timings ++ rest) = next.delaysRead rest := by
  induction timings generalizing console with
  | nil => exact ⟨console, rfl, rfl, rfl⟩
  | cons action others ih =>
    obtain ⟨first, more⟩ := List.forall_mem_cons.mp timing
    obtain ⟨next, same, shown, delays⟩ := ih (console.perform action).1 more
    refine ⟨next, same.trans (console.untimed_of_timing first), ?_, ?_⟩
    · rw [List.cons_append, console.showings_cons_of_timing first, shown]
    · rw [List.cons_append, console.delaysRead_cons_of_timing first, delays]

/-- Of delays that are the same in turn, those that both consoles read in an action come first. -/
theorem delayRead?_of_delays (same : left.untimed = right.untimed) {mine others : List UInt8}
    (reads : ∀ pair ∈ ((left.delayRead? action).toList ++ mine).zip
      ((right.delayRead? action).toList ++ others), pair.1 = pair.2) :
    left.delayRead? action = right.delayRead? action ∧
      ∀ pair ∈ mine.zip others, pair.1 = pair.2 := by
  rw [delayRead?_of_untimed same action] at reads ⊢
  generalize left.delayRead? action = found at reads ⊢
  cases found with
  | none => exact ⟨rfl, reads⟩
  | some delay =>
    obtain ⟨first, more⟩ := List.forall_mem_cons.mp reads
    exact ⟨congrArg some first, more⟩

/-- Runs that begin with one action show the same if they do after it. -/
theorem showings_cons_congr (same : left.untimed = right.untimed)
    (driving : action.isTiming = false) (plain : ∀ limits, action ≠ .run limits)
    (read : left.delayRead? action = right.delayRead? action) {rest others : List Action}
    (further : (left.perform action).1.showings rest = (right.perform action).1.showings others ∧
      (left.perform action).1.delaysRead rest = (right.perform action).1.delaysRead others) :
    left.showings (action :: rest) = right.showings (action :: others) ∧
      left.delaysRead (action :: rest) = right.delaysRead (action :: others) := by
  obtain ⟨given, untimed, -⟩ := perform_of_untimed same driving plain read
  constructor
  · rw [left.showings_cons_of_driving driving, right.showings_cons_of_driving driving, given,
      untimed, further.1]
  · rw [delaysRead, delaysRead, read, further.2]

/-- Two interleavings of the same actions with actions on the timers show the same, as long as the
same delays are read in turn. -/
theorem showings_of_delays (same : left.untimed = right.untimed) {actions others : List Action}
    (plain : ∀ limits, .run limits ∉ actions)
    (alike : actions.filter (!·.isTiming) = others.filter (!·.isTiming))
    (reads : ∀ pair ∈ (left.delaysRead actions).zip (right.delaysRead others), pair.1 = pair.2) :
    left.showings actions = right.showings others ∧
      left.delaysRead actions = right.delaysRead others := by
  induction actions generalizing left right others with
  | nil =>
    have timing : ∀ action ∈ others, action.isTiming = true := by
      intro action listed
      have dropped := List.filter_eq_nil_iff.mp alike.symm action listed
      simpa using dropped
    obtain ⟨next, -, shown, delays⟩ := right.exists_after_timing timing []
    rw [List.append_nil] at shown delays
    rw [shown, delays]
    exact ⟨rfl, rfl⟩
  | cons action rest ih =>
    have later (limits : Limits) : .run limits ∉ rest :=
      fun listed => plain limits (List.mem_cons_of_mem _ listed)
    cases kind : action.isTiming with
    | true =>
      rw [left.delaysRead_cons_of_timing kind] at reads ⊢
      rw [left.showings_cons_of_timing kind]
      apply ih ((left.untimed_of_timing kind).trans same) later _ reads
      rw [← alike, List.filter_cons_of_neg]
      simp [kind]
    | false =>
      -- The other run comes to the same action after some actions on the timers.
      rw [List.filter_cons_of_pos (by simp [kind])] at alike
      obtain ⟨before, after, rfl, dropped, -, onward⟩ := List.filter_eq_cons_iff.mp alike.symm
      have timing : ∀ action ∈ before, action.isTiming = true := by
        intro action listed
        simpa using dropped action listed
      obtain ⟨next, reached, shown, delays⟩ := right.exists_after_timing timing (action :: after)
      have close := same.trans reached.symm
      have plainly (limits : Limits) : action ≠ .run limits := by
        rintro rfl
        exact plain limits List.mem_cons_self
      rw [delays, delaysRead, delaysRead] at reads
      obtain ⟨read, remaining⟩ := delayRead?_of_delays close reads
      obtain ⟨-, untimed, -⟩ := perform_of_untimed close kind plainly read
      rw [shown, delays]
      exact showings_cons_congr close kind plainly read (ih untimed later onward.symm remaining)

end Console

/-- An action that is not on the timers is left as it is, and one that is stays on the timers. -/
theorem Action.of_muted {action quiet : Action} (muted : action.muted = some quiet) :
    quiet.isTiming = action.isTiming ∧ (action.isTiming = false → quiet = action) := by
  cases action with
  | setSound value => cases muted
  | setTimers timers =>
    cases muted
    exact ⟨rfl, nofun⟩
  | _ =>
    cases muted
    exact ⟨rfl, fun _ => rfl⟩

namespace Console

variable {left right : Console} {action : Action}

/-- Without its share in the sound counter, an action on the timers does the same to the delay. -/
theorem delay_of_muted {quiet : Action} (muted : action.muted = some quiet)
    (timing : action.isTiming = true) (same : left.delay = right.delay) :
    (left.perform action).1.delay = (right.perform quiet).1.delay := by
  cases action with
  | tick =>
    cases muted
    exact congrArg Timers.lower same
  | setDelay value =>
    cases muted
    rfl
  | setSound value => cases muted
  | setTimers timers =>
    cases muted
    rfl
  | drain period =>
    cases muted
    exact (Timers.delay_drain _).trans (Timers.delay_drain _).symm
  | _ => cases timing

/-- If nothing sets the sound counter any more, the same is shown and the same delays are read. -/
theorem showings_muted (same : left.untimed = right.untimed) (delay : left.delay = right.delay)
    {actions : List Action} (plain : ∀ limits, .run limits ∉ actions) :
    left.showings actions = right.showings (actions.filterMap Action.muted) ∧
      left.delaysRead actions = right.delaysRead (actions.filterMap Action.muted) := by
  induction actions generalizing left right with
  | nil => exact ⟨rfl, rfl⟩
  | cons action rest ih =>
    have later (limits : Limits) : .run limits ∉ rest :=
      fun listed => plain limits (List.mem_cons_of_mem _ listed)
    cases muted : action.muted with
    | none =>
      -- Only a write of the sound counter is left out altogether.
      rw [List.filterMap_cons_none muted]
      cases action with
      | setSound value => exact ih same delay later
      | _ => cases muted
    | some quiet =>
      obtain ⟨kind, kept⟩ := Action.of_muted muted
      rw [List.filterMap_cons_some muted]
      cases timing : action.isTiming with
      | true =>
        have timely := kind.trans timing
        have untimed := (left.untimed_of_timing timing).trans
          (same.trans (right.untimed_of_timing timely).symm)
        rw [left.showings_cons_of_timing timing, right.showings_cons_of_timing timely,
          left.delaysRead_cons_of_timing timing, right.delaysRead_cons_of_timing timely]
        exact ih untimed (delay_of_muted muted timing delay) later
      | false =>
        obtain rfl := kept timing
        have plainly (limits : Limits) : quiet ≠ .run limits := by
          rintro rfl
          exact plain limits List.mem_cons_self
        have read : left.delayRead? quiet = right.delayRead? quiet := by
          rw [delayRead?_of_untimed same quiet, ← delay]
          exact delayRead?_of_untimed rfl quiet
        obtain ⟨-, untimed, delays⟩ := perform_of_untimed same timing plainly read
        exact showings_cons_congr same timing plainly read (ih untimed (delays delay) later)

/-- A program notices nothing of the timers but the delays that it reads. On any console, take two
interleavings of the same actions with ticks and timer writes. If the delays that instructions read
are the same in turn, both give the same at each of these actions and leave the same machine but for
its timers; in particular if no delay is read. If the two differ only in what they do to the sound
counter, the delays read are the same to begin with. The instruction that sets a counter leaves the
other one alone, and no other instruction sets any. -/
theorem timing_shows_in_delays (console : Console) :
    (∀ actions others : List Action, (∀ limits, .run limits ∉ actions) →
      actions.filter (!·.isTiming) = others.filter (!·.isTiming) →
      (∀ pair ∈ (console.delaysRead actions).zip (console.delaysRead others), pair.1 = pair.2) →
      console.showings actions = console.showings others) ∧
    (∀ actions others : List Action, (∀ limits, .run limits ∉ actions) →
      (∀ limits, .run limits ∉ others) →
      actions.filterMap Action.muted = others.filterMap Action.muted →
      console.showings actions = console.showings others ∧
        console.delaysRead actions = console.delaysRead others) ∧
    ∀ (machine : Machine) (held : Held), machine.status = .running →
      match machine.instruction with
      | .setDelay x => (machine.step held).machine.state =
          { machine.state with
            timers := ⟨machine.state.register x, machine.state.timers.sound⟩
            pc := machine.state.pc + 2 }
      | .setSound x => (machine.step held).machine.state =
          { machine.state with
            timers := ⟨machine.state.timers.delay, machine.state.register x⟩
            pc := machine.state.pc + 2 }
      | _ => (machine.step held).machine.state.timers = machine.state.timers := by
  refine ⟨?_, ?_, ?_⟩
  · intro actions others plain alike reads
    exact (showings_of_delays rfl plain alike reads).1
  · intro actions others plain plainly alike
    obtain ⟨shows, tells⟩ := @showings_muted console console rfl rfl actions plain
    obtain ⟨also, too⟩ := @showings_muted console console rfl rfl others plainly
    rw [shows, tells, also, too, alike]
    exact ⟨rfl, rfl⟩
  · intro machine held running
    have written := machine.timers_step held
    simp only [Machine.timersAfter, running] at written
    split
    · rename_i x sets
      rw [Machine.step_of_going held running (by rw [sets]; rfl) (.inl rfl)]
      rfl
    · rename_i x sets
      rw [Machine.step_of_going held running (by rw [sets]; rfl) (.inl rfl)]
      rfl
    · rename_i delays sounds
      rw [written]
      unfold Instruction.timersAfter
      split
      · rename_i x sets
        exact absurd sets (delays x)
      · rename_i x sets
        exact absurd sets (sounds x)
      · rfl

/-- Whether the delay counter is set to three, or set to four and then ticks, a program that reads it
reads three. -/
theorem timing_shows_in_delays_ticked : ∃ console : Console,
    console.delaysRead [.setDelay 3, .step] = [3] ∧
      console.showings [.setDelay 3, .step] =
        console.showings [.setTimers ⟨4, 7⟩, .tick, .step] := by
  obtain ⟨machine, events, success⟩ :
      ∃ machine events, Machine.build { program := #[0xF1, 0x07] } = .ok (machine, events) :=
    ⟨_, _, rfl⟩
  have reads : machine.instruction = .readDelay 1 := by
    rw [Machine.instruction, Machine.word, Machine.word_of_build success]
    cases machine.state.mode <;> rfl
  have read (timers : Timers) : (machine.withTimers timers).delayRead? = some timers.delay := by
    rw [machine.delayRead?_withTimers,
      Machine.delayRead?_of_reads (Machine.running_of_build success) reads]
    rfl
  have once (delay : UInt8) : (Console.mk machine .absent).delaysRead [.setDelay delay, .step] =
      [delay] := by
    change ((machine.withTimers _).delayRead?).toList ++ [] = [delay]
    rw [read]
    rfl
  have ticked : (Console.mk machine .absent).delaysRead [.setTimers ⟨4, 7⟩, .tick, .step] = [3] := by
    have lowered : Timers.lower 4 = 3 := by decide
    change ((machine.withTimers ⟨Timers.lower 4, Timers.lower 7⟩).delayRead?).toList ++ [] = [3]
    rw [read, lowered]
    rfl
  obtain ⟨shows, -, -⟩ := timing_shows_in_delays ⟨machine, .absent⟩
  refine ⟨⟨machine, .absent⟩, once 3, shows _ _ ?_ rfl ?_⟩
  · simp
  · rw [once, ticked]
    exact List.forall_mem_singleton.mpr rfl

end Console

end SuperChip
