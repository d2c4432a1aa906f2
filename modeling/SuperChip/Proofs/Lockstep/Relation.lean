import SuperChip.Console
import SuperChip.Proofs.Building
import SuperChip.Proofs.Stepping

set_option autoImplicit false

/-!
A relation of machines is a lockstep if related machines show the same picture, timers and status, and
whatever can be done to the two of them gives the same answers and leaves them related. A lockstep may
end at certain events, such as the fetch of certain words.
-/

namespace SuperChip

namespace Machine

/-- Whether two attempts to set a machine up both fail with one error, or both succeed with related
machines and the same events. -/
def PairedResets (R : Machine → Machine → Prop) :
    (left right : Except MachineError (Machine × List Event)) → Prop
  | .ok (left, events), .ok (right, reported) => R left right ∧ events = reported
  | .error error, .error other => error = other
  | _, _ => False

/-- Whether two steps gave the same answer and the same events, and left related machines. -/
structure PairedSteps (R : Machine → Machine → Prop) (left right : Step) : Prop where
  machine : R left.machine right.machine
  outcome : left.outcome = right.outcome
  events : left.events = right.events

/-- A relation that machines keep when they are driven alike, as long as they report none but the
events allowed. -/
structure Lockstep (Allowed : Event → Prop) (R : Machine → Machine → Prop) : Prop where
  screen : ∀ {left right}, R left right → left.state.screen = right.state.screen
  timers : ∀ {left right}, R left right → left.state.timers = right.state.timers
  status : ∀ {left right}, R left right → left.status = right.status
  runs : ∀ {left right} (held : Held), R left right → left.status = .running →
    (∀ event ∈ (left.runInstruction held).events, Allowed event) →
    PairedSteps R (left.runInstruction held) (right.runInstruction held)
  takes : ∀ {left right} {x : Register} (key : UInt8), R left right →
    left.status = .awaitingKey x → R (left.resume key).1 (right.resume key).1
  withTimers : ∀ {left right} (timers : Timers), R left right →
    R (left.withTimers timers) (right.withTimers timers)
  resets : ∀ {left right}, R left right → PairedResets R left.reset right.reset

/-- Whether two machines have related states and are the same apart from them. -/
structure Related (S : State → State → Prop) (left right : Machine) : Prop where
  state : S left.state right.state
  strategy : left.strategy = right.strategy
  status : left.status = right.status
  program : left.program = right.program
  lastWord : left.lastWord = right.lastWord

end Machine

/-- A relation of states in which the same word is about to run and does the same, as long as its
fetch is among the events allowed. -/
structure State.Lockstep (Allowed : Event → Prop) (S : State → State → Prop) : Prop where
  screen : ∀ {left right}, S left right → left.screen = right.screen
  timers : ∀ {left right}, S left right → left.timers = right.timers
  pc : ∀ {left right}, S left right → left.pc = right.pc
  fetches : ∀ {left right} (address : UInt16), S left right →
    left.fetch address = right.fetch address
  reads : ∀ {left right} {word : Word}, S left right →
    Allowed (.fetched left.pc word (word.decode left.mode).mnemonic) →
    word.decode left.mode = word.decode right.mode
  executes : ∀ {left right} (instruction : Instruction) (held : Held), S left right →
    S (instruction.execute left held).state (instruction.execute right held).state ∧
    (instruction.execute left held).result = (instruction.execute right held).result
  takes : ∀ {left right} (x : Register) (key : UInt8), S left right →
    S (left.deliverKey x key) (right.deliverKey x key)
  withTimers : ∀ {left right} (timers : Timers), S left right →
    S { left with timers } { right with timers }
  loads : ∀ {left right} (program : Array UInt8), S left right →
    S { left.reset with memory := (Memory.blank left.font).withProgram program }
      { right.reset with memory := (Memory.blank right.font).withProgram program }

namespace Machine

section Related

variable {Allowed : Event → Prop} {S : State → State → Prop} {left right : Machine}

theorem Related.word (related : Related S left right) (lockstep : State.Lockstep Allowed S) :
    left.word = right.word := by
  rw [Machine.word, Machine.word, ← lockstep.pc related.state]
  exact lockstep.fetches _ related.state

theorem Related.instruction (related : Related S left right) (lockstep : State.Lockstep Allowed S)
    (allowed : Allowed (.fetched left.state.pc left.word left.instruction.mnemonic)) :
    left.instruction = right.instruction := by
  rw [Machine.instruction, Machine.instruction, ← related.word lockstep]
  exact lockstep.reads related.state allowed

theorem Related.runInstruction (related : Related S left right)
    (lockstep : State.Lockstep Allowed S) (held : Held)
    (allowed : ∀ event ∈ (left.runInstruction held).events, Allowed event) :
    PairedSteps (Related S) (left.runInstruction held) (right.runInstruction held) := by
  rw [runInstruction_events, List.forall_mem_cons] at allowed
  have word := related.word lockstep
  have instruction := related.instruction lockstep allowed.1
  have pc := lockstep.pc related.state
  obtain ⟨state, result⟩ := lockstep.executes left.instruction held related.state
  have after : left.statusAfter = right.statusAfter := by
    funext result
    simp only [statusAfter, related.status, pc, word]
  constructor
  · rw [runInstruction_machine, runInstruction_machine, ← instruction, ← word, ← after, ← result]
    exact ⟨state, related.strategy, rfl, related.program, rfl⟩
  · rw [runInstruction_outcome, runInstruction_outcome, ← instruction, result]
  · rw [runInstruction_events, runInstruction_events, ← instruction, ← pc, ← word, result]

theorem Related.resume {x : Register} (related : Related S left right)
    (lockstep : State.Lockstep Allowed S) (awaiting : left.status = .awaitingKey x)
    (key : UInt8) : Related S (left.resume key).1 (right.resume key).1 := by
  have asked := related.status.symm.trans awaiting
  simp only [Machine.resume, awaiting, asked]
  exact ⟨lockstep.takes x key related.state, related.strategy, rfl, related.program,
    related.lastWord⟩

theorem Related.reset (related : Related S left right) (lockstep : State.Lockstep Allowed S) :
    PairedResets (Related S) left.reset right.reset := by
  unfold Machine.reset
  rw [← related.program]
  rcases State.loadProgram_uniform left.program with ⟨error, refused⟩ | loads
  · rw [refused, refused]
    rfl
  · rw [loads, loads]
    exact ⟨⟨lockstep.loads _ related.state, related.strategy, rfl, rfl, rfl⟩, rfl⟩

/-- Machines with states in lockstep, and the same otherwise, are in lockstep. -/
theorem lockstep_related (lockstep : State.Lockstep Allowed S) : Lockstep Allowed (Related S) where
  screen related := lockstep.screen related.state
  timers related := lockstep.timers related.state
  status related := related.status
  runs held related _ allowed := related.runInstruction lockstep held allowed
  takes key related awaiting := related.resume lockstep awaiting key
  withTimers timers related :=
    ⟨lockstep.withTimers timers related.state, related.strategy, related.status, related.program,
      related.lastWord⟩
  resets related := related.reset lockstep

end Related

namespace Lockstep

variable {Allowed : Event → Prop} {R : Machine → Machine → Prop} {left right : Machine}

theorem step (lockstep : Lockstep Allowed R) (related : R left right) (held : Held)
    (allowed : ∀ event ∈ (left.step held).events, Allowed event) :
    PairedSteps R (left.step held) (right.step held) := by
  have status := lockstep.status related
  by_cases running : left.status = .running
  · rw [step_of_running held running] at allowed ⊢
    rw [step_of_running held (status.symm.trans running)]
    exact lockstep.runs held related running allowed
  · unfold Machine.step
    rw [← status]
    cases standing : left.status with
    | running => exact absurd standing running
    | _ => exact ⟨related, rfl, rfl⟩

theorem resume (lockstep : Lockstep Allowed R) (related : R left right) (key : UInt8) :
    R (left.resume key).1 (right.resume key).1 ∧ (left.resume key).2 = (right.resume key).2 := by
  have status := lockstep.status related
  cases standing : left.status with
  | awaitingKey x =>
    refine ⟨lockstep.takes key related standing, ?_⟩
    simp only [Machine.resume, ← status, standing]
  | _ =>
    simp only [Machine.resume, ← status, standing]
    exact ⟨related, trivial⟩

theorem frame (lockstep : Lockstep Allowed R) (related : R left right) :
    left.frame = right.frame := by
  rw [Machine.frame, Machine.frame, lockstep.screen related]

end Lockstep

end Machine

/-- Whether a host keeps a log of all events, latest first. -/
structure Host.Logs {σ : Type} (host : Host σ) (log : σ → List Event) : Prop where
  stopping : ∀ s, log (host.stopping s).2 = log s
  wait : ∀ s, log (host.wait s).2 = log s
  notice : ∀ s event, log (host.notice s event) = event :: log s
  present : ∀ s frame, log (host.present s frame) = log s

namespace Host.Logs

variable {σ : Type} {host : Host σ} {log : σ → List Event}

theorem notices (logs : host.Logs log) (s : σ) (events : List Event) :
    log (events.foldl host.notice s) = events.reverse ++ log s := by
  induction events generalizing s with
  | nil => rfl
  | cons event rest ih =>
    rw [List.foldl_cons, ih, logs.notice, List.reverse_cons, List.append_assoc]
    rfl

theorem subset_awaitKey (logs : host.Logs log) {goOn : σ → Machine → σ × Machine × Ending}
    (goesOn : ∀ s machine, log s ⊆ log (goOn s machine).1) (s : σ) (machine : Machine) :
    log s ⊆ log (Machine.awaitKey host goOn s machine).1 := by
  have waits := logs.wait s
  unfold Machine.awaitKey
  split
  · rename_i key after wait
    rw [wait] at waits
    rw [← waits]
    exact goesOn after _
  · rename_i after wait
    rw [wait] at waits
    rw [logs.notice, ← waits]
    exact List.subset_cons_self _ _
  · rename_i after wait
    rw [wait] at waits
    rw [← waits]
    exact List.Subset.refl _

/-- What is logged by the end of the first step of a run is logged at its end. -/
theorem subset_turn (logs : host.Logs log) {count : Nat}
    (goesOn : ∀ s machine, log s ⊆ log (Machine.turns host count s machine).1) {s : σ}
    (going : (host.stopping s).1 = false) (machine : Machine) :
    log ((machine.step (host.held (host.stopping s).2)).events.foldl host.notice
      (host.stopping s).2) ⊆ log (machine.turns host (count + 1) s).1 := by
  simp only [Machine.turns, going, Bool.false_eq_true, if_false]
  generalize (host.stopping s).2 = looked
  generalize machine.step (host.held looked) = step
  cases step.outcome with
  | error error => exact List.Subset.refl _
  | ok outcome =>
    cases outcome with
    | proceeded => exact goesOn _ _
    | displayUpdated =>
      rw [← logs.present _ step.machine.frame]
      exact goesOn _ _
    | exited => exact List.Subset.refl _
    | awaitingKey =>
      rw [← logs.stopping]
      dsimp only
      split
      · exact List.Subset.refl _
      · exact logs.subset_awaitKey goesOn _ _

/-- What is logged stays in the log of a run. -/
theorem subset_turns (logs : host.Logs log) (count : Nat) (s : σ) (machine : Machine) :
    log s ⊆ log (machine.turns host count s).1 := by
  induction count generalizing s machine with
  | zero => exact List.Subset.refl _
  | succ count ih =>
    rw [← logs.stopping s]
    cases going : (host.stopping s).1 with
    | true =>
      simp only [Machine.turns, going, if_true]
      exact List.Subset.refl _
    | false =>
      have later := logs.subset_turn ih going machine
      rw [logs.notices] at later
      exact List.Subset.trans (List.subset_append_right _ _) later

/-- The events of the first step of a run are in its log. -/
theorem events_subset_turns (logs : host.Logs log) (count : Nat) {s : σ}
    (going : (host.stopping s).1 = false) (machine : Machine) :
    (machine.step (host.held (host.stopping s).2)).events ⊆
      log (machine.turns host (count + 1) s).1 := by
  have later := logs.subset_turn (logs.subset_turns count) going machine
  rw [logs.notices] at later
  intro event listed
  exact later (List.mem_append_left _ (List.mem_reverse.mpr listed))

end Host.Logs

namespace Machine

/-- Whether two runs left their hosts in the same state and ended alike, with related machines. -/
structure PairedRuns {σ : Type} (R : Machine → Machine → Prop) (left right : σ × Machine × Ending) :
    Prop where
  host : left.1 = right.1
  machine : R left.2.1 right.2.1
  ending : left.2.2 = right.2.2

namespace Lockstep

variable {Allowed : Event → Prop} {R : Machine → Machine → Prop} {left right : Machine}
  {σ : Type} {host : Host σ} {log : σ → List Event}

theorem awaitKey (lockstep : Lockstep Allowed R) {goOn : σ → Machine → σ × Machine × Ending}
    (goesOn : ∀ s {left right : Machine}, R left right →
      (∀ event ∈ log (goOn s left).1, Allowed event) → PairedRuns R (goOn s left) (goOn s right))
    (s : σ) (related : R left right)
    (allowed : ∀ event ∈ log (Machine.awaitKey host goOn s left).1, Allowed event) :
    PairedRuns R (Machine.awaitKey host goOn s left) (Machine.awaitKey host goOn s right) := by
  unfold Machine.awaitKey at allowed ⊢
  split at allowed
  · exact goesOn _ (lockstep.resume related _).1 allowed
  · exact ⟨rfl, related, rfl⟩
  · exact ⟨rfl, related, rfl⟩

/-- Machines in lockstep stay so in a run, and give their host the same. -/
theorem turns (lockstep : Lockstep Allowed R) (logs : host.Logs log) (count : Nat) (s : σ)
    (related : R left right)
    (allowed : ∀ event ∈ log (left.turns host count s).1, Allowed event) :
    PairedRuns R (left.turns host count s) (right.turns host count s) := by
  induction count generalizing s left right with
  | zero => exact ⟨rfl, related, rfl⟩
  | succ count ih =>
    cases going : (host.stopping s).1 with
    | true =>
      simp only [Machine.turns, going, if_true]
      exact ⟨rfl, related, rfl⟩
    | false =>
      -- What the first step reports is in the log of the whole run, hence allowed.
      obtain ⟨machines, outcomes, events⟩ :=
        lockstep.step related (host.held (host.stopping s).2) fun event listed =>
          allowed event (logs.events_subset_turns count going left listed)
      have frames := lockstep.frame machines
      simp only [Machine.turns, going, Bool.false_eq_true, if_false] at allowed ⊢
      generalize (host.stopping s).2 = looked at *
      generalize left.step (host.held looked) = leftStep at *
      generalize right.step (host.held looked) = rightStep at *
      rw [← outcomes, ← events, ← frames]
      clear outcomes
      generalize leftStep.outcome = result at allowed ⊢
      cases result with
      | error error => exact ⟨rfl, machines, rfl⟩
      | ok outcome =>
        cases outcome with
        | proceeded => exact ih _ machines allowed
        | displayUpdated => exact ih _ machines allowed
        | exited => exact ⟨rfl, machines, rfl⟩
        | awaitingKey =>
          cases again : (host.stopping (leftStep.events.foldl host.notice looked)).1 with
          | true =>
            simp only [if_true]
            exact ⟨rfl, machines, rfl⟩
          | false =>
            simp only [again, Bool.false_eq_true, if_false] at allowed ⊢
            exact lockstep.awaitKey (fun s _ _ => ih s) _ machines allowed

end Lockstep

end Machine

theorem Limits.logs_events (limits : Limits) : limits.host.Logs Recorder.events where
  stopping _ := rfl
  wait _ := rfl
  notice recorder event := by
    cases event <;> rfl
  present _ _ := rfl

namespace Console

/-- Whether two consoles have the same keys and related machines. -/
structure Paired (R : Machine → Machine → Prop) (left right : Console) : Prop where
  machine : R left.machine right.machine
  keys : left.keys = right.keys

variable {Allowed : Event → Prop} {R : Machine → Machine → Prop} {left right : Console}

theorem Paired.onKeys (paired : Paired R left right) (change : Keypad → Keypad) :
    Paired R { left with keys := left.keys.change change }
      { right with keys := right.keys.change change } :=
  ⟨paired.machine, congrArg (·.change change) paired.keys⟩

theorem Paired.onTimers (lockstep : Machine.Lockstep Allowed R) (paired : Paired R left right)
    (change : Timers → Timers) : Paired R (left.onTimers change) (right.onTimers change) := by
  refine ⟨?_, paired.keys⟩
  unfold Console.onTimers
  rw [lockstep.timers paired.machine]
  exact lockstep.withTimers _ paired.machine

theorem Paired.run (lockstep : Machine.Lockstep Allowed R) (paired : Paired R left right)
    (limits : Limits) (allowed : ∀ event ∈ (left.run limits).2.2, Allowed event) :
    Paired R (left.run limits).1 (right.run limits).1 ∧
      (left.run limits).2 = (right.run limits).2 := by
  simp only [Console.run, List.mem_reverse, Machine.run] at allowed ⊢
  rw [← paired.keys, ← lockstep.frame paired.machine]
  obtain ⟨host, machine, ending⟩ :=
    lockstep.turns limits.logs_events limits.turns _ paired.machine allowed
  rw [host, ending]
  exact ⟨⟨machine, rfl⟩, rfl⟩

/-- Consoles in lockstep stay so whatever is done to both, and answer alike. -/
theorem Paired.perform (lockstep : Machine.Lockstep Allowed R) (paired : Paired R left right)
    (action : Action) (allowed : ∀ event ∈ (left.perform action).2.2, Allowed event) :
    Paired R (left.perform action).1 (right.perform action).1 ∧
      (left.perform action).2 = (right.perform action).2 := by
  have related := paired.machine
  have keys := paired.keys
  cases action with
  | step =>
    obtain ⟨machines, outcome, events⟩ := lockstep.step related left.keys.held allowed
    simp only [Console.perform, ← keys, ← outcome, ← events]
    exact ⟨⟨machines, rfl⟩, trivial⟩
  | tick =>
    simp only [Console.perform, Machine.tick, ← lockstep.timers related]
    exact ⟨⟨lockstep.withTimers _ related, keys⟩, trivial⟩
  | resume key =>
    obtain ⟨machines, awaited⟩ := lockstep.resume related key
    simp only [Console.perform, ← awaited]
    exact ⟨⟨machines, keys⟩, trivial⟩
  | reset =>
    have resets := lockstep.resets related
    unfold Machine.PairedResets at resets
    simp only [Console.perform]
    split at resets
    · rename_i first second
      rw [first, second]
      exact ⟨⟨resets.1, keys⟩, by rw [resets.2]⟩
    · rename_i first second
      rw [first, second, resets]
      exact ⟨paired, rfl⟩
    · exact resets.elim
  | press key => exact ⟨paired.onKeys _, rfl⟩
  | release key => exact ⟨paired.onKeys _, rfl⟩
  | releaseAll => exact ⟨paired.onKeys _, rfl⟩
  | close => exact ⟨paired.onKeys _, rfl⟩
  | setDelay value => exact ⟨paired.onTimers lockstep (·.setDelay value), rfl⟩
  | setSound value => exact ⟨paired.onTimers lockstep (·.setSound value), rfl⟩
  | setTimers timers => exact ⟨paired.onTimers lockstep fun _ => timers, rfl⟩
  | drain period =>
    simp only [Console.perform, ← lockstep.timers related]
    exact ⟨⟨lockstep.withTimers _ related, keys⟩, trivial⟩
  | run limits => exact paired.run lockstep limits allowed

theorem Paired.performAll (lockstep : Machine.Lockstep Allowed R) (paired : Paired R left right)
    (actions : List Action)
    (allowed : ∀ given ∈ (left.performAll actions).2, ∀ event ∈ given.2, Allowed event) :
    Paired R (left.performAll actions).1 (right.performAll actions).1 ∧
      (left.performAll actions).2 = (right.performAll actions).2 := by
  induction actions generalizing left right with
  | nil => exact ⟨paired, rfl⟩
  | cons action rest ih =>
    simp only [Console.performAll, List.forall_mem_cons] at allowed ⊢
    obtain ⟨next, given⟩ := paired.perform lockstep action allowed.1
    obtain ⟨final, more⟩ := ih next allowed.2
    rw [← given, ← more]
    exact ⟨final, rfl⟩

end Console

end SuperChip
