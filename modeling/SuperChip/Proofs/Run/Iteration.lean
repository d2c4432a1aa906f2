import SuperChip.Proofs.Run.Transcript
import SuperChip.Proofs.Stepping

set_option autoImplicit false

namespace SuperChip

namespace Exchange

/-- How a run ends by an exchange, if it does. -/
def ending? : Exchange → Option Ending
  | looked true => some .stopped
  | stepped _ (.error error) _ => some (.failed error)
  | stepped _ (.ok .exited) _ => some .exited
  | waited .closed => some .closed
  | _ => none

def picture? : Exchange → Option Frame
  | presented frame => some frame
  | _ => none

/-- The keys and the events of a step that ran an instruction. A machine that stands still has no
events. -/
def executed? : Exchange → Option (Held × List Event)
  | stepped held _ (event :: events) => some (held, event :: events)
  | _ => none

def delivery? : Exchange → Option UInt8
  | waited (.key key) => some key
  | _ => none

end Exchange

namespace Machine

/-- What a machine does at an exchange: it steps, takes a key, or nothing. -/
def undergo (machine : Machine) : Exchange → Machine
  | .stepped held _ _ => (machine.step held).machine
  | .waited (.key key) => (machine.resume key).1
  | _ => machine

/-- The pictures right after those steps that changed the picture. -/
def pictures : Machine → List Exchange → List Frame
  | _, [] => []
  | machine, .stepped held outcome events :: rest =>
    let after := machine.undergo (.stepped held outcome events)
    match (machine.step held).outcome with
    | .ok .displayUpdated => after.frame :: after.pictures rest
    | _ => after.pictures rest
  | machine, exchange :: rest => (machine.undergo exchange).pictures rest

/-- What it means for a transcript to iterate the step of a machine. -/
structure Iterates (machine : Machine) (transcript : List Exchange) (final : Machine)
    (ending : Ending) : Prop where
  /-- The steps and deliveries, one after the other, lead to the machine at the end. -/
  reached : transcript.foldl undergo machine = final
  /-- The first exchange by which a run ends is the last one. -/
  ends : ∃ before last, transcript = before ++ [last] ∧
    (∀ exchange ∈ before, exchange.ending? = none) ∧ last.ending? = some ending
  /-- After the picture at the start come those after steps that changed it, in order. -/
  shown : transcript.filterMap Exchange.picture? = machine.pictures transcript
  current : (transcript.filterMap Exchange.picture?).getLastD machine.frame = final.frame
  /-- The run fails exactly if a step failed. -/
  fails : ∀ error, ending = .failed error ↔
    ∃ held events, Exchange.stepped held (.error error) events ∈ transcript
  /-- A run that failed leaves the record of the failure. -/
  recorded : ∀ error, ending = .failed error →
    ∃ fault, final.fault? = some fault ∧ fault.error = error

/-- Whether a transcript has the instructions, the pictures and the deliveries of two others, one
after the other. -/
structure Joins (first second whole : List Exchange) : Prop where
  executed : whole.filterMap Exchange.executed? =
    first.filterMap Exchange.executed? ++ second.filterMap Exchange.executed?
  pictures : whole.filterMap Exchange.picture? =
    first.filterMap Exchange.picture? ++ second.filterMap Exchange.picture?
  deliveries : whole.filterMap Exchange.delivery? =
    first.filterMap Exchange.delivery? ++ second.filterMap Exchange.delivery?

variable {machine : Machine}

/-- Only a step that says so changes the picture. -/
theorem screen_step {held : Held}
    (unchanged : (machine.step held).outcome ≠ .ok .displayUpdated) :
    (machine.step held).machine.state.screen = machine.state.screen := by
  by_cases running : machine.status = .running
  · rw [step_of_running held running, runInstruction_outcome] at unchanged
    rw [step_of_running held running, runInstruction_machine]
    cases failure : machine.instruction.failure? machine.state with
    | some error => rw [Instruction.execute_of_failure failure]
    | none =>
      have does := Instruction.does_execute failure held
      apply does.screen_eq
      intro redraws
      rw [redraws] at unchanged
      exact unchanged rfl
  · rw [step_of_standing held running]

theorem frame_step {held : Held}
    (unchanged : (machine.step held).outcome ≠ .ok .displayUpdated) :
    (machine.step held).machine.frame = machine.frame := by
  rw [frame, screen_step unchanged, frame]

theorem screen_resume (key : UInt8) :
    (machine.resume key).1.state.screen = machine.state.screen := by
  unfold resume
  split <;> rfl

theorem frame_resume (key : UInt8) : (machine.resume key).1.frame = machine.frame := by
  rw [frame, screen_resume, frame]

theorem pictures_exchange (held : Held) (rest : List Exchange) :
    machine.pictures (machine.exchange held :: rest) =
      match (machine.step held).outcome with
      | .ok .displayUpdated =>
        (machine.step held).machine.frame :: (machine.step held).machine.pictures rest
      | _ => (machine.step held).machine.pictures rest := rfl

theorem ending?_exchange (held : Held) :
    (machine.exchange held).ending? =
      match (machine.step held).outcome with
      | .error error => some (.failed error)
      | .ok .exited => some .exited
      | _ => none := by
  unfold exchange
  cases (machine.step held).outcome with
  | error error => rfl
  | ok outcome => cases outcome <;> rfl

theorem ending?_of_going {held : Held} {outcome : Outcome}
    (result : (machine.step held).outcome = .ok outcome) (goes : outcome ≠ .exited) :
    (machine.exchange held).ending? = none := by
  rw [ending?_exchange, result]
  cases outcome with
  | exited => contradiction
  | _ => rfl

theorem status_of_awaiting {held : Held}
    (outcome : (machine.step held).outcome = .ok .awaitingKey) :
    ∃ x, (machine.step held).machine.status = .awaitingKey x := by
  have answers := machine.step_answers held
  rw [outcome] at answers
  cases status : (machine.step held).machine.status with
  | awaitingKey x => exact ⟨x, rfl⟩
  | _ =>
    rw [status] at answers
    simp [Status.answer?] at answers

theorem fault_of_error {held : Held} {error : MachineError}
    (outcome : (machine.step held).outcome = .error error) :
    ∃ fault, (machine.step held).machine.fault? = some fault ∧ fault.error = error := by
  have answers := machine.step_answers held
  rw [outcome] at answers
  cases status : (machine.step held).machine.status with
  | halted fault =>
    rw [status] at answers
    refine ⟨fault, ?_, (Except.error.inj answers).symm⟩
    rw [fault?, status]
  | _ =>
    rw [status] at answers
    simp [Status.answer?] at answers

/-- A machine that awaits a key does nothing in a step. -/
theorem step_of_awaiting {x : Register} (awaiting : machine.status = .awaitingKey x)
    (held : Held) : machine.step held = ⟨machine, .ok .awaitingKey, []⟩ := by
  simp only [step, awaiting]

namespace Runs

variable {final : Machine} {transcript : List Exchange} {ending : Ending}

theorem reached (runs : machine.Runs transcript final ending) :
    transcript.foldl undergo machine = final := by
  induction runs with
  | proceeded _ _ ih => exact ih
  | displayUpdated _ _ ih => exact ih
  | delivered _ _ _ ih => exact ih
  | _ => rfl

theorem returned (runs : machine.Runs transcript final ending) : ending.Returned := by
  induction runs with
  | proceeded _ _ ih => exact ih
  | displayUpdated _ _ ih => exact ih
  | delivered _ _ _ ih => exact ih
  | _ => trivial

theorem ends (runs : machine.Runs transcript final ending) :
    ∃ before last, transcript = before ++ [last] ∧
      (∀ exchange ∈ before, exchange.ending? = none) ∧ last.ending? = some ending := by
  induction runs with
  | raised => exact ⟨[], _, rfl, List.forall_mem_nil _, rfl⟩
  | failed outcome =>
    refine ⟨[.looked false], _, rfl, List.forall_mem_singleton.mpr rfl, ?_⟩
    rw [ending?_exchange, outcome]
  | exited outcome =>
    refine ⟨[.looked false], _, rfl, List.forall_mem_singleton.mpr rfl, ?_⟩
    rw [ending?_exchange, outcome]
  | @raisedAwaiting machine held outcome =>
    refine ⟨[.looked false, machine.exchange held], _, rfl, ?_, rfl⟩
    simp only [List.forall_mem_cons]
    exact ⟨rfl, ending?_of_going outcome (by simp), List.forall_mem_nil _⟩
  | @closed machine held outcome =>
    refine ⟨[.looked false, machine.exchange held, .looked false], _, rfl, ?_, rfl⟩
    simp only [List.forall_mem_cons]
    exact ⟨rfl, ending?_of_going outcome (by simp), rfl, List.forall_mem_nil _⟩
  | @proceeded machine final held rest ending outcome runs ih =>
    obtain ⟨before, last, rfl, goesOn, ends⟩ := ih
    refine ⟨.looked false :: machine.exchange held :: before, last, rfl, ?_, ends⟩
    simp only [List.forall_mem_cons]
    exact ⟨rfl, ending?_of_going outcome (by simp), goesOn⟩
  | @displayUpdated machine final held rest ending outcome runs ih =>
    obtain ⟨before, last, rfl, goesOn, ends⟩ := ih
    refine ⟨.looked false :: machine.exchange held ::
      .presented (machine.step held).machine.frame :: before, last, rfl, ?_, ends⟩
    simp only [List.forall_mem_cons]
    exact ⟨rfl, ending?_of_going outcome (by simp), rfl, goesOn⟩
  | @delivered machine final held rest ending outcome key runs ih =>
    obtain ⟨before, last, rfl, goesOn, ends⟩ := ih
    refine ⟨.looked false :: machine.exchange held :: .looked false ::
      .waited (.key key) :: before, last, rfl, ?_, ends⟩
    simp only [List.forall_mem_cons]
    exact ⟨rfl, ending?_of_going outcome (by simp), rfl, rfl, goesOn⟩

theorem shown (runs : machine.Runs transcript final ending) :
    transcript.filterMap Exchange.picture? = machine.pictures transcript := by
  induction runs with
  | raised => rfl
  | @failed machine held error outcome =>
    change [] = machine.pictures (machine.exchange held :: [])
    rw [pictures_exchange, outcome]
    rfl
  | @exited machine held outcome =>
    change [] = machine.pictures (machine.exchange held :: [])
    rw [pictures_exchange, outcome]
    rfl
  | @raisedAwaiting machine held outcome =>
    change [] = machine.pictures (machine.exchange held :: _)
    rw [pictures_exchange, outcome]
    rfl
  | @closed machine held outcome =>
    change [] = machine.pictures (machine.exchange held :: _)
    rw [pictures_exchange, outcome]
    rfl
  | @proceeded machine final held rest ending outcome runs ih =>
    change rest.filterMap Exchange.picture? = machine.pictures (machine.exchange held :: rest)
    rw [pictures_exchange, outcome]
    exact ih
  | @displayUpdated machine final held rest ending outcome runs ih =>
    change _ :: rest.filterMap Exchange.picture? = machine.pictures (machine.exchange held :: _)
    rw [pictures_exchange, outcome]
    exact congrArg _ ih
  | @delivered machine final held rest ending outcome key runs ih =>
    change rest.filterMap Exchange.picture? = machine.pictures (machine.exchange held :: _)
    rw [pictures_exchange, outcome]
    exact ih

theorem current (runs : machine.Runs transcript final ending) :
    (transcript.filterMap Exchange.picture?).getLastD machine.frame = final.frame := by
  have plain {machine : Machine} {held : Held} {result : Except MachineError Outcome}
      (outcome : (machine.step held).outcome = result) (other : result ≠ .ok .displayUpdated) :
      machine.frame = (machine.step held).machine.frame :=
    (frame_step (outcome.symm ▸ other)).symm
  induction runs with
  | raised => rfl
  | failed outcome => exact plain outcome (by simp)
  | exited outcome => exact plain outcome (by simp)
  | raisedAwaiting outcome => exact plain outcome (by simp)
  | closed outcome => exact plain outcome (by simp)
  | @proceeded machine final held rest ending outcome runs ih =>
    change (rest.filterMap Exchange.picture?).getLastD machine.frame = final.frame
    rw [plain outcome (by simp)]
    exact ih
  | @displayUpdated machine final held rest ending outcome runs ih =>
    change (_ :: rest.filterMap Exchange.picture?).getLastD machine.frame = final.frame
    rw [List.getLastD_cons]
    exact ih
  | @delivered machine final held rest ending outcome key runs ih =>
    change (rest.filterMap Exchange.picture?).getLastD machine.frame = final.frame
    rw [plain outcome (by simp), ← frame_resume key]
    exact ih

theorem fails_iff (runs : machine.Runs transcript final ending) (error : MachineError) :
    ending = .failed error ↔
      ∃ held events, Exchange.stepped held (.error error) events ∈ transcript := by
  induction runs with
  | proceeded outcome _ ih => simp [exchange, outcome, ih]
  | displayUpdated outcome _ ih => simp [exchange, outcome, ih]
  | delivered outcome _ _ ih => simp [exchange, outcome, ih]
  | raised => simp
  | failed outcome => simp [exchange, outcome, eq_comm]
  | exited outcome => simp [exchange, outcome]
  | raisedAwaiting outcome => simp [exchange, outcome]
  | closed outcome => simp [exchange, outcome]

theorem recorded (runs : machine.Runs transcript final ending) {error : MachineError}
    (failed : ending = .failed error) : ∃ fault, final.fault? = some fault ∧ fault.error = error := by
  induction runs with
  | failed outcome =>
    cases failed
    exact fault_of_error outcome
  | proceeded _ _ ih => exact ih failed
  | displayUpdated _ _ ih => exact ih failed
  | delivered _ _ _ ih => exact ih failed
  | _ => cases failed

end Runs

theorem Joins.cons {first second whole : List Exchange} (joins : Joins first second whole)
    (exchange : Exchange) : Joins (exchange :: first) second (exchange :: whole) := by
  obtain ⟨executed, pictures, deliveries⟩ := joins
  refine ⟨?_, ?_, ?_⟩
  · rw [List.filterMap_cons, List.filterMap_cons, executed]
    split <;> rfl
  · rw [List.filterMap_cons, List.filterMap_cons, pictures]
    split <;> rfl
  · rw [List.filterMap_cons, List.filterMap_cons, deliveries]
    split <;> rfl

/-- A run that was stopped while a key was awaited is taken up by another step, which does nothing,
and by another wait. -/
theorem Runs.join_awaiting {held : Held} {final : Machine} {second : List Exchange} {ending : Ending}
    (outcome : (machine.step held).outcome = .ok .awaitingKey)
    (resumed : (machine.step held).machine.Runs second final ending) :
    ∃ whole, machine.Runs whole final ending ∧
      Joins [.looked false, machine.exchange held, .looked true] second whole := by
  obtain ⟨x, awaiting⟩ := status_of_awaiting outcome
  have idle := step_of_awaiting awaiting
  have stands (held' : Held) : (machine.step held).machine.exchange held' =
      .stepped held' (.ok .awaitingKey) [] := by
    rw [exchange, idle]
  cases resumed with
  | raised => exact ⟨_, .raisedAwaiting outcome, .cons (.cons ⟨rfl, rfl, rfl⟩ _) _⟩
  | raisedAwaiting =>
    rw [stands, idle]
    exact ⟨_, .raisedAwaiting outcome, .cons (.cons ⟨rfl, rfl, rfl⟩ _) _⟩
  | closed =>
    rw [stands, idle]
    exact ⟨_, .closed outcome, .cons (.cons ⟨rfl, rfl, rfl⟩ _) _⟩
  | delivered _ key runs =>
    rw [idle] at runs
    rw [stands]
    exact ⟨_, .delivered outcome key runs, .cons (.cons ⟨rfl, rfl, rfl⟩ _) _⟩
  | failed failed =>
    rw [idle] at failed
    cases failed
  | exited exits =>
    rw [idle] at exits
    cases exits
  | proceeded proceeds =>
    rw [idle] at proceeds
    cases proceeds
  | displayUpdated updates =>
    rw [idle] at updates
    cases updates

/-- A run that was stopped and the run that takes it up make one run. -/
theorem Runs.join {middle final : Machine} {first second : List Exchange} {ending : Ending}
    (runs : machine.Runs first middle .stopped) (resumed : middle.Runs second final ending) :
    ∃ whole, machine.Runs whole final ending ∧ Joins first second whole := by
  generalize stopped : Ending.stopped = cut at runs
  induction runs with
  | raised => exact ⟨second, resumed, ⟨rfl, rfl, rfl⟩⟩
  | failed => cases stopped
  | exited => cases stopped
  | closed => cases stopped
  | raisedAwaiting outcome => exact resumed.join_awaiting outcome
  | proceeded outcome _ ih =>
    obtain ⟨whole, runs, joins⟩ := ih resumed stopped
    exact ⟨_, .proceeded outcome runs, (joins.cons _).cons _⟩
  | displayUpdated outcome _ ih =>
    obtain ⟨whole, runs, joins⟩ := ih resumed stopped
    exact ⟨_, .displayUpdated outcome runs, ((joins.cons _).cons _).cons _⟩
  | delivered outcome key _ ih =>
    obtain ⟨whole, runs, joins⟩ := ih resumed stopped
    exact ⟨_, .delivered outcome key runs, (((joins.cons _).cons _).cons _).cons _⟩

/-- Running a machine is iterating its step. Under any host, a run returns exactly by the transcripts
of the machine that the host plays, with the current picture presented at the start, and there is a
host for each of them. Each transcript iterates the step of the machine; a run that was stopped and
the one that takes it up make one; and only a step that says so changes the picture. -/
theorem run_iterates_step (machine : Machine) :
    (∀ {σ : Type} (host : Host σ) (s last : σ) (final : Machine) (ending : Ending),
      (ending.Returned ∧ ∃ count, machine.run host count s = (last, final, ending)) ↔
        ∃ transcript, machine.Runs transcript final ending ∧
          host.Plays s (.presented machine.frame :: transcript) last) ∧
    (∀ transcript final ending, machine.Runs transcript final ending →
      machine.Iterates transcript final ending ∧
      ∃ (host : Host (List Exchange)) (s last : List Exchange),
        host.Plays s (.presented machine.frame :: transcript) last) ∧
    (∀ first middle second final ending, machine.Runs first middle .stopped →
      middle.Runs second final ending →
      ∃ whole, machine.Runs whole final ending ∧ Joins first second whole) ∧
    (∀ held, (machine.step held).outcome ≠ .ok .displayUpdated →
      (machine.step held).machine.state.screen = machine.state.screen) ∧
    ∀ key, (machine.resume key).1.state.screen = machine.state.screen := by
  refine ⟨?_, ?_, fun _ _ _ _ _ => Runs.join, fun _ => screen_step, screen_resume⟩
  · intro σ host s last final ending
    constructor
    · rintro ⟨returned, count, ran⟩
      obtain ⟨transcript, runs, plays⟩ := runs_of_turns host count ran returned
      exact ⟨transcript, runs, _, rfl, plays⟩
    · rintro ⟨transcript, runs, _, rfl, plays⟩
      exact ⟨runs.returned, turns_of_runs host runs plays⟩
  · intro transcript final ending runs
    obtain ⟨last, plays⟩ := @plays_ofScript _ _ _ _ runs [] (by simp)
    refine ⟨?_, Host.ofScript, transcript, last, transcript, rfl, plays⟩
    exact ⟨runs.reached, runs.ends, runs.shown, runs.current, runs.fails_iff, fun _ => runs.recorded⟩

end Machine

end SuperChip
