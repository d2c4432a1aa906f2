import SuperChip.Run

set_option autoImplicit false

namespace SuperChip

/-- Something that passes between a run and its host. -/
inductive Exchange where
  /-- A look at the stop flag, and whether it was up. -/
  | looked (raised : Bool)
  /-- A step with the keys held, what came of it, and what the host was told. -/
  | stepped (held : Held) (outcome : Except MachineError Outcome) (events : List Event)
  /-- A wait for a key, and its answer. -/
  | waited (answer : Wait)
  | presented (frame : Frame)

namespace Host

variable {σ : Type} (host : Host σ)

/-- Whether an exchange takes a host from one state to another. -/
def Meets (s : σ) : Exchange → σ → Prop
  | .looked raised, next => host.stopping s = (raised, next)
  | .stepped held _ events, next => host.held s = held ∧ events.foldl host.notice s = next
  | .waited (.key key), next => host.wait s = (.key key, next)
  | .waited .closed, next =>
    ∃ waited, host.wait s = (.closed, waited) ∧ host.notice waited .keypadClosed = next
  | .waited .parked, _ => False
  | .presented frame, next => host.present s frame = next

/-- Whether exchanges one after the other take a host from one state to another. -/
def Plays : σ → List Exchange → σ → Prop
  | s, [], final => s = final
  | s, exchange :: rest, final => ∃ next, host.Meets s exchange next ∧ Plays next rest final

/-- The answer to the next look at the stop flag that a script has, and the script behind it. -/
def nextLook : List Exchange → Bool × List Exchange
  | [] => (true, [])
  | .looked raised :: rest => (raised, rest)
  | _ :: rest => nextLook rest

/-- A host that answers by a script. -/
def ofScript : Host (List Exchange) where
  held
    | .stepped held _ _ :: _ => held
    | _ => fun _ => false
  stopping := nextLook
  wait
    | .waited answer :: rest => (answer, rest)
    | _ => (.closed, [])
  notice script _ := script
  present script _ := script

theorem nextLook_append {skipped : List Exchange}
    (unasked : ∀ raised, Exchange.looked raised ∉ skipped) (raised : Bool) (rest : List Exchange) :
    nextLook (skipped ++ .looked raised :: rest) = (raised, rest) := by
  induction skipped with
  | nil => rfl
  | cons exchange skipped ih =>
    have later := ih fun raised listed => unasked raised (List.mem_cons_of_mem _ listed)
    cases exchange with
    | looked raised => exact absurd List.mem_cons_self (unasked raised)
    | stepped => exact later
    | waited => exact later
    | presented => exact later

theorem foldl_notice_ofScript (script : List Exchange) (events : List Event) :
    events.foldl ofScript.notice script = script := by
  induction events with
  | nil => rfl
  | cons event rest ih => exact ih

end Host

/-- Whether a run with this ending has returned. -/
def Ending.Returned : Ending → Prop
  | parked | unfinished => False
  | _ => True

namespace Machine

/-- What passes between a machine and its host when it steps. -/
def exchange (machine : Machine) (held : Held) : Exchange :=
  .stepped held (machine.step held).outcome (machine.step held).events

/-- The runs of a machine that return: the transcript of the run, the machine afterwards, and how
the run ended. -/
inductive Runs : Machine → List Exchange → Machine → Ending → Prop where
  | raised (machine : Machine) : Runs machine [.looked true] machine .stopped
  | failed {machine : Machine} {held : Held} {error : MachineError}
      (outcome : (machine.step held).outcome = .error error) :
      Runs machine [.looked false, machine.exchange held] (machine.step held).machine
        (.failed error)
  | exited {machine : Machine} {held : Held}
      (outcome : (machine.step held).outcome = .ok .exited) :
      Runs machine [.looked false, machine.exchange held] (machine.step held).machine .exited
  | raisedAwaiting {machine : Machine} {held : Held}
      (outcome : (machine.step held).outcome = .ok .awaitingKey) :
      Runs machine [.looked false, machine.exchange held, .looked true]
        (machine.step held).machine .stopped
  | closed {machine : Machine} {held : Held}
      (outcome : (machine.step held).outcome = .ok .awaitingKey) :
      Runs machine [.looked false, machine.exchange held, .looked false, .waited .closed]
        (machine.step held).machine .closed
  | proceeded {machine final : Machine} {held : Held} {rest : List Exchange} {ending : Ending}
      (outcome : (machine.step held).outcome = .ok .proceeded)
      (runs : Runs (machine.step held).machine rest final ending) :
      Runs machine (.looked false :: machine.exchange held :: rest) final ending
  | displayUpdated {machine final : Machine} {held : Held} {rest : List Exchange} {ending : Ending}
      (outcome : (machine.step held).outcome = .ok .displayUpdated)
      (runs : Runs (machine.step held).machine rest final ending) :
      Runs machine (.looked false :: machine.exchange held ::
        .presented (machine.step held).machine.frame :: rest) final ending
  | delivered {machine final : Machine} {held : Held} {rest : List Exchange} {ending : Ending}
      (outcome : (machine.step held).outcome = .ok .awaitingKey) (key : UInt8)
      (runs : Runs ((machine.step held).machine.resume key).1 rest final ending) :
      Runs machine (.looked false :: machine.exchange held :: .looked false ::
        .waited (.key key) :: rest) final ending

variable {σ : Type} (host : Host σ)

theorem runs_of_turns (count : Nat) {s last : σ} {machine final : Machine} {ending : Ending}
    (ran : machine.turns host count s = (last, final, ending)) (returned : ending.Returned) :
    ∃ transcript, machine.Runs transcript final ending ∧ host.Plays s transcript last := by
  induction count generalizing s machine with
  | zero =>
    cases ran
    exact returned.elim
  | succ count ih =>
    cases look : host.stopping s with
    | mk raised s₁ =>
    cases raised with
    | true =>
      simp only [turns, look, if_true] at ran
      cases ran
      exact ⟨_, .raised _, _, look, rfl⟩
    | false =>
      simp only [turns, look, Bool.false_eq_true, if_false] at ran
      cases outcome : (machine.step (host.held s₁)).outcome with
      | error error =>
        rw [outcome] at ran
        cases ran
        exact ⟨_, .failed outcome, _, look, _, ⟨rfl, rfl⟩, rfl⟩
      | ok effect =>
        rw [outcome] at ran
        cases effect with
        | proceeded =>
          obtain ⟨rest, runs, plays⟩ := ih ran
          exact ⟨_, .proceeded outcome runs, _, look, _, ⟨rfl, rfl⟩, plays⟩
        | displayUpdated =>
          obtain ⟨rest, runs, plays⟩ := ih ran
          exact ⟨_, .displayUpdated outcome runs, _, look, _, ⟨rfl, rfl⟩, _, rfl, plays⟩
        | exited =>
          cases ran
          exact ⟨_, .exited outcome, _, look, _, ⟨rfl, rfl⟩, rfl⟩
        | awaitingKey =>
          cases again : host.stopping ((machine.step (host.held s₁)).events.foldl host.notice s₁) with
          | mk raised s₂ =>
          cases raised with
          | true =>
            simp only [again, if_true] at ran
            cases ran
            exact ⟨_, .raisedAwaiting outcome, _, look, _, ⟨rfl, rfl⟩, _, again, rfl⟩
          | false =>
            simp only [again, Bool.false_eq_true, if_false, awaitKey] at ran
            cases wait : host.wait s₂ with
            | mk answer s₃ =>
            rw [wait] at ran
            cases answer with
            | key key =>
              obtain ⟨rest, runs, plays⟩ := ih ran
              exact ⟨_, .delivered outcome key runs, _, look, _, ⟨rfl, rfl⟩, _, again, _, wait,
                plays⟩
            | closed =>
              cases ran
              exact ⟨_, .closed outcome, _, look, _, ⟨rfl, rfl⟩, _, again, _, ⟨_, wait, rfl⟩, rfl⟩
            | parked =>
              cases ran
              exact returned.elim

theorem turns_of_runs {s last : σ} {machine final : Machine} {ending : Ending}
    {transcript : List Exchange} (runs : machine.Runs transcript final ending)
    (plays : host.Plays s transcript last) :
    ∃ count, machine.turns host count s = (last, final, ending) := by
  induction runs generalizing s with
  | raised machine =>
    obtain ⟨_, look, rfl⟩ := plays
    refine ⟨1, ?_⟩
    simp only [Host.Meets] at look
    simp only [turns, look, if_true]
  | failed outcome =>
    obtain ⟨_, look, _, ⟨rfl, rfl⟩, rfl⟩ := plays
    refine ⟨1, ?_⟩
    simp only [Host.Meets] at look
    simp only [turns, look, Bool.false_eq_true, if_false, outcome]
  | exited outcome =>
    obtain ⟨_, look, _, ⟨rfl, rfl⟩, rfl⟩ := plays
    refine ⟨1, ?_⟩
    simp only [Host.Meets] at look
    simp only [turns, look, Bool.false_eq_true, if_false, outcome]
  | raisedAwaiting outcome =>
    obtain ⟨_, look, _, ⟨rfl, rfl⟩, _, again, rfl⟩ := plays
    refine ⟨1, ?_⟩
    simp only [Host.Meets] at look again
    simp only [turns, look, Bool.false_eq_true, if_false, outcome, again, if_true]
  | closed outcome =>
    obtain ⟨_, look, _, ⟨rfl, rfl⟩, _, again, _, ⟨_, wait, rfl⟩, rfl⟩ := plays
    refine ⟨1, ?_⟩
    simp only [Host.Meets] at look again
    simp only [turns, look, Bool.false_eq_true, if_false, outcome, again, awaitKey, wait]
  | proceeded outcome runs ih =>
    obtain ⟨_, look, _, ⟨rfl, rfl⟩, plays⟩ := plays
    obtain ⟨count, ran⟩ := ih plays
    refine ⟨count + 1, ?_⟩
    simp only [Host.Meets] at look
    simp only [turns, look, Bool.false_eq_true, if_false, outcome, ran]
  | displayUpdated outcome runs ih =>
    obtain ⟨_, look, _, ⟨rfl, rfl⟩, _, rfl, plays⟩ := plays
    obtain ⟨count, ran⟩ := ih plays
    refine ⟨count + 1, ?_⟩
    simp only [Host.Meets] at look
    simp only [turns, look, Bool.false_eq_true, if_false, outcome, ran]
  | delivered outcome key runs ih =>
    obtain ⟨_, look, _, ⟨rfl, rfl⟩, _, again, _, wait, plays⟩ := plays
    obtain ⟨count, ran⟩ := ih plays
    refine ⟨count + 1, ?_⟩
    simp only [Host.Meets] at look again wait
    simp only [turns, look, Bool.false_eq_true, if_false, outcome, again, awaitKey, wait, ran]

/-- Every transcript of a machine is played by a host. At the start of a turn the script may still
show the step of the turn before and its picture. -/
theorem plays_ofScript {machine final : Machine} {ending : Ending} {transcript : List Exchange}
    (runs : machine.Runs transcript final ending) {skipped : List Exchange}
    (unasked : ∀ raised, Exchange.looked raised ∉ skipped) :
    ∃ last, Host.ofScript.Plays (skipped ++ transcript) transcript last := by
  induction runs generalizing skipped with
  | raised machine => exact ⟨_, _, Host.nextLook_append unasked _ _, rfl⟩
  | failed outcome =>
    exact ⟨_, _, Host.nextLook_append unasked _ _, _, ⟨rfl, Host.foldl_notice_ofScript _ _⟩, rfl⟩
  | exited outcome =>
    exact ⟨_, _, Host.nextLook_append unasked _ _, _, ⟨rfl, Host.foldl_notice_ofScript _ _⟩, rfl⟩
  | raisedAwaiting outcome =>
    exact ⟨_, _, Host.nextLook_append unasked _ _, _, ⟨rfl, Host.foldl_notice_ofScript _ _⟩, _, rfl,
      rfl⟩
  | closed outcome =>
    exact ⟨_, _, Host.nextLook_append unasked _ _, _, ⟨rfl, Host.foldl_notice_ofScript _ _⟩, _, rfl,
      _, ⟨_, rfl, rfl⟩, rfl⟩
  | @proceeded machine final held rest ending outcome runs ih =>
    obtain ⟨last, plays⟩ := @ih [machine.exchange held] (by simp [exchange])
    exact ⟨last, _, Host.nextLook_append unasked _ _, _, ⟨rfl, Host.foldl_notice_ofScript _ _⟩, plays⟩
  | @displayUpdated machine final held rest ending outcome runs ih =>
    obtain ⟨last, plays⟩ := @ih [machine.exchange held,
      .presented (machine.step held).machine.frame] (by simp [exchange])
    exact ⟨last, _, Host.nextLook_append unasked _ _, _, ⟨rfl, Host.foldl_notice_ofScript _ _⟩, _,
      rfl, plays⟩
  | delivered outcome key runs ih =>
    obtain ⟨last, plays⟩ := @ih [] (by simp)
    exact ⟨last, _, Host.nextLook_append unasked _ _, _, ⟨rfl, Host.foldl_notice_ofScript _ _⟩, _,
      rfl, _, rfl, plays⟩

end Machine

end SuperChip
