import SuperChip.Shutdown
import SuperChip.Proofs.Building
import SuperChip.Proofs.Keypad
import SuperChip.Proofs.Stepping

set_option autoImplicit false

namespace SuperChip.Shutdown

namespace Runner

/-- After a step a runner neither steps again without a look at the flag, nor parks. -/
theorem afterStep_cases (outcome : Except MachineError Outcome) :
    afterStep outcome = looking ∨ afterStep outcome = lookingAgain ∨
      afterStep outcome = finished := by
  cases outcome with
  | error error => exact .inr (.inr rfl)
  | ok outcome =>
    cases outcome with
    | proceeded => exact .inl rfl
    | displayUpdated => exact .inl rfl
    | awaitingKey => exact .inr (.inl rfl)
    | exited => exact .inr (.inr rfl)

theorem notified_ne_parked (runner : Runner) : runner.notified ≠ parked false := by
  cases runner <;> simp [notified]

theorem notified_eq_stepping (runner : Runner) :
    runner.notified = stepping ↔ runner = stepping := by
  cases runner <;> simp [notified]

/-- How many moves a runner may still make once everything is shut down. -/
def remaining : Runner → Nat
  | stepping | parked _ => 2
  | looking | lookingAgain | locking => 1
  | finished => 0

theorem remaining_le (runner : Runner) : runner.remaining ≤ 2 := by
  cases runner <;> simp [remaining]

end Runner

namespace World

/-- Whether a move ends a wait with a key. -/
def takesKey (world : World) (move : Move) : Bool :=
  move == .run && world.runner == .locking && world.keypad.wait.1 matches .key _

/-- How many moves of a history are of a kind, up to the first that cannot be made. -/
def count (kind : World → Move → Bool) (world : World) : List Move → Nat
  | [] => 0
  | move :: rest =>
    match world.move? move with
    | some next => (kind world move).toNat + count kind next rest
    | none => 0

variable {world next last : World} {later : List Move}

/-- What the runner's own move leaves alone, and what it needs to park or to step. -/
structure Ran (world next : World) : Prop where
  feeder : next.feeder = world.feeder
  stop : next.stop = world.stop
  closed : next.keypad.closed = world.keypad.closed
  parks : next.runner = .parked false → world.keypad.closed = false
  steps : next.runner = .stepping → world.stop = false

theorem ran_of_run (ran : world.run? = some next) : world.Ran next := by
  unfold run? at ran
  split at ran
  · cases ran
    refine ⟨rfl, rfl, rfl, ?_, ?_⟩
    all_goals cases world.stop <;> simp
  · cases ran
    refine ⟨rfl, rfl, rfl, ?_, ?_⟩
    all_goals
      intro standing
      rcases Runner.afterStep_cases (world.machine.step world.keypad.isDown).outcome with
        after | after | after
      all_goals cases after.symm.trans standing
  · cases ran
    refine ⟨rfl, rfl, rfl, ?_, ?_⟩
    all_goals cases world.stop <;> simp
  · have kept := world.keypad.closed_wait
    split at ran
    · rename_i wait
      cases ran
      rw [wait] at kept
      exact ⟨rfl, rfl, kept, nofun, nofun⟩
    · rename_i wait
      cases ran
      rw [wait] at kept
      exact ⟨rfl, rfl, kept, nofun, nofun⟩
    · rename_i wait
      cases ran
      rw [wait] at kept
      refine ⟨rfl, rfl, kept, ?_, nofun⟩
      -- On a closed keypad the wait would have ended.
      intro _
      cases closed : world.keypad.closed with
      | false => rfl
      | true =>
        rw [Keypad.wait_of_closed closed] at wait
        cases wait
  · cases ran
    exact ⟨rfl, rfl, rfl, nofun, nofun⟩
  · cases ran
  · cases ran

/-- What a move that can be made leads to. -/
inductive Moved (world : World) : Move → World → Prop where
  | run {next : World} (ran : world.run? = some next) : Moved world .run next
  | wakeUp {notified : Bool} (parked : world.runner = .parked notified) :
      Moved world .wakeUp { world with runner := .locking }
  | press (key : Key) (feeding : world.feeder = .feeding) :
      Moved world (.press key)
        { world with keypad := world.keypad.press key, runner := world.runner.notified }
  | release (key : Key) (feeding : world.feeder = .feeding) :
      Moved world (.release key) { world with keypad := world.keypad.release key }
  | raise (feeding : world.feeder = .feeding) :
      Moved world .raise { world with stop := true, feeder := .raised }
  | close (raised : world.feeder = .raised) :
      Moved world .close { world with keypad := world.keypad.close, feeder := .closed }
  | notify (closed : world.feeder = .closed) :
      Moved world .notify { world with runner := world.runner.notified, feeder := .finished }

theorem moved_of_move {move : Move} (moved : world.move? move = some next) :
    world.Moved move next := by
  cases move with
  | run => exact .run moved
  | wakeUp =>
    simp only [move?] at moved
    split at moved
    · rename_i notified parked
      cases moved
      exact .wakeUp parked
    · cases moved
  | press key =>
    obtain ⟨feeding, same⟩ := Option.ite_none_right_eq_some.mp moved
    cases same
    exact .press key feeding
  | release key =>
    obtain ⟨feeding, same⟩ := Option.ite_none_right_eq_some.mp moved
    cases same
    exact .release key feeding
  | raise =>
    obtain ⟨feeding, same⟩ := Option.ite_none_right_eq_some.mp moved
    cases same
    exact .raise feeding
  | close =>
    obtain ⟨raised, same⟩ := Option.ite_none_right_eq_some.mp moved
    cases same
    exact .close raised
  | notify =>
    obtain ⟨closed, same⟩ := Option.ite_none_right_eq_some.mp moved
    cases same
    exact .notify closed

/-- How many steps the runner has made up its mind to. -/
def underway (world : World) : Nat := (world.runner == .stepping).toNat

/-- What no move undoes: a flag that was raised, a keypad that was closed, and after the flag was
raised the number of steps still to come. -/
structure Onward (world : World) (move : Move) (next : World) : Prop where
  stop : world.stop = true → next.stop = true
  closed : world.keypad.closed = true → next.keypad.closed = true
  steps : world.stop = true → (world.beginsStep move).toNat + next.underway ≤ world.underway

theorem Moved.onward {move : Move} (moved : world.Moved move next) : world.Onward move next := by
  cases moved with
  | run moved =>
    have ran := ran_of_run moved
    refine ⟨ran.stop.trans, ran.closed.trans, ?_⟩
    intro raised
    have begun : (world.beginsStep .run).toNat = world.underway := rfl
    have idle : next.underway = 0 := by
      rw [underway, Bool.toNat_eq_zero, beq_eq_false_iff_ne]
      intro steps
      rw [ran.steps steps] at raised
      cases raised
    omega
  | wakeUp parked => exact ⟨id, id, fun _ => Nat.zero_le _⟩
  | press key feeding | notify closed =>
    refine ⟨id, id, ?_⟩
    intro _
    have kept : (world.runner.notified == .stepping) = (world.runner == .stepping) := by
      rw [Bool.eq_iff_iff, beq_iff_eq, beq_iff_eq]
      exact world.runner.notified_eq_stepping
    exact Nat.le_of_eq ((Nat.zero_add _).trans (congrArg Bool.toNat kept))
  | release key feeding => exact ⟨id, id, fun _ => Nat.le_of_eq (Nat.zero_add _)⟩
  | raise feeding => exact ⟨fun _ => rfl, id, fun _ => Nat.le_of_eq (Nat.zero_add _)⟩
  | close raised => exact ⟨id, fun _ => rfl, fun _ => Nat.le_of_eq (Nat.zero_add _)⟩

/-- How the flag, the keypad and a parked runner depend on where the feeder stands. -/
structure Orderly (world : World) : Prop where
  raised : world.stop = true ↔ world.feeder ≠ .feeding
  closed : world.keypad.closed = true ↔ world.feeder = .closed ∨ world.feeder = .finished
  notified : world.feeder = .finished → world.runner ≠ .parked false

theorem orderly_start (machine : Machine) : (start machine).Orderly where
  raised := iff_of_false Bool.false_ne_true (by simp [start])
  closed := iff_of_false Bool.false_ne_true (by simp [start])
  notified := nofun

theorem Orderly.moved (orderly : world.Orderly) {move : Move} (moved : world.Moved move next) :
    next.Orderly := by
  cases moved with
  | run moved =>
    have ran := ran_of_run moved
    refine ⟨?_, ?_, ?_⟩
    · rw [ran.stop, ran.feeder]
      exact orderly.raised
    · rw [ran.closed, ran.feeder]
      exact orderly.closed
    · -- A runner only parks on an open keypad, so the feeder has not come to the notification.
      intro quit parks
      have opened := ran.parks parks
      rw [ran.feeder] at quit
      rw [orderly.closed.mpr (.inr quit)] at opened
      cases opened
  | wakeUp parked => exact ⟨orderly.raised, orderly.closed, fun _ => (by nofun)⟩
  | press key feeding =>
    exact ⟨orderly.raised, orderly.closed, fun _ => world.runner.notified_ne_parked⟩
  | release key feeding => exact ⟨orderly.raised, orderly.closed, orderly.notified⟩
  | raise feeding =>
    refine ⟨iff_of_true rfl (by nofun), ?_, (by nofun)⟩
    have opened : ¬ world.keypad.closed = true := by
      rw [orderly.closed, feeding]
      simp
    exact iff_of_false opened (by simp)
  | close raised =>
    refine ⟨iff_of_true ?_ (by nofun), iff_of_true rfl (.inl rfl), (by nofun)⟩
    show world.stop = true
    rw [orderly.raised, raised]
    nofun
  | notify closed =>
    refine ⟨iff_of_true ?_ (by nofun), iff_of_true ?_ (.inr rfl), ?_⟩
    · show world.stop = true
      rw [orderly.raised, closed]
      nofun
    · exact orderly.closed.mpr (.inl closed)
    · exact fun _ => world.runner.notified_ne_parked

theorem Orderly.follow (orderly : world.Orderly) (followed : world.follow? later = some last) :
    last.Orderly := by
  induction later generalizing world with
  | nil =>
    cases followed
    exact orderly
  | cons move rest ih =>
    obtain ⟨next, moved, onward⟩ := Option.bind_eq_some_iff.mp followed
    exact ih (orderly.moved (moved_of_move moved)) onward

theorem count_beginsStep_le (raised : world.stop = true) :
    world.count beginsStep later ≤ world.underway := by
  -- A step that begins was underway, and a look at a raised flag puts no other underway.
  induction later generalizing world with
  | nil => exact Nat.zero_le _
  | cons move rest ih =>
    rw [count]
    split
    · rename_i next moved
      have onward := (moved_of_move moved).onward
      have rest_le := ih (onward.stop raised)
      have both_le := onward.steps raised
      omega
    · exact Nat.zero_le _

theorem takesKey_of_closed (closed : world.keypad.closed = true) (move : Move) :
    world.takesKey move = false := by
  rw [takesKey, Keypad.wait_of_closed closed]
  exact Bool.and_false _

theorem count_takesKey (closed : world.keypad.closed = true) :
    world.count takesKey later = 0 := by
  induction later generalizing world with
  | nil => rfl
  | cons move rest ih =>
    rw [count]
    split
    · rename_i next moved
      rw [takesKey_of_closed closed, ih ((moved_of_move moved).onward.closed closed)]
      rfl
    · rfl

theorem Orderly.remaining_run (orderly : world.Orderly) (quit : world.feeder = .finished)
    (ran : world.run? = some next) : next.runner.remaining < world.runner.remaining := by
  have raised : world.stop = true := by
    rw [orderly.raised, quit]
    nofun
  have closed : world.keypad.closed = true := orderly.closed.mpr (.inr quit)
  cases standing : world.runner with
  | looking | lookingAgain =>
    simp only [run?, standing, raised, if_true] at ran
    cases ran
    exact Nat.zero_lt_one
  | stepping =>
    simp only [run?, standing] at ran
    cases ran
    rcases Runner.afterStep_cases (world.machine.step world.keypad.isDown).outcome with
      after | after | after
    all_goals
      simp only [after]
      decide
  | locking =>
    simp only [run?, standing, Keypad.wait_of_closed closed] at ran
    cases ran
    exact Nat.zero_lt_one
  | parked notified =>
    cases notified with
    | true =>
      simp only [run?, standing] at ran
      cases ran
      exact Nat.one_lt_two
    | false => exact absurd standing (orderly.notified quit)
  | finished =>
    simp only [run?, standing] at ran
    cases ran

/-- Once the feeder has finished, every move is the runner's and brings it nearer to its end. -/
theorem Orderly.remaining_moved (orderly : world.Orderly) (quit : world.feeder = .finished)
    {move : Move} (moved : world.Moved move next) :
    next.feeder = .finished ∧ next.runner.remaining < world.runner.remaining := by
  cases moved with
  | run ran => exact ⟨(ran_of_run ran).feeder.trans quit, orderly.remaining_run quit ran⟩
  | wakeUp parked =>
    rw [parked]
    exact ⟨quit, Nat.one_lt_two⟩
  | press key standing | release key standing | raise standing | close standing | notify standing =>
    rw [quit] at standing
    cases standing

/-- Once the feeder has finished, a history is at most as long as the runner has moves left. -/
theorem Orderly.length_le (orderly : world.Orderly) (quit : world.feeder = .finished)
    (followed : world.follow? later = some last) :
    last.feeder = .finished ∧ later.length + last.runner.remaining ≤ world.runner.remaining := by
  induction later generalizing world with
  | nil =>
    cases followed
    exact ⟨quit, Nat.le_of_eq (Nat.zero_add _)⟩
  | cons move rest ih =>
    obtain ⟨next, moved, onward⟩ := Option.bind_eq_some_iff.mp followed
    have made := moved_of_move moved
    obtain ⟨still, nearer⟩ := orderly.remaining_moved quit made
    obtain ⟨ended, bound⟩ := ih (orderly.moved made) still onward
    rw [List.length_cons]
    exact ⟨ended, by omega⟩

/-- Once the feeder has finished, the runner can move until it has finished too. -/
theorem Orderly.moves_or_finished (orderly : world.Orderly) (quit : world.feeder = .finished) :
    world.runner = .finished ∨ ∃ next, world.move? .run = some next := by
  change _ ∨ ∃ next, world.run? = some next
  cases standing : world.runner with
  | looking | stepping | lookingAgain =>
    simp only [run?, standing]
    exact .inr ⟨_, rfl⟩
  | locking =>
    simp only [run?, standing, Keypad.wait_of_closed (orderly.closed.mpr (.inr quit))]
    exact .inr ⟨_, rfl⟩
  | parked notified =>
    cases notified with
    | true =>
      simp only [run?, standing]
      exact .inr ⟨_, rfl⟩
    | false => exact absurd standing (orderly.notified quit)
  | finished => exact .inl rfl

/-- A shutdown reaches the runner, whatever the machine and in whatever order the threads move. A
runner is not left parked when the feeder has finished, and then finishes within two moves of its own.
After the flag was raised the runner begins one more step at most, and after the keypad was closed no
wait is answered by a key. -/
theorem shutdown_reaches_runner (machine : Machine) (moves : List Move) (world : World)
    (followed : (start machine).follow? moves = some world) :
    (world.feeder = .finished → world.runner ≠ .parked false) ∧
    (world.stop = true → ∀ later, world.count beginsStep later ≤ 1) ∧
    (world.keypad.closed = true → ∀ later, world.count takesKey later = 0) ∧
    (world.feeder = .finished → ∀ later last, world.follow? later = some last →
      later.length ≤ 2 ∧ (last.runner = .finished ∨ ∃ next, last.move? .run = some next)) := by
  have orderly := (orderly_start machine).follow followed
  refine ⟨orderly.notified, ?_, ?_, ?_⟩
  · intro raised later
    have underway_le : world.underway ≤ 1 := Bool.toNat_le _
    exact Nat.le_trans (count_beginsStep_le raised) underway_le
  · intro closed later
    exact count_takesKey closed
  · intro quit later last onward
    obtain ⟨ended, bound⟩ := orderly.length_le quit onward
    have start_le := world.runner.remaining_le
    exact ⟨by omega, (orderly.follow onward).moves_or_finished ended⟩

/-- A runner that waits for a key when the quit comes is notified, and is done after two moves. -/
theorem shutdown_reaches_runner_awaiting : ∃ machine world,
    (start machine).follow? [.run, .run, .run, .run, .raise, .close, .notify] = some world ∧
      world.runner = .parked true ∧ world.feeder = .finished ∧
      ∀ later last, world.follow? later = some last → later.length ≤ 2 := by
  obtain ⟨machine, events, success⟩ :
      ∃ machine events, Machine.build { program := #[0xF3, 0x0A] } = .ok (machine, events) :=
    ⟨_, _, rfl⟩
  have asks : machine.instruction = .awaitKey 3 := by
    rw [Machine.instruction, Machine.word, Machine.word_of_build success]
    cases machine.state.mode <;> rfl
  have awaits : (machine.step Keypad.empty.isDown).outcome = .ok .awaitingKey := by
    rw [Machine.step_of_running _ (Machine.running_of_build success),
      Machine.runInstruction_outcome, asks]
    rfl
  have stepped : World.run? ⟨machine, .empty, false, .stepping, .feeding⟩ =
      some ⟨(machine.step Keypad.empty.isDown).machine, .empty, false, .lookingAgain, .feeding⟩ := by
    simp only [run?, awaits]
    rfl
  have reached : (start machine).follow? [.run, .run, .run, .run, .raise, .close, .notify] =
      some ⟨(machine.step Keypad.empty.isDown).machine, Keypad.empty.close, true, .parked true,
        .finished⟩ := by
    have looked : (start machine).follow? [.run, .run, .run, .run, .raise, .close, .notify] =
        (World.run? ⟨machine, .empty, false, .stepping, .feeding⟩).bind
          fun world => world.follow? [.run, .run, .raise, .close, .notify] := rfl
    rw [looked, stepped]
    rfl
  obtain ⟨-, -, -, ends⟩ := shutdown_reaches_runner machine _ _ reached
  exact ⟨machine, _, reached, rfl, rfl, fun later last onward => (ends rfl later last onward).1⟩

end World

end SuperChip.Shutdown
