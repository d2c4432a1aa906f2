import SuperChip.Timers.Sharing

set_option autoImplicit false

namespace SuperChip.Timers

/-- Whether each operation found the pair that the one before it left, from `first` on to `last`. -/
def Chained : Timers → List Commit → Timers → Prop
  | first, [], last => first = last
  | first, commit :: rest, last => commit.before = first ∧ Chained commit.after rest last

theorem Chained.concat {first middle : Timers} {commits : List Commit}
    (chained : Chained first commits middle) (commit : Commit) (found : commit.before = middle) :
    Chained first (commits ++ [commit]) commit.after := by
  induction commits generalizing first with
  | nil => exact ⟨found.trans chained.symm, rfl⟩
  | cons earlier rest ih => exact ⟨chained.1, ih chained.2⟩

/-- A chain of changes leaves what the changes make of the first pair, one after the other. -/
theorem Chained.foldl_change {first last : Timers} {commits : List Commit}
    (chained : Chained first commits last)
    (applied : ∀ commit ∈ commits, commit.after = commit.operation.change commit.before) :
    commits.foldl (fun timers commit => commit.operation.change timers) first = last := by
  induction commits generalizing first with
  | nil => exact chained
  | cons commit rest ih =>
    rw [List.forall_mem_cons] at applied
    obtain ⟨found, later⟩ := chained
    rw [applied.1, found] at later
    exact ih later applied.2

namespace Operation

/-- What an operation is to store where it found a pair, and what it is to answer. -/
inductive Stores : Operation → Timers → Timers → Answer → Prop where
  | update (change : Timers → Timers) (before : Timers) :
      Stores (.update change) before (change before) (.pairs before (change before))
  | store (stored before : Timers) : Stores (.store stored) before stored .done
  | setDelay (value : UInt8) (before : Timers) :
      Stores (.setDelay value) before ⟨value, before.sound⟩ .done
  | setSound (value : UInt8) (before : Timers) :
      Stores (.setSound value) before ⟨before.delay, value⟩ .done
  | tick {before after : Timers} (delay : after.delay.toNat = before.delay.toNat - 1)
      (sound : after.sound.toNat = before.sound.toNat - 1) :
      Stores .tick before after (.beep (before.sound.toNat == 1))

theorem beep_decremented (timers : Timers) :
    (timers.sound == 1 && timers.decremented.sound == 0) = (timers.sound.toNat == 1) := by
  have beeps := timers.tick_beeps_iff
  rw [← UInt8.toNat_inj, UInt8.toNat_one] at beeps
  rw [Bool.eq_iff_iff, beq_iff_eq]
  exact beeps

/-- What the exchange stores and the worker is answered is what was asked for. -/
theorem stores_change (operation : Operation) (before : Timers) :
    operation.Stores before (operation.change before)
      (operation.answer before (operation.change before)) := by
  cases operation with
  | update change => exact .update change before
  | store stored => exact .store stored before
  | setDelay value => exact .setDelay value before
  | setSound value => exact .setSound value before
  | tick =>
    rw [answer, change, beep_decremented]
    exact .tick (toNat_lower before.delay) (toNat_lower before.sound)

end Operation

namespace Commit

/-- Whether a tick took the sound counter from one to zero. -/
def silences (commit : Commit) : Bool :=
  commit.operation.isTick && commit.before.sound == 1 && commit.after.sound == 0

/-- Exactly such a tick is answered by a beep. -/
theorem answer_eq_beep_iff (commit : Commit) :
    commit.answer = .beep true ↔ commit.silences = true := by
  unfold answer silences
  cases commit.operation <;> simp [Operation.answer, Operation.isTick]

end Commit

namespace Shared

/-- The operations completed for one worker, oldest first. -/
def commitsOf (shared : Shared) (number : Nat) : List Commit :=
  shared.commits.filter fun commit => commit.worker == number

/-- How many ticks were answered by a beep, whichever worker asked for them. -/
def beeps (shared : Shared) : Nat :=
  (shared.workers.flatMap Worker.answers).count (.beep true)

variable {shared next : Shared}

/-- A move reads the word and leaves all else as it is, or completes an operation on the pair that is
there. -/
theorem move?_cases {move : Move} (moves : shared.move? move = some next) :
    (∃ number worker, shared.workers[number]? = some worker ∧ next = shared.read number worker) ∨
    ∃ number worker operation rest, shared.workers[number]? = some worker ∧
      worker.operations = operation :: rest ∧
      next = shared.commit number worker operation rest shared.timers := by
  cases move with
  | load number =>
    simp only [move?] at moves
    split at moves
    · rename_i found
      cases moves
      exact .inl ⟨number, _, found, rfl⟩
    · cases moves
  | exchange number =>
    simp only [move?] at moves
    split at moves
    · rename_i found
      split at moves
      · rename_i current
        cases moves
        rw [current] at found ⊢
        exact .inr ⟨number, _, _, _, found, rfl, rfl⟩
      · cases moves
        exact .inl ⟨number, _, found, rfl⟩
    · cases moves
  | fail number =>
    simp only [move?] at moves
    split at moves
    · rename_i found
      cases moves
      exact .inl ⟨number, _, found, rfl⟩
    · cases moves

theorem timers_commit (number : Nat) (worker : Worker) (operation : Operation)
    (rest : List Operation) (before : Timers) :
    (shared.commit number worker operation rest before).timers = operation.change before :=
  unpack_pack _

theorem commitsOf_commit (number other : Nat) (worker : Worker) (operation : Operation)
    (rest : List Operation) (before : Timers) :
    (shared.commit number worker operation rest before).commitsOf other =
      if number = other then
        shared.commitsOf other ++ [⟨number, operation, before, operation.change before⟩]
      else shared.commitsOf other := by
  by_cases same : number = other <;> simp [commitsOf, commit, List.filter_append, same]

/-- Replacing a worker exchanges its share of the beeps. -/
theorem beeps_setWorker {number : Nat} {worker : Worker}
    (found : shared.workers[number]? = some worker) (replaced : Worker) :
    (shared.setWorker number replaced).beeps + worker.answers.count (.beep true) =
      shared.beeps + replaced.answers.count (.beep true) := by
  obtain ⟨inside, here⟩ := List.getElem?_eq_some_iff.mp found
  have parts (other : Worker) : (shared.setWorker number other).beeps =
      ((shared.workers.take number).flatMap Worker.answers).count (.beep true) +
      (other.answers.count (.beep true) +
        ((shared.workers.drop (number + 1)).flatMap Worker.answers).count (.beep true)) := by
    simp only [beeps, setWorker, List.set_eq_take_append_cons_drop, if_pos inside,
      List.flatMap_append, List.flatMap_cons, List.count_append]
  have before := parts worker
  rw [setWorker, ← here, List.set_getElem_self, here] at before
  change shared.beeps = _ at before
  rw [parts replaced, before]
  omega

/-- What a history leaves in the books: the operations that were completed, and what the workers know
of them. -/
structure Accounts (timers : Timers) (tasks : List (List Operation)) (shared : Shared) : Prop where
  /-- The first operation found the pair at the start, each later one the pair that the one before it
  left, and the last one left the pair that is there now. -/
  chained : Chained timers shared.commits shared.timers
  applied : ∀ commit ∈ shared.commits, commit.after = commit.operation.change commit.before
  workers : shared.workers.length = tasks.length
  known : ∀ commit ∈ shared.commits, commit.worker < tasks.length
  /-- What a worker was to do is what was completed for it, in order, and then what it still has to
  do; and its answers are those of what was completed. -/
  completed : ∀ number worker, shared.workers[number]? = some worker →
    tasks[number]? = some ((shared.commitsOf number).map Commit.operation ++ worker.operations) ∧
    worker.answers = (shared.commitsOf number).map Commit.answer
  beeps : shared.beeps = shared.commits.countP Commit.silences

variable {timers : Timers} {tasks : List (List Operation)}

theorem accounts_start (timers : Timers) (tasks : List (List Operation)) :
    (start timers tasks).Accounts timers tasks where
  chained := (unpack_pack timers).symm
  applied := List.forall_mem_nil _
  workers := List.length_map _
  known := List.forall_mem_nil _
  completed := by
    intro number worker found
    simp only [start, List.getElem?_map, Option.map_eq_some_iff] at found
    obtain ⟨operations, listed, rfl⟩ := found
    exact ⟨listed, rfl⟩
  beeps := by
    have silent : (tasks.flatMap fun _ => ([] : List Answer)) = [] :=
      List.flatMap_eq_nil_iff.mpr fun _ _ => rfl
    rw [Shared.beeps, start, List.flatMap_map, silent]
    rfl

/-- Reading the word is no news to anybody else. -/
theorem Accounts.read (accounts : shared.Accounts timers tasks) {number : Nat} {worker : Worker}
    (found : shared.workers[number]? = some worker) :
    (shared.read number worker).Accounts timers tasks where
  chained := accounts.chained
  applied := accounts.applied
  workers := (List.length_set ..).trans accounts.workers
  known := accounts.known
  completed := by
    intro other later listed
    have inside := (List.getElem?_eq_some_iff.mp found).1
    by_cases same : number = other
    · subst same
      simp only [Shared.read, setWorker, List.getElem?_set_self inside, Option.some.injEq] at listed
      subst listed
      exact accounts.completed number worker found
    · simp only [Shared.read, setWorker, List.getElem?_set_ne same] at listed
      exact accounts.completed other later listed
  beeps := by
    have shares := beeps_setWorker found { worker with seen := some shared.word }
    exact (Nat.add_right_cancel shares).trans accounts.beeps

/-- An operation that is completed is entered behind the others, with its worker's answer. -/
theorem Accounts.commit (accounts : shared.Accounts timers tasks) {number : Nat} {worker : Worker}
    {operation : Operation} {rest : List Operation}
    (found : shared.workers[number]? = some worker)
    (first : worker.operations = operation :: rest) :
    (shared.commit number worker operation rest shared.timers).Accounts timers tasks where
  chained := by
    rw [timers_commit]
    exact accounts.chained.concat ⟨number, operation, shared.timers, _⟩ rfl
  applied := by
    intro commit listed
    rcases List.mem_append.mp listed with earlier | last
    · exact accounts.applied commit earlier
    · rw [List.mem_singleton.mp last]
  workers := (List.length_set ..).trans accounts.workers
  known := by
    intro commit listed
    rcases List.mem_append.mp listed with earlier | last
    · exact accounts.known commit earlier
    · rw [List.mem_singleton.mp last, ← accounts.workers]
      exact (List.getElem?_eq_some_iff.mp found).1
  completed := by
    intro other later listed
    have inside := (List.getElem?_eq_some_iff.mp found).1
    rw [commitsOf_commit]
    by_cases same : number = other
    · subst same
      simp only [Shared.commit, setWorker, List.getElem?_set_self inside,
        Option.some.injEq] at listed
      subst listed
      obtain ⟨asked, answered⟩ := accounts.completed number worker found
      rw [if_pos rfl, List.map_append, List.map_append, answered, asked, first]
      simp
    · simp only [Shared.commit, setWorker, List.getElem?_set_ne same] at listed
      rw [if_neg same]
      exact accounts.completed other later listed
  beeps := by
    let commit : Commit := ⟨number, operation, shared.timers, operation.change shared.timers⟩
    let replaced : Worker := ⟨rest, none, worker.answers ++ [commit.answer]⟩
    have shares : (shared.setWorker number replaced).beeps + worker.answers.count (.beep true) =
        shared.beeps + replaced.answers.count (.beep true) := beeps_setWorker found replaced
    have share : replaced.answers.count (.beep true) =
        worker.answers.count (.beep true) + if commit.silences then 1 else 0 := by
      rw [List.count_append, List.count_singleton]
      simp only [beq_iff_eq, commit.answer_eq_beep_iff]
    change (shared.setWorker number replaced).beeps =
      (shared.commits ++ [commit]).countP Commit.silences
    rw [List.countP_append, List.countP_singleton, ← accounts.beeps]
    omega

theorem Accounts.follow (accounts : shared.Accounts timers tasks) {moves : List Move}
    (followed : shared.follow? moves = some next) : next.Accounts timers tasks := by
  induction moves generalizing shared with
  | nil =>
    cases followed
    exact accounts
  | cons move rest ih =>
    obtain ⟨middle, moved, later⟩ := Option.bind_eq_some_iff.mp followed
    refine ih ?_ later
    rcases move?_cases moved with ⟨number, worker, found, rfl⟩ |
      ⟨number, worker, operation, left, found, first, rfl⟩
    · exact accounts.read found
    · exact accounts.commit found first

/-- An exchange right after the word was read succeeds. -/
theorem exchange_read {number : Nat} {worker : Worker} {operation : Operation}
    {rest : List Operation} (found : shared.workers[number]? = some worker)
    (first : worker.operations = operation :: rest) :
    (shared.read number worker).move? (.exchange number) =
      some ((shared.read number worker).commit number { worker with seen := some shared.word }
        operation rest shared.timers) := by
  obtain ⟨operations, seen, answers⟩ := worker
  subst first
  have inside := (List.getElem?_eq_some_iff.mp found).1
  have here : (shared.read number ⟨operation :: rest, seen, answers⟩).workers[number]? =
      some ⟨operation :: rest, some shared.word, answers⟩ := List.getElem?_set_self inside
  have same : (shared.read number ⟨operation :: rest, seen, answers⟩).word = shared.word := rfl
  simp only [move?, here, same, if_true]
  rfl

/-- A worker that nobody disturbs completes its next operation: it reads the word, for the first time
or after an exchange that failed, and exchanges it. -/
theorem exists_commit {number : Nat} {worker : Worker} {operation : Operation}
    {rest : List Operation} (found : shared.workers[number]? = some worker)
    (first : worker.operations = operation :: rest) :
    ∃ moves later, shared.follow? moves = some later ∧
      later.commits = shared.commits ++
        [⟨number, operation, shared.timers, operation.change shared.timers⟩] := by
  have reads : ∃ move, shared.move? move = some (shared.read number worker) := by
    obtain ⟨operations, seen, answers⟩ := worker
    subst first
    cases seen with
    | none =>
      refine ⟨.load number, ?_⟩
      simp only [move?, found]
    | some word =>
      refine ⟨.fail number, ?_⟩
      simp only [move?, found]
  obtain ⟨move, read⟩ := reads
  refine ⟨[move, .exchange number], (shared.read number worker).commit number
    { worker with seen := some shared.word } operation rest shared.timers, ?_, rfl⟩
  rw [follow?, List.foldlM_cons, read, Option.bind_eq_bind, Option.bind_some, List.foldlM_cons,
    exchange_read found first]
  rfl

/-- No update of shared timers is lost or torn. However the workers take turns, and however often an
exchange fails, the operations are completed one after the other, each on the pair that the one
before it left, and once for each time a worker asked for it; each stores what it is meant to store
there, and its worker is answered with that. The pair is what all of them together make of the first
one, a write to one counter leaves the other as it was found, and as many ticks beep as took the sound
counter from one to zero. A worker that nobody disturbs completes its next operation. -/
theorem no_update_lost (timers : Timers) (tasks : List (List Operation)) (moves : List Move)
    (shared : Shared) (followed : (start timers tasks).follow? moves = some shared) :
    shared.Accounts timers tasks ∧
    shared.commits.foldl (fun timers commit => commit.operation.change timers) timers =
      shared.timers ∧
    (∀ commit ∈ shared.commits,
      commit.operation.Stores commit.before commit.after commit.answer) ∧
    (∀ commit ∈ shared.commits, ∀ value,
      (commit.operation = .setDelay value → commit.after = ⟨value, commit.before.sound⟩) ∧
      (commit.operation = .setSound value → commit.after = ⟨commit.before.delay, value⟩)) ∧
    ∀ number worker operation rest, shared.workers[number]? = some worker →
      worker.operations = operation :: rest →
      ∃ moves later, shared.follow? moves = some later ∧
        later.commits = shared.commits ++
          [⟨number, operation, shared.timers, operation.change shared.timers⟩] := by
  have accounts := (accounts_start timers tasks).follow followed
  refine ⟨accounts, accounts.chained.foldl_change accounts.applied, ?_, ?_, ?_⟩
  · intro commit listed
    rw [Commit.answer, accounts.applied commit listed]
    exact commit.operation.stores_change commit.before
  · intro commit listed value
    have applied := accounts.applied commit listed
    constructor
    · intro delays
      rw [applied, delays]
      rfl
    · intro sounds
      rw [applied, sounds]
      rfl
  · intro number worker operation rest found first
    exact exists_commit found first

/-- A tick that read the pair too early, and whose second exchange fails for no reason, still counts
down the delay that was set and raised in between. -/
theorem no_update_lost_retried :
    ∃ shared, (start ⟨3, 1⟩ [[.tick], [.setDelay 5, .update (·.add 1 0)]]).follow?
        [.load 0, .load 1, .exchange 1, .load 1, .exchange 1, .exchange 0, .fail 0, .exchange 0] =
          some shared ∧
      shared.timers = ⟨5, 0⟩ ∧ shared.beeps = 1 ∧
      shared.workers.map Worker.answers = [[.beep true], [.done, .pairs ⟨5, 1⟩ ⟨6, 1⟩]] ∧
      shared.Accounts ⟨3, 1⟩ [[.tick], [.setDelay 5, .update (·.add 1 0)]] ∧
      ∀ commit ∈ shared.commits,
        commit.operation.Stores commit.before commit.after commit.answer := by
  refine ⟨_, rfl, rfl, rfl, rfl, ?_⟩
  obtain ⟨accounts, _, stores, _⟩ := no_update_lost ⟨3, 1⟩
    [[.tick], [.setDelay 5, .update (·.add 1 0)]]
    [.load 0, .load 1, .exchange 1, .load 1, .exchange 1, .exchange 0, .fail 0, .exchange 0] _ rfl
  exact ⟨accounts, stores⟩

end Shared

end SuperChip.Timers
