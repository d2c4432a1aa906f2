import SuperChip.Timers

set_option autoImplicit false

/-!
Timers shared by several workers. Both counters lie in one word, and the word is only ever changed
by an exchange that compares it with what was read before: a worker reads the word, works out what
it wants to store, and tries the exchange until it succeeds. An exchange fails if the word has
changed since, and may also fail for no reason; a failed one reads the word again. Which worker
moves next is anybody's choice, so a history is a list of moves.
-/

namespace SuperChip.Timers

/-- Both counters in one word, the delay in the low half. -/
def pack (timers : Timers) : UInt16 :=
  UInt16.ofNat (timers.sound.toNat * 256 + timers.delay.toNat)

/-- The counters in a word. -/
def unpack (word : UInt16) : Timers :=
  ⟨UInt8.ofNat (word.toNat % 256), UInt8.ofNat (word.toNat / 256)⟩

theorem unpack_pack (timers : Timers) : unpack (pack timers) = timers := by
  have delay := timers.delay.toNat_lt
  have sound := timers.sound.toNat_lt
  have value : (pack timers).toNat = timers.sound.toNat * 256 + timers.delay.toNat := by
    rw [pack, UInt16.toNat_ofNat']
    omega
  have low : (timers.sound.toNat * 256 + timers.delay.toNat) % 256 = timers.delay.toNat := by
    omega
  have high : (timers.sound.toNat * 256 + timers.delay.toNat) / 256 = timers.sound.toNat := by
    omega
  rw [unpack, value, low, high, UInt8.ofNat_toNat, UInt8.ofNat_toNat]

/-- Something a worker asks of the timers. -/
inductive Operation where
  /-- Changes the pair by any function of it. -/
  | update (change : Timers → Timers)
  | store (timers : Timers)
  | setDelay (value : UInt8)
  | setSound (value : UInt8)
  | tick

/-- What an operation gives back. -/
inductive Answer where
  /-- The pair before and after the change. -/
  | pairs (before after : Timers)
  | done
  | beep (expired : Bool)
  deriving DecidableEq, Repr

namespace Operation

/-- The pair that an operation stores, from the pair that it found. -/
def change : Operation → Timers → Timers
  | update change, timers => change timers
  | store stored, _ => stored
  | setDelay value, timers => timers.setDelay value
  | setSound value, timers => timers.setSound value
  | tick, timers => timers.decremented

/-- The answer of an operation, from the pairs before and after it. -/
def answer : Operation → Timers → Timers → Answer
  | update _, before, after => .pairs before after
  | tick, before, after => .beep (before.sound == 1 && after.sound == 0)
  | _, _, _ => .done

def isTick : Operation → Bool
  | tick => true
  | _ => false

end Operation

/-- A worker: the operations that it still has to complete, what it last read for the first of them,
and the answers that it has got, oldest first. -/
structure Worker where
  operations : List Operation
  seen : Option UInt16
  answers : List Answer

/-- An operation that was completed, by which worker, and the pair before and after it. -/
structure Commit where
  worker : Nat
  operation : Operation
  before : Timers
  after : Timers

/-- The answer that the worker got. -/
def Commit.answer (commit : Commit) : Answer := commit.operation.answer commit.before commit.after

/-- The shared word, the workers, and the operations completed so far, oldest first. -/
structure Shared where
  word : UInt16
  workers : List Worker
  commits : List Commit

/-- A move of a worker. -/
inductive Move where
  | load (worker : Nat)
  /-- Tries the exchange, which succeeds if the word is still the one that was read. -/
  | exchange (worker : Nat)
  /-- Tries the exchange, which fails for no reason. -/
  | fail (worker : Nat)
  deriving DecidableEq, Repr

namespace Shared

/-- The start: a pair of counters, and workers that have read nothing yet. -/
def start (timers : Timers) (tasks : List (List Operation)) : Shared :=
  ⟨timers.pack, tasks.map fun operations => ⟨operations, none, []⟩, []⟩

def timers (shared : Shared) : Timers := unpack shared.word

def setWorker (shared : Shared) (number : Nat) (worker : Worker) : Shared :=
  { shared with workers := shared.workers.set number worker }

/-- A worker reads the word and has its operations still to complete. -/
def read (shared : Shared) (number : Nat) (worker : Worker) : Shared :=
  shared.setWorker number { worker with seen := some shared.word }

/-- A worker completes its first operation on the pair that it found, and has the `rest` to do. -/
def commit (shared : Shared) (number : Nat) (worker : Worker) (operation : Operation)
    (rest : List Operation) (before : Timers) : Shared :=
  let commit : Commit := ⟨number, operation, before, operation.change before⟩
  { shared.setWorker number ⟨rest, none, worker.answers ++ [commit.answer]⟩ with
    word := commit.after.pack
    commits := shared.commits ++ [commit] }

/-- What a move leads to, if the worker can make it. -/
def move? (shared : Shared) : Move → Option Shared
  | .load number =>
    match shared.workers[number]? with
    | some ⟨operation :: rest, none, answers⟩ =>
      some (shared.read number ⟨operation :: rest, none, answers⟩)
    | _ => none
  | .exchange number =>
    match shared.workers[number]? with
    | some ⟨operation :: rest, some seen, answers⟩ =>
      let worker : Worker := ⟨operation :: rest, some seen, answers⟩
      if seen = shared.word then some (shared.commit number worker operation rest (unpack seen))
      else some (shared.read number worker)
    | _ => none
  | .fail number =>
    match shared.workers[number]? with
    | some ⟨operation :: rest, some seen, answers⟩ =>
      some (shared.read number ⟨operation :: rest, some seen, answers⟩)
    | _ => none

/-- What a history leads to, if every move of it can be made. -/
def follow? (shared : Shared) (moves : List Move) : Option Shared :=
  moves.foldlM move? shared

end Shared

end SuperChip.Timers
