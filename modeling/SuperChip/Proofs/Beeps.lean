import Mathlib.Data.List.Induction
import SuperChip.Timers.Sharing

set_option autoImplicit false

namespace SuperChip.Timers

/-- Something that is asked of timers other than to change them by a function. -/
inductive Call where
  | store (timers : Timers)
  | setDelay (value : UInt8)
  | setSound (value : UInt8)
  | tick
  deriving DecidableEq, Repr

namespace Call

/-- The operation that a call is. -/
def operation : Call → Operation
  | store timers => .store timers
  | setDelay value => .setDelay value
  | setSound value => .setSound value
  | tick => .tick

/-- The delay that a call writes, if it writes one. -/
def delay? : Call → Option UInt8
  | store timers => some timers.delay
  | setDelay value => some value
  | setSound _ | tick => none

/-- The sound that a call writes, if it writes one. -/
def sound? : Call → Option UInt8
  | store timers => some timers.sound
  | setSound value => some value
  | setDelay _ | tick => none

/-- What is left of a call when it no longer writes the delay. -/
def undelayed : Call → Option Call
  | store timers => some (setSound timers.sound)
  | setDelay _ => none
  | setSound value => some (setSound value)
  | tick => some tick

end Call

/-- The pair after a call. -/
def perform (timers : Timers) (call : Call) : Timers := call.operation.change timers

/-- Whether a tick beeps; no other call can. -/
def answer? (timers : Timers) (call : Call) : Option Bool :=
  match call.operation.answer timers (timers.perform call) with
  | .beep expired => some expired
  | .pairs _ _ | .done => none

def performAll (timers : Timers) (history : List Call) : Timers := history.foldl perform timers

theorem performAll_concat (timers : Timers) (history : List Call) (call : Call) :
    timers.performAll (history ++ [call]) = (timers.performAll history).perform call :=
  List.foldl_append ..

/-- The word in which both counters lie, after the calls of a history, one at a time. -/
def packedAfter (word : UInt16) (history : List Call) : UInt16 :=
  history.foldl (fun word call => (call.operation.change (unpack word)).pack) word

/-- The counters in the word are the pair. -/
theorem unpack_packedAfter (timers : Timers) (history : List Call) :
    unpack (packedAfter timers.pack history) = timers.performAll history := by
  induction history generalizing timers with
  | nil => exact unpack_pack timers
  | cons call rest ih =>
    rw [packedAfter, List.foldl_cons, unpack_pack]
    exact ih (timers.perform call)

/-- Whether each of the ticks of a history beeps, in their order. -/
def answers (timers : Timers) : List Call → List Bool
  | [] => []
  | call :: rest => (timers.answer? call).toList ++ answers (timers.perform call) rest

/-- How many ticks of a history beep. -/
def beeps (timers : Timers) (history : List Call) : Nat := (timers.answers history).count true

/-- One of the two counters: how it is read, what calls write to it, and that it changes by nothing but
these writes and the ticks. -/
structure Counter where
  read : Timers → UInt8
  writes? : Call → Option UInt8
  writes?_tick : writes? .tick = none
  read_perform : ∀ (timers : Timers) (call : Call), read (timers.perform call) =
    (writes? call).getD (if call = .tick then lower (read timers) else read timers)

namespace Counter

def delay : Counter where
  read := Timers.delay
  writes? := Call.delay?
  writes?_tick := rfl
  read_perform timers call := by cases call <;> rfl

def sound : Counter where
  read := Timers.sound
  writes? := Call.sound?
  writes?_tick := rfl
  read_perform timers call := by cases call <;> rfl

variable (counter : Counter)

/-- The value last written to a counter, where the one that it starts from counts as written. -/
def written (first : Timers) (history : List Call) : UInt8 :=
  (history.filterMap counter.writes?).getLast?.getD (counter.read first)

/-- How many ticks there were since a counter was last written to, or since the start. -/
def ticksSince (history : List Call) : Nat :=
  (history.reverse.takeWhile fun call => (counter.writes? call).isNone).count .tick

variable {counter} {call : Call}

theorem written_concat (first : Timers) (history : List Call) :
    counter.written first (history ++ [call]) =
      (counter.writes? call).getD (counter.written first history) := by
  unfold written
  rw [List.filterMap_append, List.getLast?_append]
  cases written : counter.writes? call with
  | none => simp [written]
  | some value => simp [written]

theorem ticksSince_concat_of_some (history : List Call) {value : UInt8}
    (written : counter.writes? call = some value) :
    counter.ticksSince (history ++ [call]) = 0 := by
  simp [ticksSince, written]

theorem ticksSince_concat_of_none (history : List Call) (silent : counter.writes? call = none) :
    counter.ticksSince (history ++ [call]) =
      counter.ticksSince history + if call = .tick then 1 else 0 := by
  simp [ticksSince, silent, List.count_cons]

/-- A counter stands at what was last written to it, less the ticks since. -/
theorem toNat_read_performAll (counter : Counter) (first : Timers) (history : List Call) :
    (counter.read (first.performAll history)).toNat =
      (counter.written first history).toNat - counter.ticksSince history := by
  induction history using List.reverseRecOn with
  | nil => rfl
  | append_singleton history call ih =>
    rw [performAll_concat, counter.read_perform, written_concat]
    cases written : counter.writes? call with
    | some value =>
      rw [ticksSince_concat_of_some history written]
      rfl
    | none =>
      rw [ticksSince_concat_of_none history written, Option.getD_none, Option.getD_none]
      split
      · rw [toNat_lower, ih]
        omega
      · exact ih

end Counter

/-- A tick beeps if it is the one that takes the sound that was last written to zero. -/
theorem tick_beeps_iff_last (first : Timers) (history : List Call) :
    (first.performAll history).tick.2 = true ↔
      1 ≤ (Counter.sound.written first history).toNat ∧
      Counter.sound.ticksSince history + 1 = (Counter.sound.written first history).toNat := by
  have stands : (first.performAll history).sound.toNat = _ :=
    Counter.sound.toNat_read_performAll first history
  rw [tick_beeps_iff, ← UInt8.toNat_inj, stands]
  change _ = 1 ↔ _
  omega

/-- How many ticks there are in a history before the sound is written again. -/
def ticksToWrite (history : List Call) : Nat :=
  (history.takeWhile fun call => call.sound?.isNone).count .tick

/-- Whether a call writes a sound that has run out before the sound is written again. -/
def runsOut (call : Call) (later : List Call) : Bool :=
  call.sound?.any fun value => 1 ≤ value.toNat ∧ value.toNat ≤ ticksToWrite later

/-- How many sounds of a history run out. -/
def soundsOut : List Call → Nat
  | [] => 0
  | call :: later => (if runsOut call later then 1 else 0) + soundsOut later

variable (first : Timers)

theorem soundsOut_congr {call other : Call} (same : call.sound? = other.sound?)
    (later : List Call) : soundsOut (call :: later) = soundsOut (other :: later) := by
  have both : runsOut call later = runsOut other later := by rw [runsOut, runsOut, same]
  rw [soundsOut, soundsOut, both]

/-- A sound that is written over at once does not run out. -/
theorem soundsOut_store_of_written {call : Call} {value : UInt8}
    (written : call.sound? = some value) (later : List Call) :
    soundsOut (.store first :: call :: later) = soundsOut (call :: later) := by
  have unticked : ticksToWrite (call :: later) = 0 := by simp [ticksToWrite, written]
  have stays : runsOut (.store first) (call :: later) = false := by
    simp only [runsOut, Call.sound?, Option.any_some, unticked, decide_eq_false_iff_not]
    omega
  rw [soundsOut, stays, if_neg Bool.false_ne_true, Nat.zero_add]

/-- A call that neither writes the sound nor ticks makes no difference to the sounds. -/
theorem soundsOut_store_of_silent {call : Call} (silent : call.sound? = none)
    (quiet : call ≠ .tick) (later : List Call) :
    soundsOut (.store first :: call :: later) = soundsOut (.store first :: later) := by
  have ticks : ticksToWrite (call :: later) = ticksToWrite later := by
    simp [ticksToWrite, silent, quiet]
  simp [soundsOut, runsOut, ticks, silent]

/-- A sound runs out in the next tick or, one tick shorter, in the ticks behind it. -/
theorem soundsOut_store_tick (later : List Call) :
    soundsOut (.store first :: .tick :: later) =
      (if first.tick.2 then 1 else 0) + soundsOut (.store first.tick.1 :: later) := by
  have ticks : ticksToWrite (.tick :: later) = ticksToWrite later + 1 := by
    simp [ticksToWrite, Call.sound?]
  have lowered : first.tick.1.sound.toNat = first.sound.toNat - 1 := toNat_lower first.sound
  have beep : first.tick.2 = true ↔ first.sound.toNat = 1 := by
    rw [tick_beeps_iff, ← UInt8.toNat_inj]
    rfl
  simp only [soundsOut, runsOut, Call.sound?, Option.any_some, Option.any_none, decide_eq_true_eq,
    ticks, lowered, beep, Bool.false_eq_true, if_false]
  split <;> split <;> split <;> omega

theorem beeps_cons_tick (rest : List Call) :
    first.beeps (.tick :: rest) = (if first.tick.2 then 1 else 0) + first.tick.1.beeps rest := by
  change (first.tick.2 :: first.tick.1.answers rest).count true = _
  rw [List.count_cons, Nat.add_comm]
  simp only [beq_true]
  rfl

theorem beeps_cons_of_quiet {call : Call} (quiet : call ≠ .tick) (rest : List Call) :
    first.beeps (call :: rest) = (first.perform call).beeps rest := by
  cases call with
  | tick => exact absurd rfl quiet
  | _ => rfl

/-- The sound after a call that is no tick is the one that it writes, or the one from before. -/
theorem sound?_store_perform {call : Call} (quiet : call ≠ .tick) :
    (Call.store (first.perform call)).sound? = some (call.sound?.getD first.sound) := by
  have stands := Counter.sound.read_perform first call
  rw [if_neg quiet] at stands
  exact congrArg some stands

/-- As many ticks beep as sounds run out, the one that there is at the start among them. -/
theorem beeps_eq_soundsOut (history : List Call) :
    first.beeps history = soundsOut (.store first :: history) := by
  induction history generalizing first with
  | nil =>
    simp [beeps, answers, soundsOut, runsOut, ticksToWrite, Call.sound?]
    omega
  | cons call rest ih =>
    by_cases ticks : call = .tick
    · rw [ticks, beeps_cons_tick, soundsOut_store_tick, ih]
    · have sounds := sound?_store_perform first ticks
      rw [beeps_cons_of_quiet first ticks, ih]
      cases written : call.sound? with
      | some value =>
        rw [written] at sounds
        rw [soundsOut_store_of_written first written]
        exact soundsOut_congr (sounds.trans written.symm) rest
      | none =>
        rw [written] at sounds
        rw [soundsOut_store_of_silent first written ticks]
        exact soundsOut_congr sounds rest

/-- The delay, and what is written to it, makes no difference to the ticks that beep. -/
theorem answers_undelayed (other : UInt8) (history : List Call) :
    first.answers history =
      (⟨other, first.sound⟩ : Timers).answers (history.filterMap Call.undelayed) := by
  induction history generalizing first other with
  | nil => rfl
  | cons call rest ih =>
    cases call with
    | tick =>
      change first.tick.2 :: first.tick.1.answers rest = _
      rw [ih first.tick.1 (lower other)]
      rfl
    | store stored => exact ih stored other
    | setDelay value => exact ih (first.setDelay value) other
    | setSound value => exact ih (first.setSound value) other

/-- Ticks alone, counted as `ticks` counts them. -/
theorem ticks_eq_performAll (count : Nat) :
    first.ticks count =
      (first.performAll (.replicate count .tick), first.beeps (.replicate count .tick)) := by
  induction count generalizing first with
  | zero => rfl
  | succ count ih =>
    change ((first.tick.1.ticks count).1,
      (first.tick.1.ticks count).2 + if first.tick.2 then 1 else 0) = _
    rw [ih, List.replicate_succ, beeps_cons_tick, Nat.add_comm]
    rfl

theorem toNat_read_ticks (counter : Counter) (count : Nat) :
    (counter.read (first.ticks count).1).toNat = (counter.read first).toNat - count := by
  have silent := counter.writes?_tick
  rw [ticks_eq_performAll, counter.toNat_read_performAll]
  congr 2
  · simp [Counter.written, silent]
  · simp [Counter.ticksSince, silent]

theorem eq_zero_iff (timers : Timers) :
    timers = zero ↔ timers.delay.toNat = 0 ∧ timers.sound.toNat = 0 := by
  obtain ⟨delay, sound⟩ := timers
  rw [zero, Timers.mk.injEq, ← UInt8.toNat_inj, ← UInt8.toNat_inj]
  rfl

theorem ticks_eq_zero_iff (count : Nat) :
    (first.ticks count).1 = zero ↔ max first.delay.toNat first.sound.toNat ≤ count := by
  have delay : (first.ticks count).1.delay.toNat = _ := toNat_read_ticks first .delay count
  have sound : (first.ticks count).1.sound.toNat = _ := toNat_read_ticks first .sound count
  rw [eq_zero_iff, delay, sound]
  change first.delay.toNat - count = 0 ∧ first.sound.toNat - count = 0 ↔ _
  omega

theorem soundsOut_ticks (count : Nat) : soundsOut (.replicate count .tick) = 0 := by
  induction count with
  | zero => rfl
  | succ count ih =>
    rw [List.replicate_succ, soundsOut, ih]
    rfl

theorem beeps_ticks (count : Nat) :
    first.beeps (.replicate count .tick) =
      if 1 ≤ first.sound.toNat ∧ first.sound.toNat ≤ count then 1 else 0 := by
  have all : ticksToWrite (.replicate count .tick) = count := by
    simp [ticksToWrite, Call.sound?]
  rw [beeps_eq_soundsOut, soundsOut, soundsOut_ticks, Nat.add_zero]
  simp only [runsOut, Call.sound?, Option.any_some, decide_eq_true_eq, all]

/-- Ticking until both counters are at zero beeps once, or not at all if there is no sound. -/
theorem drain_eq : first.drain = (zero, if first.sound = 0 then 0 else 1) := by
  apply Prod.ext
  · exact (ticks_eq_zero_iff first _).mpr (Nat.le_refl _)
  · change (first.ticks _).2 = if first.sound = 0 then 0 else 1
    rw [ticks_eq_performAll]
    change first.beeps _ = _
    rw [beeps_ticks]
    simp only [← UInt8.toNat_inj, UInt8.toNat_zero]
    split <;> split <;> omega

/-- Timers beep once for each sound that runs out. Whatever is written to them between ticks, a counter
stands at the value that was last written to it less the ticks since then, or at zero if there were more;
a tick beeps exactly if it is the tick that takes the sound last written to zero; so as many ticks beep
as sounds are written, or there from the start, and left alone until they have run out. Which ticks beep
does not depend on the delay or on what is written to it. Ticking until both counters are at zero beeps
once if there is a sound, and not at all if there is none. All this is told of the pair of counters,
which is what their common word holds after every call. -/
theorem each_sound_beeps_once (first : Timers) (history : List Call) :
    unpack (packedAfter first.pack history) = first.performAll history ∧
    (first.performAll history).delay.toNat =
      (Counter.delay.written first history).toNat - Counter.delay.ticksSince history ∧
    (first.performAll history).sound.toNat =
      (Counter.sound.written first history).toNat - Counter.sound.ticksSince history ∧
    ((first.performAll history).tick.2 = true ↔
      1 ≤ (Counter.sound.written first history).toNat ∧
      Counter.sound.ticksSince history + 1 = (Counter.sound.written first history).toNat) ∧
    first.beeps history = soundsOut (.store first :: history) ∧
    (∀ other : UInt8, first.answers history =
      (⟨other, first.sound⟩ : Timers).answers (history.filterMap Call.undelayed)) ∧
    (∀ count, (first.ticks count).1 = zero ↔ max first.delay.toNat first.sound.toNat ≤ count) ∧
    first.drain = (zero, if first.sound = 0 then 0 else 1) := by
  refine ⟨?_, ?_, ?_, ?_, ?_, ?_, ?_, ?_⟩
  · exact unpack_packedAfter first history
  · exact Counter.delay.toNat_read_performAll first history
  · exact Counter.sound.toNat_read_performAll first history
  · exact tick_beeps_iff_last first history
  · exact beeps_eq_soundsOut first history
  · exact fun other => answers_undelayed first other history
  · exact ticks_eq_zero_iff first
  · exact drain_eq first

example : (⟨9, 2⟩ : Timers).beeps [.tick, .setDelay 1, .tick, .setSound 1, .tick, .tick] = 2 := by
  decide

end SuperChip.Timers
