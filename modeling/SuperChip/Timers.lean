set_option autoImplicit false

namespace SuperChip

/-- Two counters that count down to zero together, one at each tick. -/
structure Timers where
  delay : UInt8
  sound : UInt8
  deriving DecidableEq, Repr

namespace Timers

def zero : Timers := ⟨0, 0⟩

/-- Milliseconds between ticks unless a host asks for another period. -/
def standardPeriod : Nat := 16

/-- One below a counter, and zero below zero. -/
def lower (counter : UInt8) : UInt8 := if counter = 0 then 0 else counter - 1

/-- Both counters one tick later. -/
def decremented (timers : Timers) : Timers := ⟨lower timers.delay, lower timers.sound⟩

/-- One tick, and whether it beeps. -/
def tick (timers : Timers) : Timers × Bool :=
  (timers.decremented, timers.sound == 1 && timers.decremented.sound == 0)

/-- Changes the pair, and gives it back as it was before and as it is after. -/
def update (timers : Timers) (change : Timers → Timers) : Timers × Timers :=
  (timers, change timers)

def setDelay (timers : Timers) (value : UInt8) : Timers := { timers with delay := value }

def setSound (timers : Timers) (value : UInt8) : Timers := { timers with sound := value }

/-- Raises both counters, each wrapping on its own. -/
def add (timers : Timers) (delay sound : UInt8) : Timers :=
  ⟨timers.delay + delay, timers.sound + sound⟩

/-- `count` ticks, and how many of them beeped. -/
def ticks : Nat → Timers → Timers × Nat
  | 0, timers => (timers, 0)
  | count + 1, timers =>
    let (next, beep) := timers.tick
    let (final, beeps) := ticks count next
    (final, beeps + if beep then 1 else 0)

/-- Ticks until both counters have run out, and how many of those ticks beeped. -/
def drain (timers : Timers) : Timers × Nat :=
  ticks (max timers.delay.toNat timers.sound.toNat) timers

theorem toNat_lower (counter : UInt8) : (lower counter).toNat = counter.toNat - 1 := by
  unfold lower
  split
  · rename_i zero
    rw [zero]
    rfl
  · rename_i positive
    have least : counter.toNat ≠ 0 := fun zero => positive (UInt8.toNat_inj.mp zero)
    have order : (1 : UInt8) ≤ counter := UInt8.le_iff_toNat_le.mpr (by
      rw [UInt8.toNat_one]
      omega)
    rw [UInt8.toNat_sub_of_le _ _ order, UInt8.toNat_one]

theorem toNat_delay_ticks (count : Nat) (timers : Timers) :
    (ticks count timers).1.delay.toNat = timers.delay.toNat - count := by
  induction count generalizing timers with
  | zero => rfl
  | succ count ih =>
    have later := ih timers.tick.1
    have first : timers.tick.1.delay.toNat = timers.delay.toNat - 1 := toNat_lower timers.delay
    change (ticks count timers.tick.1).1.delay.toNat = _
    omega

theorem delay_drain (timers : Timers) : timers.drain.1.delay = 0 := by
  have left := toNat_delay_ticks (max timers.delay.toNat timers.sound.toNat) timers
  apply UInt8.toNat_inj.mp
  change (ticks (max timers.delay.toNat timers.sound.toNat) timers).1.delay.toNat = 0
  omega

theorem tick_beeps_iff (timers : Timers) : timers.tick.2 = true ↔ timers.sound = 1 := by
  simp only [tick, decremented, Bool.and_eq_true, beq_iff_eq]
  constructor
  · exact fun beep => beep.1
  · intro one
    rw [one]
    exact ⟨rfl, rfl⟩

end Timers

end SuperChip
