import SuperChip.Proofs.Terminal.Turns

set_option autoImplicit false

namespace SuperChip.Terminal

/-- When a key is pressed, if it is. -/
def Deed.pressOf? (key : Key) : Deed → Option Nat
  | press pressed time => if pressed = key then some time else none
  | sweep _ => none

namespace Pump

/-- When a key was pressed for the last time, if it was pressed at all. -/
def latestPress? (history : List Deed) (key : Key) : Option Nat :=
  (history.filterMap (Deed.pressOf? key)).getLast?

theorem latestPress?_concat (history : List Deed) (deed : Deed) (key : Key) :
    latestPress? (history ++ [deed]) key = (deed.pressOf? key).or (latestPress? history key) := by
  unfold latestPress?
  rw [List.filterMap_append, List.getLast?_append]
  cases pressed : deed.pressOf? key with
  | none => simp [pressed]
  | some time => simp [pressed]

/-- When a key is to be let go, if it is held. -/
def deadline (pump : Pump) (key : Key) : Option Nat := pump.deadlines.get key

/-- What the pump keeps of a key: when to let it go, and whether it is down. -/
def view (pump : Pump) (key : Key) : Option Nat × Bool := (pump.deadline key, pump.keypad.isDown key)

theorem of_view {pump : Pump} {key : Key} {deadline : Option Nat} {down : Bool}
    (kept : pump.view key = (deadline, down)) :
    pump.deadline key = deadline ∧ pump.keypad.isDown key = down := Prod.mk.inj kept

section Sweeps

variable (pump : Pump) {key other : Key} (now : Nat)

theorem view_press_self : (pump.press key now).view key = (some (now + holdTime), true) := by
  apply Prod.ext
  · exact Vector.getElem_set_self _
  · change (pump.keypad.press key).isDown key = true
    rw [Keypad.isDown_press, decide_eq_true rfl, Bool.true_or]

theorem view_press_other (different : key ≠ other) :
    (pump.press other now).view key = pump.view key := by
  apply Prod.ext
  · exact Vector.getElem_set_ne other.isLt key.isLt fun same => different (Fin.ext same.symm)
  · change (pump.keypad.press other).isDown key = _
    rw [Keypad.isDown_press, decide_eq_false different, Bool.false_or]
    rfl

theorem view_letGo_self : (pump.letGo key).view key = (none, false) := by
  apply Prod.ext
  · exact Vector.getElem_set_self _
  · change (pump.keypad.release key).isDown key = false
    rw [Keypad.isDown_release, decide_eq_false (not_not_intro rfl), Bool.false_and]

theorem view_letGo_other (different : key ≠ other) :
    (pump.letGo other).view key = pump.view key := by
  apply Prod.ext
  · exact Vector.getElem_set_ne other.isLt key.isLt fun same => different (Fin.ext same.symm)
  · change (pump.keypad.release other).isDown key = _
    rw [Keypad.isDown_release, decide_eq_true different, Bool.true_and]
    rfl

theorem due_iff :
    pump.due now key = true ↔ ∃ deadline, pump.deadline key = some deadline ∧ deadline ≤ now := by
  unfold due deadline
  cases pump.deadlines.get key <;> simp

theorem due_congr {pump next : Pump} (same : next.view key = pump.view key) :
    next.due now key = pump.due now key := by
  have deadline : next.deadline key = pump.deadline key := (of_view same).1
  rw [Bool.eq_iff_iff, due_iff, due_iff, deadline]

theorem not_due_letGo : ¬ (pump.letGo key).due now key = true := by
  have deadline : (pump.letGo key).deadline key = none := (of_view pump.view_letGo_self).1
  rw [due_iff, deadline]
  rintro ⟨deadline, held, -⟩
  cases held

/-- The turn of a key in a sweep leaves the other keys alone, and a key whose time is not up. -/
theorem view_sweepOne (first : Key) (spared : key = first → ¬ pump.due now key = true) :
    (if pump.due now first then pump.letGo first else pump).view key = pump.view key := by
  split
  · next due =>
    apply view_letGo_other
    rintro rfl
    exact spared rfl due
  · rfl

theorem view_sweepAll_of_spared {keys : List Key} (spared : key ∈ keys → ¬ pump.due now key = true) :
    (keys.foldl (fun pump key => if pump.due now key then pump.letGo key else pump) pump).view key =
      pump.view key := by
  induction keys generalizing pump with
  | nil => rfl
  | cons first rest ih =>
    have kept := pump.view_sweepOne now first fun same => spared (same ▸ List.mem_cons_self)
    rw [List.foldl_cons, ih, kept]
    intro listed
    rw [due_congr now kept]
    exact spared (List.mem_cons_of_mem _ listed)

theorem view_sweepAll_of_due {keys : List Key} (listed : key ∈ keys)
    (due : pump.due now key = true) :
    (keys.foldl (fun pump key => if pump.due now key then pump.letGo key else pump) pump).view key =
      (none, false) := by
  induction keys generalizing pump with
  | nil => cases listed
  | cons first rest ih =>
    rw [List.foldl_cons]
    by_cases same : key = first
    · subst same
      rw [if_pos due, view_sweepAll_of_spared _ now fun _ => pump.not_due_letGo now]
      exact pump.view_letGo_self
    · have kept := pump.view_sweepOne now first fun equal => absurd equal same
      refine ih _ ?_ ((due_congr now kept).trans due)
      exact (List.mem_cons.mp listed).resolve_left same

/-- A sweep lets go of the keys whose time is up, and leaves the others alone. -/
theorem view_sweep :
    (pump.sweep now).view key = if pump.due now key then (none, false) else pump.view key := by
  rw [sweep]
  split
  · next due => exact pump.view_sweepAll_of_due now (List.mem_finRange key) due
  · next early => exact pump.view_sweepAll_of_spared now fun _ => early

end Sweeps

/-- What the pump keeps of what was done to a key. -/
structure Tracks (pump : Pump) (history : List Deed) (key : Key) : Prop where
  inStep : pump.keypad.isDown key = (pump.deadline key).isSome
  held : ∀ deadline, pump.deadline key = some deadline →
    ∃ pressed, latestPress? history key = some pressed ∧ deadline = pressed + holdTime
  /-- A key that is not held although it was pressed was swept when its time was up. -/
  lifted : ∀ pressed, pump.deadline key = none → latestPress? history key = some pressed →
    ∃ deed ∈ history, pressed + holdTime ≤ deed.time

theorem tracks_fresh (key : Key) : (fresh .empty).Tracks [] key := by
  have none : (fresh .empty).deadline key = none := Vector.getElem_replicate _
  constructor
  · rw [none]
    exact Keypad.isDown_empty key
  · intro deadline held
    rw [none] at held
    cases held
  · intro pressed _ latest
    cases latest

namespace Tracks

variable {pump next : Pump} {history : List Deed} {deed : Deed} {key : Key}

/-- A deed that is no press of a key and leaves the key alone is no news of it. -/
theorem unmoved (tracks : pump.Tracks history key) (same : next.view key = pump.view key)
    (silent : deed.pressOf? key = none) : next.Tracks (history ++ [deed]) key := by
  obtain ⟨deadline, down⟩ := of_view same
  constructor
  · rw [deadline, down]
    exact tracks.inStep
  · rw [deadline, latestPress?_concat, silent]
    exact tracks.held
  · intro pressed none latest
    rw [deadline] at none
    rw [latestPress?_concat, silent] at latest
    obtain ⟨earlier, listed, late⟩ := tracks.lifted pressed none latest
    exact ⟨earlier, List.mem_append_left _ listed, late⟩

theorem press (tracks : pump.Tracks history key) (pressed : Key) (time : Nat) :
    (pump.press pressed time).Tracks (history ++ [.press pressed time]) key := by
  by_cases same : key = pressed
  · subst same
    obtain ⟨deadline, down⟩ := of_view (pump.view_press_self time)
    have latest : latestPress? (history ++ [.press key time]) key = some time := by
      rw [latestPress?_concat, Deed.pressOf?, if_pos rfl]
      rfl
    constructor
    · rw [deadline, down]
      rfl
    · intro other held
      rw [deadline] at held
      cases held
      exact ⟨time, latest, rfl⟩
    · intro other none
      rw [deadline] at none
      cases none
  · exact tracks.unmoved (pump.view_press_other time same) (if_neg fun equal => same equal.symm)

theorem sweep (tracks : pump.Tracks history key) (time : Nat) :
    (pump.sweep time).Tracks (history ++ [.sweep time]) key := by
  have swept : (pump.sweep time).view key = _ := pump.view_sweep time
  by_cases due : pump.due time key = true
  · rw [if_pos due] at swept
    obtain ⟨none, up⟩ := of_view swept
    constructor
    · rw [none, up]
      rfl
    · intro deadline held
      rw [none] at held
      cases held
    · intro pressed _ latest
      rw [latestPress?_concat] at latest
      obtain ⟨deadline, held, late⟩ := (pump.due_iff time).mp due
      obtain ⟨other, last, rfl⟩ := tracks.held deadline held
      cases last.symm.trans latest
      exact ⟨.sweep time, List.mem_append_right _ (List.mem_singleton.mpr rfl), late⟩
  · rw [if_neg due] at swept
    exact tracks.unmoved swept rfl

theorem perform (tracks : pump.Tracks history key) (deed : Deed) :
    (pump.perform deed).Tracks (history ++ [deed]) key := by
  cases deed with
  | press pressed time => exact tracks.press pressed time
  | sweep time => exact tracks.sweep time

theorem performAll (tracks : pump.Tracks history key) (later : List Deed) :
    (pump.performAll later).Tracks (history ++ later) key := by
  induction later generalizing pump history with
  | nil =>
    rw [List.append_nil]
    exact tracks
  | cons deed rest ih =>
    rw [List.append_cons]
    exact ih (tracks.perform deed)

/-- A key that is down goes up in no deed but a sweep, and only when its time is up. -/
theorem due_of_lifted (tracks : pump.Tracks history key) {deed : Deed}
    (down : pump.keypad.isDown key = true) (up : (pump.perform deed).keypad.isDown key = false) :
    ∃ time pressed, deed = .sweep time ∧ latestPress? history key = some pressed ∧
      pressed + holdTime ≤ time := by
  cases deed with
  | press pressed time =>
    have still : (pump.keypad.press pressed).isDown key = false := up
    rw [Keypad.isDown_press, down, Bool.or_true] at still
    cases still
  | sweep time =>
    by_cases due : pump.due time key = true
    · obtain ⟨deadline, held, late⟩ := (pump.due_iff time).mp due
      obtain ⟨pressed, latest, rfl⟩ := tracks.held deadline held
      exact ⟨time, pressed, rfl, latest, late⟩
    · have swept : (pump.sweep time).view key = _ := pump.view_sweep time
      rw [if_neg due] at swept
      have still : (pump.sweep time).keypad.isDown key = false := up
      rw [(of_view swept).2, down] at still
      cases still

/-- If the clock has not gone back, a sweep leaves a key down exactly if it was pressed less than the
hold time ago. -/
theorem down_swept_iff (tracks : pump.Tracks history key) {time : Nat}
    (rising : ∀ deed ∈ history, deed.time ≤ time) :
    (pump.sweep time).keypad.isDown key = true ↔
      ∃ pressed, latestPress? history key = some pressed ∧ time < pressed + holdTime := by
  have swept : (pump.sweep time).view key = _ := pump.view_sweep time
  by_cases due : pump.due time key = true
  · rw [if_pos due] at swept
    obtain ⟨deadline, held, late⟩ := (pump.due_iff time).mp due
    obtain ⟨pressed, latest, rfl⟩ := tracks.held deadline held
    rw [(of_view swept).2]
    refine iff_of_false Bool.false_ne_true ?_
    rintro ⟨other, last, early⟩
    cases last.symm.trans latest
    omega
  · rw [if_neg due] at swept
    rw [(of_view swept).2, tracks.inStep, Option.isSome_iff_exists]
    rw [pump.due_iff time] at due
    constructor
    · rintro ⟨deadline, held⟩
      obtain ⟨pressed, latest, rfl⟩ := tracks.held deadline held
      exact ⟨pressed, latest, Nat.lt_of_not_le fun late => due ⟨_, held, late⟩⟩
    · rintro ⟨pressed, latest, early⟩
      cases held : pump.deadline key with
      | some deadline => exact ⟨deadline, rfl⟩
      | none =>
        -- The key would have been swept at a later time than this.
        obtain ⟨deed, listed, late⟩ := tracks.lifted pressed held latest
        have order := rising deed listed
        omega

end Tracks

/-- A pump that has pressed no key yet. -/
def idle : Pump := fresh .empty

/-- What holds of the pump, from the start on and at every turn. -/
structure KeepsTime (occasions : List Occasion) : Prop where
  /-- Presses and sweeps, one after the other, are all that the pump does to the keys. -/
  made : ∀ earlier later, occasions = earlier ++ later →
    (idle.run earlier).1 = idle.performAll (deeds earlier)
  /-- As a turn begins, and when the pump has ended, the keys that are down are those that have a time
  at which to be let go. -/
  inStep : ∀ earlier later, occasions = earlier ++ later → ∀ key,
    (idle.run earlier).1.keypad.isDown key = ((idle.run earlier).1.deadline key).isSome
  /-- A key goes up in a sweep, no earlier than the hold time after its latest press. -/
  lifted : ∀ before deed after key, deeds occasions = before ++ deed :: after →
    (idle.performAll before).keypad.isDown key = true →
    (idle.performAll (before ++ [deed])).keypad.isDown key = false →
    ∃ time pressed, deed = .sweep time ∧ latestPress? before key = some pressed ∧
      pressed + holdTime ≤ time
  /-- After a turn that comes as far as its sweep, the keys that are down are those that were pressed
  less than the hold time before. -/
  swept : ∀ earlier occasion later, occasions = earlier ++ occasion :: later →
    (idle.run earlier).2 = none → occasion.Sweeps → ∀ key,
    (idle.run (earlier ++ [occasion])).1.keypad.isDown key = true ↔
      ∃ pressed, latestPress? (deeds (earlier ++ [occasion])) key = some pressed ∧
        occasion.swept < pressed + holdTime
  /-- What ends the pump changes nothing. -/
  ended : ∀ earlier occasion later ending, occasions = earlier ++ occasion :: later →
    (idle.run earlier).2 = none → occasion.ending? = some ending →
    idle.run occasions = ((idle.run earlier).1, some ending)

theorem tracks_idle (history : List Deed) (key : Key) :
    (idle.performAll history).Tracks history key := (tracks_fresh key).performAll history

theorem exists_deeds_of_sweeps {occasion : Occasion} (sweeps : occasion.Sweeps) :
    ∃ presses, occasion.deeds = presses ++ [.sweep occasion.swept] :=
  ⟨_, if_pos sweeps⟩

/-- The pump keeps time. Whatever it finds at the terminal, turn after turn, a key is down as long as the
pump keeps a time at which to let it go. If the clock does not go back, a key goes up only in a sweep, and
not before the hold time is over since its latest press; and a turn that comes as far as its sweep leaves
down exactly the keys that were pressed less than the hold time before. A quit, a terminal that fails and
the stop flag end the pump and change nothing. -/
theorem pump_keeps_time (occasions : List Occasion)
    (rising : ((deeds occasions).map Deed.time).Pairwise (· ≤ ·)) : KeepsTime occasions where
  made earlier later _ := idle.run_eq earlier
  inStep earlier later _ key := by
    rw [run_eq]
    exact (tracks_idle (deeds earlier) key).inStep
  lifted before deed after key split down up := by
    rw [performAll_concat] at up
    exact (tracks_idle before key).due_of_lifted down up
  swept earlier occasion later split going sweeps key := by
    have endless := idle.endless_of_going going
    obtain ⟨presses, made⟩ := exists_deeds_of_sweeps sweeps
    have turn (rest : List Occasion) : deeds (earlier ++ occasion :: rest) =
        (deeds earlier ++ presses) ++ .sweep occasion.swept :: deeds rest := by
      rw [deeds_append endless, deeds, sweeps.1, made]
      simp
    rw [split, turn, List.map_append, List.pairwise_append] at rising
    have earlierTimes : ∀ deed ∈ deeds earlier ++ presses, deed.time ≤ occasion.swept := by
      intro deed listed
      exact rising.2.2 _ (List.mem_map_of_mem listed) _ List.mem_cons_self
    rw [run_eq, turn, deeds, latestPress?_concat, performAll_concat]
    exact (tracks_idle (deeds earlier ++ presses) key).down_swept_iff earlierTimes
  ended earlier occasion later ending split going ends := by
    rw [split, run_append idle (idle.endless_of_going going), run_eq, run_cons, ends]

/-- A key that is repeated 100 milliseconds after it went down stays down for 150 more, though the
terminal tells of its release; then it is let go, and a quit changes nothing any more. -/
theorem pump_keeps_time_repeated :
    let occasions : List Occasion := [
      ⟨false, .stroke ⟨.char 'q', {}, .press⟩, 0, 1000⟩,
      ⟨false, .stroke ⟨.char 'Q', {}, .again⟩, 100000000, 100000000⟩,
      ⟨false, .stroke ⟨.char 'q', {}, .release⟩, 0, 0⟩,
      ⟨false, .idle, 0, 249999999⟩,
      ⟨false, .other, 0, 250000000⟩,
      ⟨false, .stroke ⟨.escape, {}, .press⟩, 0, 0⟩]
    ((deeds occasions).map Deed.time).Pairwise (· ≤ ·) ∧ KeepsTime occasions ∧
      (idle.run (occasions.take 4)).1.keypad.isDown 4 = true ∧
      (idle.run occasions).1.keypad.isDown 4 = false ∧ (idle.run occasions).2 = some .quit :=
  ⟨by decide, pump_keeps_time _ (by decide), by decide +kernel, by decide +kernel, rfl⟩

end Pump

end SuperChip.Terminal
