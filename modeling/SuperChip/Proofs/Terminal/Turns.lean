import SuperChip.Session

set_option autoImplicit false

namespace SuperChip.Terminal

/-- Something that a turn of the pump does to the keys, at a reading of the clock. -/
inductive Deed where
  | press (key : Key) (time : Nat)
  | sweep (time : Nat)
  deriving DecidableEq, Repr

namespace Deed

def time : Deed → Nat
  | press _ time | sweep time => time

end Deed

namespace Poll

/-- How the pump ends at what it finds, if it does. -/
def ending? : Poll → Option PumpEnd
  | failed => some .failed
  | stroke keystroke => if keystroke.isQuit then some .quit else none
  | idle | other => none

def isRelease : Poll → Bool
  | stroke keystroke => keystroke.kind == .release
  | idle | other | failed => false

/-- The key of the keypad that was typed, if it was one. -/
def typed? : Poll → Option Key
  | stroke ⟨.char c, _, _⟩ => Key.ofChar? c
  | _ => none

end Poll

namespace Occasion

/-- How the pump ends in a turn, if it does. -/
def ending? (occasion : Occasion) : Option PumpEnd :=
  if occasion.stopping then some .stopped else occasion.poll.ending?

/-- Whether a turn comes as far as its sweep: the pump does not end in it, and no key came up. -/
def Sweeps (occasion : Occasion) : Prop :=
  occasion.ending? = none ∧ occasion.poll.isRelease = false

instance (occasion : Occasion) : Decidable occasion.Sweeps := inferInstanceAs (Decidable (_ ∧ _))

/-- What a turn does to the keys: it presses the one that was typed and then sweeps. -/
def deeds (occasion : Occasion) : List Deed :=
  if occasion.Sweeps then
    (occasion.poll.typed?.map (.press · occasion.pressed)).toList ++ [.sweep occasion.swept]
  else []

end Occasion

namespace Pump

/-- What the turns up to the one that ends the pump do to the keys. -/
def deeds : List Occasion → List Deed
  | [] => []
  | occasion :: rest => if occasion.ending?.isSome then [] else occasion.deeds ++ deeds rest

def perform (pump : Pump) : Deed → Pump
  | .press key time => pump.press key time
  | .sweep time => pump.sweep time

def performAll (pump : Pump) (history : List Deed) : Pump := history.foldl perform pump

theorem performAll_append (pump : Pump) (earlier later : List Deed) :
    pump.performAll (earlier ++ later) = (pump.performAll earlier).performAll later :=
  List.foldl_append ..

theorem performAll_concat (pump : Pump) (history : List Deed) (deed : Deed) :
    pump.performAll (history ++ [deed]) = (pump.performAll history).perform deed :=
  performAll_append ..

section Turns

variable (pump : Pump) {poll : Poll} (pressed swept : Nat)

/-- A turn that ends the pump does nothing to the keys. -/
theorem turn_of_ending {ending : PumpEnd} (ends : poll.ending? = some ending) :
    (ending = .quit ∧ pump.turn poll pressed swept = (pump, .quit, [.quitRequested])) ∨
      (ending = .failed ∧ pump.turn poll pressed swept = (pump, .failed, [])) := by
  cases poll with
  | idle => cases ends
  | other => cases ends
  | failed =>
    cases ends
    exact .inr ⟨rfl, rfl⟩
  | stroke keystroke =>
    obtain ⟨quits, same⟩ := Option.ite_none_right_eq_some.mp ends
    cases same
    exact .inl ⟨rfl, if_pos quits⟩

theorem not_quit_of_endless {keystroke : Keystroke}
    (endless : (Poll.stroke keystroke).ending? = none) : ¬ keystroke.isQuit = true := by
  intro quits
  rw [Poll.ending?, if_pos quits] at endless
  cases endless

/-- A key that comes up does nothing to the keys either. -/
theorem turn_of_release (endless : poll.ending? = none) (up : poll.isRelease = true) :
    pump.turn poll pressed swept = (pump, .goesOn, []) := by
  cases poll with
  | idle => cases up
  | other => cases up
  | failed => cases up
  | stroke keystroke =>
    rw [turn, if_neg (not_quit_of_endless endless), if_pos (eq_of_beq up)]

/-- In any other turn the key that was typed goes down, and then comes the sweep. -/
theorem turn_of_sweeping (endless : poll.ending? = none) (down : poll.isRelease = false) :
    ∃ events, pump.turn poll pressed swept =
      (((poll.typed?.map (pump.press · pressed)).getD pump).sweep swept, .goesOn, events) := by
  cases poll with
  | idle => exact ⟨_, rfl⟩
  | other => exact ⟨_, rfl⟩
  | failed => cases endless
  | stroke keystroke =>
    have staysDown : ¬ keystroke.kind = .release := by
      intro comesUp
      rw [Poll.isRelease, comesUp] at down
      cases down
    rw [turn, if_neg (not_quit_of_endless endless), if_neg staysDown]
    obtain ⟨code, modifiers, kind⟩ := keystroke
    cases code with
    | char c => cases typed : Key.ofChar? c <;> simp [Poll.typed?, typed]
    | _ => exact ⟨_, rfl⟩

end Turns

theorem performAll_deeds (pump : Pump) {occasion : Occasion} (sweeps : occasion.Sweeps) :
    pump.performAll occasion.deeds =
      ((occasion.poll.typed?.map (pump.press · occasion.pressed)).getD pump).sweep
        occasion.swept := by
  rw [Occasion.deeds, if_pos sweeps]
  cases occasion.poll.typed? <;>
    simp only [performAll, perform, Option.map_none, Option.map_some, Option.toList_none,
      Option.toList_some, Option.getD_none, Option.getD_some, List.nil_append, List.cons_append,
      List.foldl_cons, List.foldl_nil]

/-- A turn that does not end the pump does its deeds. -/
theorem turn_of_endless (pump : Pump) {occasion : Occasion} (going : occasion.stopping = false)
    (endless : occasion.poll.ending? = none) :
    ∃ events, pump.turn occasion.poll occasion.pressed occasion.swept =
      (pump.performAll occasion.deeds, .goesOn, events) := by
  cases released : occasion.poll.isRelease with
  | true =>
    have nothing : occasion.deeds = [] := by
      rw [Occasion.deeds, if_neg]
      rintro ⟨-, down⟩
      rw [released] at down
      cases down
    rw [nothing]
    exact ⟨_, pump.turn_of_release occasion.pressed occasion.swept endless released⟩
  | false =>
    have sweeps : occasion.Sweeps := by
      refine ⟨?_, released⟩
      rw [Occasion.ending?, going, if_neg Bool.false_ne_true, endless]
    rw [performAll_deeds pump sweeps]
    exact pump.turn_of_sweeping occasion.pressed occasion.swept endless released

/-- The pump goes on from what a turn does to the keys, unless the turn ends it. -/
theorem run_cons (pump : Pump) (occasion : Occasion) (rest : List Occasion) :
    pump.run (occasion :: rest) =
      match occasion.ending? with
      | some ending => (pump, some ending)
      | none => (pump.performAll occasion.deeds).run rest := by
  cases stopping : occasion.stopping with
  | true => rw [run, Occasion.ending?, if_pos stopping, if_pos stopping]
  | false =>
    have up : ¬ occasion.stopping = true := by
      rw [stopping]
      exact Bool.false_ne_true
    rw [run, Occasion.ending?, if_neg up, if_neg up]
    cases found : occasion.poll.ending? with
    | some ending =>
      rcases pump.turn_of_ending occasion.pressed occasion.swept found with
        ⟨rfl, turned⟩ | ⟨rfl, turned⟩ <;> rw [turned]
    | none =>
      obtain ⟨events, turned⟩ := pump.turn_of_endless stopping found
      rw [turned]

theorem run_eq (pump : Pump) (occasions : List Occasion) :
    (pump.run occasions).1 = pump.performAll (deeds occasions) := by
  induction occasions generalizing pump with
  | nil => rfl
  | cons occasion rest ih =>
    rw [run_cons, deeds]
    cases occasion.ending? with
    | some ending => rfl
    | none =>
      change ((pump.performAll occasion.deeds).run rest).1 =
        pump.performAll (occasion.deeds ++ deeds rest)
      rw [ih, performAll_append]

section Runs

variable {earlier later : List Occasion} {occasion : Occasion}

theorem endless_of_going (pump : Pump) (going : (pump.run earlier).2 = none) :
    ∀ occasion ∈ earlier, occasion.ending? = none := by
  induction earlier generalizing pump with
  | nil => exact List.forall_mem_nil _
  | cons first rest ih =>
    rw [run_cons] at going
    cases ends : first.ending? with
    | some ending =>
      rw [ends] at going
      cases going
    | none =>
      rw [ends] at going
      exact List.forall_mem_cons.mpr ⟨ends, ih _ going⟩

theorem run_append (pump : Pump) (endless : ∀ occasion ∈ earlier, occasion.ending? = none) :
    pump.run (earlier ++ later) = (pump.performAll (deeds earlier)).run later := by
  induction earlier generalizing pump with
  | nil => rfl
  | cons first rest ih =>
    obtain ⟨goes, restGoes⟩ := List.forall_mem_cons.mp endless
    rw [List.cons_append, run_cons, goes, deeds, goes]
    change (pump.performAll first.deeds).run (rest ++ later) =
      (pump.performAll (first.deeds ++ deeds rest)).run later
    rw [ih _ restGoes, performAll_append]

theorem deeds_append (endless : ∀ occasion ∈ earlier, occasion.ending? = none) :
    deeds (earlier ++ later) = deeds earlier ++ deeds later := by
  induction earlier with
  | nil => rfl
  | cons first rest ih =>
    obtain ⟨goes, restGoes⟩ := List.forall_mem_cons.mp endless
    rw [List.cons_append, deeds, deeds, goes]
    change first.deeds ++ deeds (rest ++ later) = (first.deeds ++ deeds rest) ++ deeds later
    rw [ih restGoes, List.append_assoc]

end Runs

end Pump

end SuperChip.Terminal

namespace SuperChip.Desk

/-- What a turn meets at a desk in a millisecond. -/
def occasion (now : Nat) (poll : Terminal.Poll) : Terminal.Occasion :=
  ⟨false, poll, now * 1000000, now * 1000000⟩

theorem log_kept (desk : Desk) (record : LogRecord) :
    (desk.log record).pump = desk.pump ∧ (desk.log record).stopping = desk.stopping := by
  unfold log
  split <;> exact ⟨rfl, rfl⟩

theorem foldl_log_kept (desk : Desk) (events : List Terminal.PumpEvent) :
    (events.foldl (fun desk event => desk.log event.record) desk).pump = desk.pump ∧
      (events.foldl (fun desk event => desk.log event.record) desk).stopping = desk.stopping := by
  induction events generalizing desk with
  | nil => exact ⟨rfl, rfl⟩
  | cons event rest ih =>
    obtain ⟨pump, stopping⟩ := desk.log_kept event.record
    obtain ⟨restPump, restStopping⟩ := ih (desk.log event.record)
    exact ⟨restPump.trans pump, restStopping.trans stopping⟩

theorem foldl_poll_of_stopping (desk : Desk) (now : Nat) (polls : List Terminal.Poll)
    (stopping : desk.stopping = true) : polls.foldl (·.poll now) desk = desk := by
  induction polls with
  | nil => rfl
  | cons poll rest ih =>
    have same : desk.poll now poll = desk := if_pos stopping
    rw [List.foldl_cons, same, ih]

/-- A poll of a desk is a turn of its pump, and the log and the flag follow from it. -/
theorem poll_of_turn (desk : Desk) (now : Nat) (going : desk.stopping = false)
    {poll : Terminal.Poll} {next : Terminal.Pump} {verdict : Terminal.PumpTurn}
    {events : List Terminal.PumpEvent}
    (turned : desk.pump.turn poll (now * 1000000) (now * 1000000) = (next, verdict, events)) :
    ∃ logged : Desk, logged.pump = next ∧ logged.stopping = false ∧
      desk.poll now poll = if verdict = .goesOn then logged else logged.quit := by
  obtain ⟨pump, stopping⟩ := foldl_log_kept { desk with pump := next } events
  refine ⟨_, pump, stopping.trans going, ?_⟩
  have up : ¬ desk.stopping = true := by
    rw [going]
    exact Bool.false_ne_true
  rw [Desk.poll, if_neg up]
  simp only [turned]
  cases verdict <;> rfl

/-- The polls of a desk are the turns of its pump; when a turn ends the pump, the keypad is closed and the
stop flag goes up. -/
theorem foldl_poll (desk : Desk) (now : Nat) (polls : List Terminal.Poll)
    (going : desk.stopping = false) :
    match desk.pump.run (polls.map (occasion now)) with
    | (pump, none) => (polls.foldl (·.poll now) desk).pump = pump ∧
        (polls.foldl (·.poll now) desk).stopping = false
    | (pump, some _) => (polls.foldl (·.poll now) desk).pump =
          { pump with keypad := pump.keypad.close } ∧
        (polls.foldl (·.poll now) desk).stopping = true := by
  induction polls generalizing desk with
  | nil => exact ⟨rfl, going⟩
  | cons poll rest ih =>
    rcases turned : desk.pump.turn poll (now * 1000000) (now * 1000000) with
      ⟨next, verdict, events⟩
    obtain ⟨logged, pump, stopping, polled⟩ := desk.poll_of_turn now going turned
    have goes : ¬ (occasion now poll).stopping = true := Bool.false_ne_true
    have met : desk.pump.turn (occasion now poll).poll (occasion now poll).pressed
        (occasion now poll).swept = (next, verdict, events) := turned
    rw [List.foldl_cons, List.map_cons, Terminal.Pump.run, if_neg goes, met, polled]
    cases verdict with
    | goesOn =>
      have later := ih logged stopping
      rw [pump] at later
      exact later
    | quit | failed =>
      change (rest.foldl (·.poll now) logged.quit).pump = _ ∧
        (rest.foldl (·.poll now) logged.quit).stopping = true
      rw [foldl_poll_of_stopping _ now rest rfl, ← pump]
      exact ⟨rfl, rfl⟩

end SuperChip.Desk
