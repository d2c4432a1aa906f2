import SuperChip.Keypad

set_option autoImplicit false

namespace SuperChip.Keypad

/-- Something that was asked of a keypad, and the answer that it gave. A wait that parked has looked at
the keypad and goes on waiting. -/
inductive Call where
  | press (byte : UInt8)
  | release (byte : UInt8)
  | releaseAll
  | close
  | isDown (byte : UInt8) (answer : Bool)
  | wait (answer : Wait)
  deriving DecidableEq, Repr

namespace Call

/-- Whether a key goes down. -/
def Presses (key : Key) : Call → Prop
  | press byte => Key.ofByte byte = key
  | _ => False

/-- Whether a key goes up, if it was down. -/
def Lifts (key : Key) : Call → Prop
  | release byte => Key.ofByte byte = key
  | releaseAll => True
  | press _ | close | isDown _ _ | wait _ => False

/-- Whether a wait was answered by a key. -/
def Takes : Call → Prop
  | wait (.key _) => True
  | _ => False

end Call

/-- What a keypad becomes in a call, if it gives the answer. -/
def call? (keypad : Keypad) : Call → Option Keypad
  | .press byte => some (keypad.press (Key.ofByte byte))
  | .release byte => some (keypad.release (Key.ofByte byte))
  | .releaseAll => some keypad.releaseAll
  | .close => some keypad.close
  | .isDown byte answer => if keypad.isDown (Key.ofByte byte) = answer then some keypad else none
  | .wait answer => if keypad.wait.1 = answer then some keypad.wait.2 else none

/-- What a keypad becomes in a history, if it gives every answer of it. -/
def follow? (keypad : Keypad) (history : List Call) : Option Keypad := history.foldlM call? keypad

/-- Whether a call of the first kind happened and was followed by calls of the second kind only. -/
def Since (first second : Call → Prop) (history : List Call) : Prop :=
  ∃ before call after, history = before ++ call :: after ∧ first call ∧
    ∀ later ∈ after, second later

/-- Whether a key was pressed, and has not gone up since. -/
def Held (history : List Call) (key : Key) : Prop :=
  Since (Call.Presses key) (fun later => ¬ later.Lifts key) history

/-- Whether the latest press was of a key, and the key has not gone up since, and no wait was answered
by a key since. -/
def Due (history : List Call) (key : Key) : Prop :=
  Since (Call.Presses key)
    (fun later => ¬ later.Lifts key ∧ ¬ later.Takes ∧ ∀ other, ¬ later.Presses other) history

section Since

variable {first second : Call → Prop} {history later : List Call}

theorem not_since_nil : ¬ Since first second [] := by
  rintro ⟨before, call, after, split, _⟩
  cases before <;> cases split

theorem since_concat (call : Call) :
    Since first second (history ++ [call]) ↔
      first call ∨ Since first second history ∧ second call := by
  constructor
  · rintro ⟨before, found, after, split, happened, since⟩
    rcases List.eq_nil_or_concat after with rfl | ⟨middle, last, rfl⟩
    · obtain ⟨-, same⟩ := List.append_inj' split rfl
      cases same
      exact .inl happened
    · have ending : history ++ [call] = (before ++ found :: middle) ++ [last] := by
        rw [split, List.concat_eq_append, List.append_assoc]
        rfl
      obtain ⟨rfl, same⟩ := List.append_inj' ending rfl
      cases same
      rw [List.concat_eq_append] at since
      refine .inr ⟨⟨before, found, middle, rfl, happened, ?_⟩, ?_⟩
      · exact fun earlier listed => since earlier (List.mem_append_left _ listed)
      · exact since call (List.mem_append_right _ (List.mem_singleton.mpr rfl))
  · rintro (happened | ⟨⟨before, found, after, rfl, happened, since⟩, last⟩)
    · exact ⟨history, call, [], rfl, happened, List.forall_mem_nil _⟩
    · refine ⟨before, found, after ++ [call], List.append_assoc .., happened, ?_⟩
      exact List.forall_mem_append.mpr ⟨since, List.forall_mem_singleton.mpr last⟩

theorem Since.mono {weaker : Call → Prop} (since : Since first second history)
    (follows : ∀ call, second call → weaker call) : Since first weaker history := by
  obtain ⟨before, found, after, split, happened, kept⟩ := since
  refine ⟨before, found, after, split, happened, ?_⟩
  intro call listed
  exact follows call (kept call listed)

/-- Unless a call of the first kind is among the later ones, they are all of the second kind. -/
theorem Since.of_append (since : Since first second (history ++ later)) :
    (∃ call ∈ later, first call) ∨ ∀ call ∈ later, second call := by
  obtain ⟨before, found, after, split, happened, kept⟩ := since
  rcases List.append_eq_append_iff.mp split with ⟨middle, -, inside⟩ | ⟨middle, -, outside⟩
  · rw [inside]
    exact .inl ⟨found, List.mem_append_right _ List.mem_cons_self, happened⟩
  · cases middle with
    | nil =>
      rw [List.nil_append] at outside
      rw [← outside]
      exact .inl ⟨found, List.mem_cons_self, happened⟩
    | cons call rest =>
      obtain ⟨-, rfl⟩ := List.cons.inj outside
      exact .inr fun call listed => kept call (List.mem_append_right _ listed)

end Since

/-- A press that may still answer a wait is of a key that is held. -/
theorem Due.held {history : List Call} {key : Key} (due : Due history key) : Held history key :=
  due.mono fun _ kept => kept.1

section Waits

variable {keypad : Keypad}

theorem wait_of_closed (closed : keypad.closed = true) : keypad.wait = (.closed, keypad) := by
  simp only [wait, closed, if_true]

theorem wait_of_none (opened : keypad.closed = false) (none : keypad.pending = none) :
    keypad.wait = (.parked, keypad) := by
  simp only [wait, opened, none, Bool.false_eq_true, if_false]

/-- A press of a key that is still down answers the wait, and is taken. -/
theorem wait_of_some {key : Key} (opened : keypad.closed = false) (some : keypad.pending = some key)
    (down : keypad.isDown key = true) :
    keypad.wait = (.key (UInt8.ofNat key.val), { keypad with pending := none }) := by
  simp only [wait, opened, some, down, Bool.false_eq_true, if_false, if_true]

theorem closed_wait (keypad : Keypad) : keypad.wait.2.closed = keypad.closed := by
  unfold wait
  split
  · rfl
  · split <;> rfl

end Waits

/-- What a keypad keeps of its history. -/
structure Keeps (keypad : Keypad) (history : List Call) : Prop where
  down : ∀ key, keypad.isDown key = true ↔ Held history key
  pending : ∀ key, keypad.pending = some key ↔ Due history key
  closed : keypad.closed = true ↔ .close ∈ history

theorem keeps_empty : empty.Keeps [] where
  down key := by
    rw [isDown_empty]
    exact iff_of_false Bool.false_ne_true not_since_nil
  pending key := iff_of_false (Option.some_ne_none key).symm not_since_nil
  closed := iff_of_false Bool.false_ne_true List.not_mem_nil

variable {keypad next : Keypad} {history : List Call}

/-- A press is pending only as long as its key is down. -/
theorem Keeps.down_of_pending (keeps : keypad.Keeps history) {key : Key}
    (pending : keypad.pending = some key) : keypad.isDown key = true :=
  (keeps.down key).mpr ((keeps.pending key).mp pending).held

theorem held_concat (call : Call) (key : Key) :
    Held (history ++ [call]) key ↔ call.Presses key ∨ Held history key ∧ ¬ call.Lifts key :=
  since_concat call

theorem due_concat (call : Call) (key : Key) :
    Due (history ++ [call]) key ↔ call.Presses key ∨
      Due history key ∧ ¬ call.Lifts key ∧ ¬ call.Takes ∧ ∀ other, ¬ call.Presses other :=
  since_concat call

theorem closed_concat {call : Call} (other : call ≠ .close) :
    .close ∈ history ++ [call] ↔ .close ∈ history := by
  rw [List.mem_append, List.mem_singleton]
  exact or_iff_left other.symm

theorem Keeps.press (keeps : keypad.Keeps history) (byte : UInt8) :
    (keypad.press (Key.ofByte byte)).Keeps (history ++ [.press byte]) where
  down key := by
    rw [isDown_press, held_concat, Bool.or_eq_true, decide_eq_true_eq, keeps.down]
    simp only [Call.Presses, Call.Lifts, not_false_eq_true, and_true, eq_comm]
  pending key := by
    have renewed : (keypad.press (Key.ofByte byte)).pending = some (Key.ofByte byte) := rfl
    rw [renewed, due_concat, Option.some.injEq]
    constructor
    · exact .inl
    · rintro (presses | ⟨-, -, -, silent⟩)
      · exact presses
      · exact absurd rfl (silent (Key.ofByte byte))
  closed := keeps.closed.trans (closed_concat (by nofun)).symm

theorem Keeps.release (keeps : keypad.Keeps history) (byte : UInt8) :
    (keypad.release (Key.ofByte byte)).Keeps (history ++ [.release byte]) where
  down key := by
    rw [isDown_release, held_concat, Bool.and_eq_true, decide_eq_true_eq, keeps.down]
    simp only [Call.Presses, Call.Lifts, false_or, ne_eq, eq_comm, and_comm]
  pending key := by
    have left : (keypad.release (Key.ofByte byte)).pending =
        if keypad.pending = some (Key.ofByte byte) then none else keypad.pending := rfl
    rw [left, due_concat, ← keeps.pending]
    simp only [Call.Presses, Call.Lifts, Call.Takes, false_or, not_false_eq_true, implies_true,
      and_true]
    split
    · rename_i pending
      rw [pending, Option.some.injEq]
      simp
    · rename_i other
      constructor
      · intro pending
        refine ⟨pending, ?_⟩
        rintro rfl
        exact other pending
      · exact And.left
  closed := keeps.closed.trans (closed_concat (by nofun)).symm

theorem Keeps.releaseAll (keeps : keypad.Keeps history) :
    keypad.releaseAll.Keeps (history ++ [.releaseAll]) where
  down key := by
    rw [isDown_releaseAll, held_concat]
    apply iff_of_false Bool.false_ne_true
    rintro (presses | ⟨-, kept⟩)
    · exact presses
    · exact kept trivial
  pending key := by
    rw [due_concat]
    apply iff_of_false (Option.some_ne_none key).symm
    rintro (presses | ⟨-, kept, -⟩)
    · exact presses
    · exact kept trivial
  closed := keeps.closed.trans (closed_concat (by nofun)).symm

theorem Keeps.close (keeps : keypad.Keeps history) :
    keypad.close.Keeps (history ++ [.close]) where
  down key := by
    rw [isDown_close, held_concat, keeps.down]
    simp only [Call.Presses, Call.Lifts, false_or, not_false_eq_true, and_true]
  pending key := by
    have kept : keypad.close.pending = keypad.pending := rfl
    rw [kept, due_concat, keeps.pending]
    simp only [Call.Presses, Call.Lifts, Call.Takes, false_or, not_false_eq_true, implies_true,
      and_true]
  closed := iff_of_true rfl (List.mem_append_right _ (List.mem_singleton.mpr rfl))

/-- A call that moves no key, closes nothing and takes no press leaves nothing behind. -/
theorem Keeps.idle (keeps : keypad.Keeps history) {call : Call}
    (presses : ∀ key, ¬ call.Presses key) (lifts : ∀ key, ¬ call.Lifts key) (takes : ¬ call.Takes)
    (other : call ≠ .close) : keypad.Keeps (history ++ [call]) where
  down key := by
    rw [held_concat, keeps.down]
    simp only [presses, lifts, false_or, not_false_eq_true, and_true]
  pending key := by
    rw [due_concat, keeps.pending]
    simp only [presses, lifts, takes, false_or, not_false_eq_true, implies_true, and_true]
  closed := keeps.closed.trans (closed_concat other).symm

/-- A wait that is answered by a key takes the press along. -/
theorem Keeps.take (keeps : keypad.Keeps history) (code : UInt8) :
    ({ keypad with pending := none } : Keypad).Keeps (history ++ [.wait (.key code)]) where
  down key := by
    have same : ({ keypad with pending := none } : Keypad).isDown key = keypad.isDown key := rfl
    rw [same, held_concat, keeps.down]
    simp only [Call.Presses, Call.Lifts, false_or, not_false_eq_true, and_true]
  pending key := by
    rw [due_concat]
    simp [Call.Presses, Call.Takes]
  closed := keeps.closed.trans (closed_concat (by nofun)).symm

theorem Keeps.call (keeps : keypad.Keeps history) {call : Call}
    (answered : keypad.call? call = some next) : next.Keeps (history ++ [call]) := by
  cases call with
  | press byte =>
    cases answered
    exact keeps.press byte
  | release byte =>
    cases answered
    exact keeps.release byte
  | releaseAll =>
    cases answered
    exact keeps.releaseAll
  | close =>
    cases answered
    exact keeps.close
  | isDown byte answer =>
    obtain ⟨-, same⟩ := Option.ite_none_right_eq_some.mp answered
    cases same
    exact keeps.idle (fun _ => id) (fun _ => id) id nofun
  | wait answer =>
    obtain ⟨rfl, same⟩ := Option.ite_none_right_eq_some.mp answered
    cases same
    -- A wait takes the press that is pending, if the keypad is open, and changes nothing else; it
    -- never drops a press, since the key of one that is pending is down.
    cases closed : keypad.closed with
    | true =>
      rw [wait_of_closed closed]
      exact keeps.idle (fun _ => id) (fun _ => id) id nofun
    | false =>
      cases pending : keypad.pending with
      | none =>
        rw [wait_of_none closed pending]
        exact keeps.idle (fun _ => id) (fun _ => id) id nofun
      | some key =>
        rw [wait_of_some closed pending (keeps.down_of_pending pending)]
        exact keeps.take _

theorem Keeps.follow (keeps : keypad.Keeps history) {later : List Call}
    (followed : keypad.follow? later = some next) : next.Keeps (history ++ later) := by
  induction later generalizing keypad history with
  | nil =>
    cases followed
    rw [List.append_nil]
    exact keeps
  | cons call rest ih =>
    obtain ⟨middle, answered, onward⟩ := Option.bind_eq_some_iff.mp followed
    rw [List.append_cons]
    exact ih (keeps.call answered) onward

/-- What the answers of a keypad tell of its history. -/
structure AnswersBy (keypad : Keypad) (history : List Call) : Prop where
  isDown : ∀ byte, keypad.isDown (Key.ofByte byte) = true ↔ Held history (Key.ofByte byte)
  closed : keypad.wait.1 = .closed ↔ .close ∈ history
  /-- A wait is answered by the key of the latest press, if that press may still answer one. -/
  key : ∀ code, keypad.wait.1 = .key code ↔
    .close ∉ history ∧ ∃ key, Due history key ∧ code = UInt8.ofNat key.val
  held : ∀ code, keypad.wait.1 = .key code → keypad.isDown (Key.ofByte code) = true
  parked : keypad.wait.1 = .parked ↔ .close ∉ history ∧ ∀ key, ¬ Due history key
  /-- Unless it takes a press, a wait changes nothing. -/
  unchanged : (∀ code, keypad.wait.1 ≠ .key code) → keypad.wait.2 = keypad
  pending : ∀ key, keypad.pending = some key → keypad.isDown key = true

theorem ofByte_ofNat (key : Key) : Key.ofByte (UInt8.ofNat key.val) = key := by
  have small := key.isLt
  apply Fin.ext
  change key.val % 256 % 16 = key.val
  omega

theorem Keeps.answersBy (keeps : keypad.Keeps history) : keypad.AnswersBy history := by
  -- How a wait is answered depends on whether the keypad is closed, and then on what is pending.
  cases closed : keypad.closed with
  | true =>
    have asked := keeps.closed.mp closed
    have wait := wait_of_closed closed
    refine ⟨fun byte => keeps.down _, ?_, ?_, ?_, ?_, ?_, fun _ => keeps.down_of_pending⟩
    all_goals simp [wait, asked]
  | false =>
    have unasked : .close ∉ history := by
      rw [← keeps.closed, closed]
      exact Bool.false_ne_true
    cases pending : keypad.pending with
    | none =>
      have idle (key : Key) : ¬ Due history key := by
        rw [← keeps.pending, pending]
        exact (Option.some_ne_none key).symm
      have wait := wait_of_none closed pending
      refine ⟨fun byte => keeps.down _, ?_, ?_, ?_, ?_, ?_, fun _ => keeps.down_of_pending⟩
      all_goals simp [wait, unasked, idle]
    | some key =>
      have due := (keeps.pending key).mp pending
      have down := keeps.down_of_pending pending
      have wait := wait_of_some closed pending down
      have only (other : Key) (also : Due history other) : other = key := by
        have both := ((keeps.pending other).mpr also).symm.trans pending
        exact Option.some.inj both
      refine ⟨fun byte => keeps.down _, ?_, ?_, ?_, ?_, ?_, fun _ => keeps.down_of_pending⟩
      · simp [wait, unasked]
      · intro code
        rw [wait, Wait.key.injEq]
        constructor
        · intro same
          exact ⟨unasked, key, due, same.symm⟩
        · rintro ⟨-, other, also, rfl⟩
          rw [only other also]
      · intro code same
        rw [wait, Wait.key.injEq] at same
        rw [← same, ofByte_ofNat]
        exact down
      · refine iff_of_false (by simp [wait]) ?_
        exact fun idle => idle.2 key due
      · intro other
        exact absurd (congrArg Prod.fst wait) (other _)

/-- Between two waits that are answered by a key there is a press. -/
theorem press_between {before between after : List Call} {code other : UInt8}
    (followed : empty.follow? ((before ++ .wait (.key code) :: between) ++
      .wait (.key other) :: after) = some keypad) : ∃ byte, .press byte ∈ between := by
  rw [follow?, List.foldlM_append] at followed
  obtain ⟨middle, reached, onward⟩ := Option.bind_eq_some_iff.mp followed
  obtain ⟨next, answered, -⟩ := Option.bind_eq_some_iff.mp onward
  obtain ⟨wait, -⟩ := Option.ite_none_right_eq_some.mp answered
  have answers := (keeps_empty.follow reached).answersBy
  obtain ⟨-, key, due, -⟩ := (answers.key other).mp wait
  -- The press that answers the second wait is later than the first wait, or that wait would have
  -- taken it.
  have after_first : (∃ call ∈ Call.wait (.key code) :: between, call.Presses key) ∨
      ∀ call ∈ Call.wait (.key code) :: between,
        ¬ call.Lifts key ∧ ¬ call.Takes ∧ ∀ third, ¬ call.Presses third := Since.of_append due
  rcases after_first with ⟨call, listed, presses⟩ | idle
  · rcases List.mem_cons.mp listed with rfl | inside
    · exact presses.elim
    · cases call with
      | press byte => exact ⟨byte, inside⟩
      | _ => exact presses.elim
  · have takes : (Call.wait (.key code)).Takes := trivial
    exact absurd takes (idle _ List.mem_cons_self).2.1

/-- A keypad answers by its history. Whatever was asked of it, one thing after the other, a key is held
if it was pressed and has not gone up since; a wait ends without a key if the keypad was closed, and
otherwise is answered by the key of the latest press, if that key has not gone up since and no wait was
answered since; it goes on waiting in every other case. So a wait is answered by a key that is held, a
press answers one wait at most, and a wait that is not answered by a key changes nothing. -/
theorem answers_by_history (history : List Call) (keypad : Keypad)
    (followed : empty.follow? history = some keypad) :
    keypad.AnswersBy history ∧
    ∀ before code between other after,
      history = (before ++ .wait (.key code) :: between) ++ .wait (.key other) :: after →
      ∃ byte, .press byte ∈ between := by
  refine ⟨(keeps_empty.follow followed).answersBy, ?_⟩
  rintro before code between other after rfl
  exact press_between followed

/-- A second press takes the place of the first, and a wait is answered by it though the first key is
still held; after that no press is left for another wait. -/
theorem answers_by_history_overwritten :
    ∃ keypad, empty.follow? [.press 0x15, .press 7, .release 0x26, .wait (.key 7)] = some keypad ∧
      keypad.AnswersBy [.press 0x15, .press 7, .release 0x26, .wait (.key 7)] ∧
      keypad.isDown 5 = true ∧ keypad.wait = (.parked, keypad) :=
  ⟨_, rfl, (answers_by_history _ _ rfl).1, rfl, rfl⟩

end SuperChip.Keypad
