import SuperChip.Proofs.FlowGuard
import SuperChip.Proofs.Visits

set_option autoImplicit false

namespace SuperChip

namespace Visit

def calls (visit : Visit) : Bool := visit.word.family == 2

def returns (visit : Visit) : Bool := visit.word == 0x00EE

/-- The sites of the calls outstanding, oldest first, after one more instruction. -/
def track (sites : List UInt16) (visit : Visit) : List UInt16 :=
  if visit.calls then sites ++ [visit.pc]
  else if visit.returns then sites.dropLast
  else sites

/-- The sites of the calls that have not returned, oldest first. -/
def outstanding (visits : List Visit) : List UInt16 := visits.foldl track []

/-- Whether a stretch returns from the latest `depth` calls before it and from all its own calls, and
from no other. -/
def Settles : Nat → List Visit → Prop
  | depth, [] => depth = 0
  | depth, visit :: rest =>
    if visit.calls then Settles (depth + 1) rest
    else if visit.returns then 0 < depth ∧ Settles (depth - 1) rest
    else Settles depth rest

/-- Whether a stretch returns from all its calls, and from no other. -/
abbrev Balanced (visits : List Visit) : Prop := Settles 0 visits

theorem Settles.foldl_track {visits : List Visit} {inner : List UInt16}
    (settles : Settles inner.length visits) (outer : List UInt16) :
    visits.foldl track (outer ++ inner) = outer := by
  induction visits generalizing inner with
  | nil =>
    rw [List.length_eq_zero_iff.mp settles, List.append_nil]
    rfl
  | cons visit rest ih =>
    rw [List.foldl_cons, track]
    rw [Settles] at settles
    split
    · rename_i calls
      rw [if_pos calls] at settles
      rw [List.append_assoc]
      apply ih
      rw [List.length_append]
      exact settles
    · rename_i calls
      rw [if_neg calls] at settles
      split
      · rename_i returns
        rw [if_pos returns] at settles
        have made : inner ≠ [] := List.ne_nil_of_length_pos settles.1
        rw [List.dropLast_append_of_ne_nil made]
        apply ih
        rw [List.length_dropLast]
        exact settles.2
      · rename_i returns
        rw [if_neg returns] at settles
        exact ih settles

end Visit

namespace Word

theorem family_of_call {mode : Mode} {word : Word} {target : UInt16}
    (decoded : word.decode mode = .call target) : word.family = 2 :=
  (spelledBy_of_decode decoded).1

theorem eq_of_ret {mode : Mode} {word : Word} (decoded : word.decode mode = .ret) :
    word = 0x00EE :=
  spelledBy_of_decode decoded

end Word

/-- Only calls and returns touch the call stack. -/
theorem Instruction.stack_execute {instruction : Instruction} (state : State) (held : Held)
    (uncalled : ∀ target, instruction ≠ .call target) (unreturned : instruction ≠ .ret) :
    (instruction.execute state held).state.stack = state.stack := by
  cases failure : instruction.failure? state with
  | some error => rw [execute_of_failure failure]
  | none =>
    have does := does_execute failure held
    generalize instruction.execute state held = executed at does
    cases does with
    | calls => exact absurd rfl (uncalled _)
    | returns => exact absurd rfl unreturned
    | _ => rfl

namespace CallStack

/-- Whether a stack has the addresses behind some sites, oldest first. -/
def Holds (stack : CallStack) (sites : List UInt16) : Prop :=
  stack.toList.map UInt16.toNat = sites.map fun site => site.toNat + 2

variable {stack after : CallStack} {sites : List UInt16} {address : UInt16}

theorem Holds.length_eq (holds : stack.Holds sites) : stack.toList.length = sites.length := by
  have lengths := congrArg List.length holds
  rwa [List.length_map, List.length_map] at lengths

theorem Holds.length_le (holds : stack.Holds sites) : sites.length ≤ 16 := by
  rw [← holds.length_eq, stack.length_toList]
  exact Nat.le_of_lt_succ stack.depth.isLt

theorem Holds.toList_eq (holds : stack.Holds sites) (same : after.Holds sites) :
    after.toList = stack.toList :=
  (List.map_inj_right fun _ _ => UInt16.toNat_inj.mp).mp (same.trans holds.symm)

theorem Holds.push (holds : stack.Holds sites) {site : UInt16} (within : site.toNat < 0x1000)
    (pushed : stack.push? (site + 2) = some after) : after.Holds (sites ++ [site]) := by
  have behind : (site + 2).toNat = site.toNat + 2 := by
    rw [UInt16.toNat_add]
    change (site.toNat + 2) % 65536 = site.toNat + 2
    omega
  rw [Holds, toList_of_push? pushed, List.map_append, List.map_append, holds, List.map_singleton,
    List.map_singleton, behind]

theorem Holds.pop (holds : stack.Holds sites) (popped : stack.pop? = some (address, after)) :
    ∃ outer site, sites = outer ++ [site] ∧ after.Holds outer ∧ address.toNat = site.toNat + 2 := by
  have used : sites ≠ [] := by
    intro empty
    have lengths := holds.length_eq
    rw [toList_of_pop? popped, empty] at lengths
    simp at lengths
  obtain ⟨outer, site, split⟩ := (List.eq_nil_or_concat sites).resolve_left used
  rw [List.concat_eq_append] at split
  subst split
  rw [Holds, toList_of_pop? popped, List.map_append, List.map_append] at holds
  obtain ⟨older, latest⟩ := List.append_inj' holds rfl
  exact ⟨outer, site, rfl, older, (List.cons.inj latest).1⟩

end CallStack

namespace Machine

variable {c : Configuration} {first machine : Machine} {visits : List Visit}
  {sites outer : List UInt16}

theorem instruction_of_call (family : machine.word.family = 2) :
    machine.instruction = .call machine.word.address :=
  Word.decode_call _ family

theorem instruction_of_ret (ret : machine.word = 0x00EE) : machine.instruction = .ret := by
  rw [instruction, ret, Word.decode_ret]

theorem overflow_iff (running : machine.status = .running) (family : machine.word.family = 2)
    (holds : machine.state.stack.Holds sites) (held : Held) :
    (machine.step held).outcome = .error (.stackOverflow machine.state.pc) ↔ sites.length = 16 := by
  rw [outcome_eq_error_iff held running, instruction_of_call family, ← holds.length_eq,
    CallStack.length_toList]
  simp only [Instruction.failure?, Option.ite_none_right_eq_some, and_true]
  exact Fin.ext_iff

theorem underflow_iff (running : machine.status = .running) (ret : machine.word = 0x00EE)
    (holds : machine.state.stack.Holds sites) (held : Held) :
    (machine.step held).outcome = .error (.stackUnderflow machine.state.pc) ↔ sites = [] := by
  rw [outcome_eq_error_iff held running, instruction_of_ret ret, ← List.length_eq_zero_iff,
    ← holds.length_eq, CallStack.length_toList]
  simp only [Instruction.failure?, Option.ite_none_right_eq_some, and_true]
  exact Fin.ext_iff

/-- A call that finds room is entered behind the others. -/
theorem Sound.call (sound : machine.Sound c) (running : machine.status = .running)
    (family : machine.word.family = 2) (holds : machine.state.stack.Holds sites)
    (room : sites.length < 16) (held : Held) :
    (machine.step held).outcome = .ok .proceeded ∧
    (machine.step held).machine.state.pc.toNat = machine.word.address.toNat % 4096 ∧
    (machine.step held).machine.state.stack.Holds (sites ++ [machine.state.pc]) := by
  have calls := instruction_of_call family
  cases pushed : machine.state.stack.push? (machine.state.pc + 2) with
  | none =>
    rw [CallStack.push?_eq_none_iff, holds.length_eq] at pushed
    omega
  | some after =>
    have executed : machine.instruction.execute machine.state held =
        ⟨{ machine.state with stack := after }.goTo machine.word.address, .ok .next⟩ := by
      rw [calls]
      simp only [Instruction.execute, State.call, pushed]
    rw [step_of_running held running, runInstruction_outcome, runInstruction_machine, executed]
    refine ⟨rfl, ?_, holds.push (sound.call_within calls) pushed⟩
    change machine.word.address.toNat % 4096 % 65536 = machine.word.address.toNat % 4096
    omega

/-- A return takes the latest call from the others and goes on behind it. -/
theorem step_of_ret (running : machine.status = .running) (ret : machine.word = 0x00EE)
    {site : UInt16} (holds : machine.state.stack.Holds (outer ++ [site])) (held : Held) :
    (machine.step held).outcome = .ok .proceeded ∧
    (machine.step held).machine.state.pc.toNat = (site.toNat + 2) % 4096 ∧
    (machine.step held).machine.state.stack.Holds outer := by
  have returns := instruction_of_ret ret
  cases popped : machine.state.stack.pop? with
  | none =>
    have lengths := holds.length_eq
    rw [CallStack.pop?_eq_none_iff] at popped
    rw [popped, List.length_append] at lengths
    cases lengths
  | some top =>
    obtain ⟨address, after⟩ := top
    have executed : machine.instruction.execute machine.state held =
        ⟨{ machine.state with stack := after }.goTo address, .ok .next⟩ := by
      rw [returns]
      simp only [Instruction.execute, State.ret, popped]
    obtain ⟨older, latest, same, kept, behind⟩ := holds.pop popped
    obtain ⟨rfl, last⟩ := List.append_inj' same rfl
    obtain ⟨rfl, _⟩ := List.cons.inj last
    rw [step_of_running held running, runInstruction_outcome, runInstruction_machine, executed]
    refine ⟨rfl, ?_, kept⟩
    change address.toNat % 4096 % 65536 = (site.toNat + 2) % 4096
    omega

theorem stack_step (running : machine.status = .running) (uncalled : machine.word.family ≠ 2)
    (unreturned : machine.word ≠ 0x00EE) (held : Held) :
    (machine.step held).machine.state.stack = machine.state.stack := by
  rw [step_of_running held running, runInstruction_machine]
  apply Instruction.stack_execute
  · exact fun target calls => uncalled (Word.family_of_call calls)
  · exact fun returns => unreturned (Word.eq_of_ret returns)

/-- A step keeps the stack in line with the calls that are outstanding. -/
theorem Sound.track (sound : machine.Sound c) (holds : machine.state.stack.Holds sites)
    (held : Held) :
    (machine.step held).machine.state.stack.Holds
      ((machine.visits held).foldl Visit.track sites) := by
  by_cases running : machine.status = .running
  · cases result : (machine.step held).outcome with
    | error error =>
      rw [visits_of_error result, state_of_error held running result]
      exact holds
    | ok outcome =>
      rw [visits_of_ok running result]
      change CallStack.Holds _ (Visit.track sites ⟨machine.state.pc, machine.word⟩)
      unfold Visit.track
      split
      · rename_i calls
        have family : machine.word.family = 2 := beq_iff_eq.mp calls
        have full : sites.length ≠ 16 := by
          intro full
          rw [(overflow_iff running family holds held).mpr full] at result
          cases result
        have bound := holds.length_le
        exact (sound.call running family holds (by omega) held).2.2
      · rename_i uncalled
        split
        · rename_i returns
          have ret : machine.word = 0x00EE := beq_iff_eq.mp returns
          have used : sites ≠ [] := by
            intro empty
            rw [(underflow_iff running ret holds held).mpr empty] at result
            cases result
          rw [← List.dropLast_concat_getLast used] at holds
          exact (step_of_ret running ret holds held).2.2
        · rename_i unreturned
          rw [stack_step running (fun family => uncalled (beq_iff_eq.mpr family))
            (fun ret => unreturned (beq_iff_eq.mpr ret))]
          exact holds
  · rw [visits_of_standing held running, step_of_standing held running]
    exact holds

/-- On the way of a machine the stack stays in line with the calls that are outstanding. -/
theorem Passes.holds (passes : first.Passes visits machine) (reachable : Reachable c first)
    (holds : first.state.stack.Holds sites) :
    machine.state.stack.Holds (visits.foldl Visit.track sites) := by
  induction passes with
  | stay => exact holds
  | step held earlier ih =>
    rw [List.foldl_append]
    exact (earlier.reachable reachable).sound.track ih held
  | tick _ ih => exact ih
  | @resume visits later key _ ih =>
    have same : (later.resume key).1.state.stack = later.state.stack := by
      unfold Machine.resume
      split <;> rfl
    rw [same]
    exact ih
  | withTimers timers _ ih => exact ih

theorem Fresh.stack_eq (fresh : Fresh c machine) : machine.state.stack = .empty := by
  cases fresh with
  | built success =>
    obtain ⟨state, starts, rfl⟩ := of_build success
    obtain ⟨font, _, loads⟩ := Configuration.initial_eq_ok starts
    obtain ⟨_, rfl⟩ := (State.loadProgram_eq_ok_iff _ _ _).mp loads
    rfl
  | reset reachable success =>
    obtain ⟨state, loads, rfl⟩ := of_reset success
    obtain ⟨_, rfl⟩ := (State.loadProgram_eq_ok_iff _ _ _).mp loads
    rfl

/-- What it means for a machine to keep the calls made at `sites`, which have not returned yet. -/
structure KeepsCalls (machine : Machine) (sites : List UInt16) : Prop where
  lists : machine.state.stack.toList.map UInt16.toNat = sites.map fun site => site.toNat + 2
  call : machine.status = .running → machine.word.family = 2 → ∀ held,
    ((machine.step held).outcome = .error (.stackOverflow machine.state.pc) ↔
      sites.length = 16) ∧
    (sites.length ≠ 16 → (machine.step held).outcome = .ok .proceeded ∧
      (machine.step held).machine.state.pc.toNat = machine.word.address.toNat % 4096)
  ret : machine.status = .running → machine.word = 0x00EE → ∀ held,
    ((machine.step held).outcome = .error (.stackUnderflow machine.state.pc) ↔ sites = []) ∧
    ∀ outer site, sites = outer ++ [site] → (machine.step held).outcome = .ok .proceeded ∧
      (machine.step held).machine.state.pc.toNat = (site.toNat + 2) % 4096
  other : machine.status = .running → machine.word.family ≠ 2 → machine.word ≠ 0x00EE →
    ∀ held, (machine.step held).machine.state.stack = machine.state.stack

theorem Sound.keepsCalls (sound : machine.Sound c) (holds : machine.state.stack.Holds sites) :
    machine.KeepsCalls sites where
  lists := holds
  call := by
    intro running family held
    refine ⟨overflow_iff running family holds held, fun free => ?_⟩
    have bound := holds.length_le
    obtain ⟨proceeds, target, _⟩ := sound.call running family holds (by omega) held
    exact ⟨proceeds, target⟩
  ret := by
    intro running ret held
    refine ⟨underflow_iff running ret holds held, ?_⟩
    rintro outer site rfl
    obtain ⟨proceeds, behind, _⟩ := step_of_ret running ret holds held
    exact ⟨proceeds, behind⟩
  other := stack_step

/-- Whether a machine came from `first` to the word at `pc` by the calls and returns listed, and by
nothing else. -/
structure Led (first : Machine) (visits : List Visit) (pc : UInt16) (machine : Machine) : Prop where
  passes : first.Passes visits machine
  running : machine.status = .running
  memory : machine.state.memory = first.state.memory
  pc : machine.state.pc = pc

theorem Led.word_eq {pc : UInt16} (led : first.Led visits pc machine) :
    machine.word = first.state.memory.fetch pc := by
  rw [word, State.fetch, led.memory, led.pc]

/-- A call or a return that succeeds leads on, and leaves memory as it is. -/
theorem Led.flow {pc next : UInt16} (led : first.Led visits pc machine)
    (flows : machine.word.family = 2 ∨ machine.word = 0x00EE) {held : Held}
    (proceeds : (machine.step held).outcome = .ok .proceeded)
    (leads : (machine.step held).machine.state.pc.toNat = next.toNat) :
    first.Led (visits ++ [⟨pc, machine.word⟩]) next (machine.step held).machine := by
  refine ⟨?_, ?_, ?_, UInt16.toNat_inj.mp leads⟩
  · have stepped := led.passes.step held
    rw [visits_of_ok led.running proceeds, led.pc] at stepped
    rw [word, led.pc]
    exact stepped
  · have answers := machine.step_answers held
    rw [proceeds] at answers
    cases standing : (machine.step held).machine.status with
    | running => rfl
    | _ =>
      rw [standing] at answers
      cases answers
  · rw [← led.memory, step_of_running held led.running, runInstruction_machine]
    rcases flows with family | ret
    · rw [instruction_of_call family, Instruction.execute, State.call]
      split <;> rfl
    · rw [instruction_of_ret ret, Instruction.execute, State.ret]
      split <;> rfl

/-- A call that finds room leads to its target. -/
theorem Led.call {pc : UInt16} {word : Word} (led : first.Led visits pc machine)
    (keeps : machine.KeepsCalls sites) (reads : machine.word = word) (family : word.family = 2)
    (room : sites.length ≠ 16) (held : Held) :
    first.Led (visits ++ [⟨pc, word⟩]) word.address (machine.step held).machine := by
  subst reads
  obtain ⟨proceeds, enters⟩ := (keeps.call led.running family held).2 room
  refine led.flow (.inl family) proceeds (enters.trans ?_)
  change machine.word.toNat % 4096 % 65536 % 4096 = machine.word.toNat % 4096 % 65536
  omega

/-- A return leads behind the latest call. -/
theorem Led.ret {pc site : UInt16} (led : first.Led visits pc machine)
    (keeps : machine.KeepsCalls (outer ++ [site])) (reads : machine.word = 0x00EE) (held : Held) :
    first.Led (visits ++ [⟨pc, 0x00EE⟩]) (UInt16.ofNat ((site.toNat + 2) % 4096))
      (machine.step held).machine := by
  obtain ⟨proceeds, behind⟩ := (keeps.ret led.running reads held).2 outer site rfl
  rw [← reads]
  refine led.flow (.inr reads) proceeds (behind.trans ?_)
  change (site.toNat + 2) % 4096 = (site.toNat + 2) % 4096 % 65536
  omega

/-- The call stack is the list of the calls that have not returned. Every machine that comes from a
configuration is on its way from one that was just built or reset, and so is every run; the stack
lists the addresses behind the calls that are outstanding on that way. A call fails exactly if
sixteen are outstanding and a return exactly if none is; a return goes on behind the latest call; and
no other instruction touches the stack. A balanced stretch leaves the stack as it was, and the return
after it goes on behind the call before it. -/
theorem calls_return_in_order (c : Configuration) :
    (∀ machine, Reachable c machine → ∃ first visits, Fresh c first ∧ first.Passes visits machine) ∧
    ∀ first visits machine, Fresh c first → first.Passes visits machine →
      machine.KeepsCalls (Visit.outstanding visits) ∧
      (∀ {σ : Type} (host : Host σ) (count : Nat) (s : σ),
        ∃ more, first.Passes (visits ++ more) (machine.run host count s).2.1) ∧
      (∀ stretch later, machine.Passes stretch later → Visit.Balanced stretch →
        later.state.stack.toList = machine.state.stack.toList) ∧
      ∀ held stretch later, machine.status = .running → machine.word.family = 2 →
        (Visit.outstanding visits).length ≠ 16 →
        (machine.step held).machine.Passes stretch later → Visit.Balanced stretch →
        later.status = .running → later.word = 0x00EE → ∀ held,
          (later.step held).outcome = .ok .proceeded ∧
          (later.step held).machine.state.pc.toNat = (machine.state.pc.toNat + 2) % 4096 ∧
          (later.step held).machine.state.stack.toList = machine.state.stack.toList := by
  refine ⟨fun _ => exists_passes, ?_⟩
  intro first visits machine fresh passes
  have reachable := passes.reachable fresh.reachable
  have holds : machine.state.stack.Holds (Visit.outstanding visits) := by
    refine passes.holds fresh.reachable ?_
    rw [fresh.stack_eq]
    rfl
  refine ⟨reachable.sound.keepsCalls holds, passes.run, ?_, ?_⟩
  · intro stretch later stretches balanced
    have kept := stretches.holds reachable holds
    have settled := @Visit.Settles.foldl_track _ [] balanced (Visit.outstanding visits)
    rw [List.append_nil] at settled
    rw [settled] at kept
    exact holds.toList_eq kept
  · intro held stretch later running family free stretches balanced returning ret held'
    have bound := holds.length_le
    obtain ⟨_, _, called⟩ := reachable.sound.call running family holds (by omega) held
    have kept := stretches.holds (.step held reachable) called
    have settled := @Visit.Settles.foldl_track _ [] balanced
      (Visit.outstanding visits ++ [machine.state.pc])
    rw [List.append_nil] at settled
    rw [settled] at kept
    obtain ⟨proceeds, behind, outer⟩ := step_of_ret returning ret kept held'
    exact ⟨proceeds, behind, holds.toList_eq outer⟩

/-- A routine that was called calls another one, which calls a third before it returns. -/
theorem calls_return_in_order_nested :
    ∃ first, Fresh { program := #[0x22, 0x04, 0x12, 0x02, 0x22, 0x08, 0x00, 0xEE, 0x22, 0x0C,
        0x00, 0xEE, 0x00, 0xEE] } first ∧
      ∀ held, ∃ machine later, first.Passes [⟨0x200, 0x2204⟩] machine ∧ machine.word = 0x2208 ∧
        (machine.step held).machine.Passes [⟨0x208, 0x220C⟩, ⟨0x20C, 0x00EE⟩] later ∧
        Visit.Balanced [⟨0x208, 0x220C⟩, ⟨0x20C, 0x00EE⟩] ∧ later.word = 0x00EE ∧
        (later.step held).outcome = .ok .proceeded ∧
        (later.step held).machine.state.pc.toNat = 0x206 ∧
        (later.step held).machine.state.stack.toList = machine.state.stack.toList ∧
        machine.state.stack.toList.map UInt16.toNat = [0x202] := by
  obtain ⟨start, events, success⟩ : ∃ machine events,
      build { program := #[0x22, 0x04, 0x12, 0x02, 0x22, 0x08, 0x00, 0xEE, 0x22, 0x0C,
        0x00, 0xEE, 0x00, 0xEE] } = .ok (machine, events) :=
    ⟨_, _, rfl⟩
  have fresh : Fresh _ start := .built success
  have keeps {visits : List Visit} {machine : Machine} (passes : start.Passes visits machine) :=
    ((calls_return_in_order _).2 start visits machine fresh passes).1
  refine ⟨start, fresh, fun held => ?_⟩
  have main : start.Led [] 0x200 start :=
    ⟨.stay, running_of_build success, rfl, pc_of_build success⟩
  have outer : start.Led [⟨0x200, 0x2204⟩] 0x204 _ :=
    main.call (keeps .stay)
      (main.word_eq.trans (fetch_of_build success (by decide) (by decide))) rfl (by decide) held
  generalize (start.step held).machine = machine at outer
  have calls : machine.word = 0x2208 :=
    outer.word_eq.trans (fetch_of_build success (by decide) (by decide))
  have middle : start.Led [⟨0x200, 0x2204⟩, ⟨0x204, 0x2208⟩] 0x208 _ :=
    outer.call (keeps outer.passes) calls rfl (by decide) held
  have callsInner : (machine.step held).machine.word = 0x220C :=
    middle.word_eq.trans (fetch_of_build success (by decide) (by decide))
  have inner : start.Led [⟨0x200, 0x2204⟩, ⟨0x204, 0x2208⟩, ⟨0x208, 0x220C⟩] 0x20C _ :=
    middle.call (keeps middle.passes) callsInner rfl (by decide) held
  have returns : ((machine.step held).machine.step held).machine.word = 0x00EE :=
    inner.word_eq.trans (fetch_of_build success (by decide) (by decide))
  have keepsInner : ((machine.step held).machine.step held).machine.KeepsCalls
      ([0x200, 0x204] ++ [0x208]) := keeps inner.passes
  have back : start.Led _ 0x20A _ := inner.ret keepsInner returns held
  have later : _ = (0x00EE : Word) :=
    back.word_eq.trans (fetch_of_build success (by decide) (by decide))
  -- The innermost routine is called and returns before the middle one does.
  have entered : (machine.step held).machine.Led [] 0x208 (machine.step held).machine :=
    ⟨.stay, middle.running, rfl, middle.pc⟩
  have stretch : (machine.step held).machine.Led [⟨0x208, 0x220C⟩, ⟨0x20C, 0x00EE⟩] 0x20A _ :=
    (entered.call (keeps middle.passes) callsInner rfl (by decide) held).ret keepsInner returns held
  have balanced : Visit.Balanced [⟨0x208, 0x220C⟩, ⟨0x20C, 0x00EE⟩] := ⟨Nat.one_pos, rfl⟩
  obtain ⟨keepsOuter, _, _, returned⟩ :=
    (calls_return_in_order _).2 start _ machine fresh outer.passes
  obtain ⟨proceeds, behind, same⟩ := returned held _ _ outer.running (by rw [calls]; rfl) (by decide)
    stretch.passes balanced stretch.running later held
  rw [outer.pc] at behind
  exact ⟨machine, _, outer.passes, calls, stretch.passes, balanced, later, proceeds, behind, same,
    keepsOuter.lists⟩

end Machine

end SuperChip
