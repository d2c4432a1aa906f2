import SuperChip.Proofs.Lockstep.Relation

set_option autoImplicit false

namespace SuperChip

namespace State

/-- A state with another index and another choice of keeping it within twelve bits. -/
def reindexed (state : State) (index : UInt16) (masked : Bool) : State :=
  { state with index, compatibility := { state.compatibility with maskIndex := masked } }

/-- Whether two states differ in the index and in the choice of masking it at most, with indices that
name the same byte of memory. -/
structure SameButIndex (left right : State) : Prop where
  rest : right = left.reindexed right.index right.compatibility.maskIndex
  index : left.index.toNat % 4096 = right.index.toNat % 4096

theorem sameButIndex_reindexed (state : State) {index : UInt16} (masked : Bool)
    (same : state.index.toNat % 4096 = index.toNat % 4096) :
    state.SameButIndex (state.reindexed index masked) :=
  ⟨rfl, same⟩

/-- What is done to both states, and leaves the index and the choice alone, keeps them so. -/
theorem SameButIndex.map {left right : State} (same : left.SameButIndex right) (f : State → State)
    (commutes : ∀ index masked, f (left.reindexed index masked) = (f left).reindexed index masked)
    (keeps : (f left).index = left.index) : (f left).SameButIndex (f right) := by
  rw [same.rest, commutes]
  apply sameButIndex_reindexed
  rw [keeps]
  exact same.index

theorem sameButIndex_of_initial {c : Configuration} {compatibility : Compatibility} {state : State}
    (starts : Configuration.initial { c with
      compatibility := some { compatibility with maskIndex := false } } = .ok state) :
    state.SameButIndex (state.recast c.mode { compatibility with maskIndex := true }) := by
  obtain ⟨font, _, loads⟩ := Configuration.initial_eq_ok starts
  obtain ⟨_, rfl⟩ := (State.loadProgram_eq_ok_iff _ _ _).mp loads
  exact ⟨rfl, rfl⟩

theorem indexAfterCopy_congr (state : State) {index : UInt16} (masked : Bool)
    (same : state.index.toNat % 4096 = index.toNat % 4096) (x : Register) :
    (state.indexAfterCopy x).toNat % 4096 =
      ((state.reindexed index masked).indexAfterCopy x).toNat % 4096 := by
  change (if state.compatibility.loadStoreIncrement then state.index + UInt16.ofNat (x.val + 1)
    else state.index).toNat % 4096 =
      (if state.compatibility.loadStoreIncrement then index + UInt16.ofNat (x.val + 1)
        else index).toNat % 4096
  split
  · exact Memory.add_congr same _
  · exact same

/-- Masked or not, the low twelve bits are those of the sum. -/
theorem index_addIndex (state : State) (x : Register) :
    (state.addIndex x).state.index.toNat % 4096 =
      (state.index + (state.register x).toUInt16).toNat % 4096 := by
  change (if state.compatibility.maskIndex then
      UInt16.ofNat ((state.index + (state.register x).toUInt16).toNat % 4096)
    else state.index + (state.register x).toUInt16).toNat % 4096 = _
  split
  · change _ % 4096 % 65536 % 4096 = _
    omega
  · rfl

end State

/-- An instruction sees no more of the index than its low twelve bits. -/
theorem Instruction.execute_reindexed (instruction : Instruction) (state : State) (held : Held)
    {index : UInt16} (masked : Bool) (same : state.index.toNat % 4096 = index.toNat % 4096) :
    ∃ next : UInt16,
      (instruction.execute state held).state.index.toNat % 4096 = next.toNat % 4096 ∧
      instruction.execute (state.reindexed index masked) held =
        ⟨(instruction.execute state held).state.reindexed next masked,
          (instruction.execute state held).result⟩ := by
  -- An instruction that sets the index sets both alike; one that adds to it keeps the low bits in
  -- common; one that uses it to address memory looks at the low bits only; the others ignore it.
  cases instruction with
  | setIndex target => exact ⟨target, rfl, rfl⟩
  | glyph x => exact ⟨_, rfl, rfl⟩
  | bigGlyph x => exact ⟨_, rfl, rfl⟩
  | addIndex x =>
    refine ⟨_, ?_, rfl⟩
    change (state.addIndex x).state.index.toNat % 4096 =
      ((state.reindexed index masked).addIndex x).state.index.toNat % 4096
    rw [State.index_addIndex, State.index_addIndex]
    exact Memory.add_congr same _
  | draw x y rows =>
    refine ⟨index, same, ?_⟩
    have sprite := state.memory.readMany_congr same rows.val
    simp only [execute, State.draw, sprite]
    rfl
  | drawWide x y =>
    refine ⟨index, same, ?_⟩
    have sprite := state.memory.readMany_congr same 32
    simp only [execute, State.drawWide, sprite]
    rfl
  | decimal x =>
    refine ⟨index, same, ?_⟩
    have digits := state.memory.writeMany_congr same (State.decimalDigits (state.register x))
    simp only [execute, State.decimal, digits]
    rfl
  | store x =>
    refine ⟨_, state.indexAfterCopy_congr masked same x, ?_⟩
    have stored := state.memory.writeMany_congr same (state.registers.toList.take (x.val + 1))
    simp only [execute, State.store, stored]
    rfl
  | load x =>
    refine ⟨_, state.indexAfterCopy_congr masked same x, ?_⟩
    have loaded (r : Register) := state.memory.read_congr
      (Memory.add_congr same (UInt16.ofNat r.val))
    simp only [execute, State.load, loaded]
    rfl
  | ret =>
    have stack : (state.reindexed index masked).stack = state.stack := rfl
    simp only [execute, State.ret, stack]
    cases state.stack.pop? with
    | none => exact ⟨index, same, rfl⟩
    | some top => exact ⟨index, same, rfl⟩
  | call target =>
    have stack : (state.reindexed index masked).stack.push? (state.pc + 2) =
      state.stack.push? (state.pc + 2) := rfl
    have pc : (state.reindexed index masked).pc = state.pc := rfl
    simp only [execute, State.call, pc, stack]
    cases state.stack.push? (state.pc + 2) with
    | none => exact ⟨index, same, rfl⟩
    | some pushed => exact ⟨index, same, rfl⟩
  | guard =>
    have pc : (state.reindexed index masked).pc = state.pc := rfl
    simp only [execute, State.guard, pc]
    split
    · exact ⟨index, same, rfl⟩
    · exact ⟨index, same, rfl⟩
  | _ => exact ⟨index, same, rfl⟩

theorem State.lockstep_sameButIndex : State.Lockstep (fun _ => True) State.SameButIndex where
  screen same := by
    rw [same.rest]
    rfl
  timers same := by
    rw [same.rest]
    rfl
  pc same := by
    rw [same.rest]
    rfl
  fetches address same := by
    rw [same.rest]
    rfl
  reads same _ := by
    rw [same.rest]
    rfl
  executes {left right} instruction held same := by
    obtain ⟨next, index, executed⟩ := instruction.execute_reindexed left held
      right.compatibility.maskIndex same.index
    rw [← same.rest] at executed
    rw [executed]
    exact ⟨State.sameButIndex_reindexed _ _ index, rfl⟩
  takes x key same := same.map (·.deliverKey x key) (fun _ _ => rfl) rfl
  withTimers timers same := same.map (fun state => { state with timers }) (fun _ _ => rfl) rfl
  loads program same := by
    rw [same.rest]
    exact ⟨rfl, rfl⟩

/-- Whether adding to the index keeps it within twelve bits shows in the index only. A configuration
is refused with either choice for one reason, or builds two machines that answer and report the same
to any sequence of actions, and that by then differ in the high bits of the index at most. -/
theorem masking_unobservable (c : Configuration) (compatibility : Compatibility) (keys : KeySource)
    (actions : List Action) :
    (∃ error,
      Machine.build { c with
        compatibility := some { compatibility with maskIndex := false } } = .error error ∧
      Machine.build { c with
        compatibility := some { compatibility with maskIndex := true } } = .error error) ∨
    ∃ plain masked events reported,
      Machine.build { c with
        compatibility := some { compatibility with maskIndex := false } } = .ok (plain, events) ∧
      Machine.build { c with
        compatibility := some { compatibility with maskIndex := true } } = .ok (masked, reported) ∧
      ((Console.mk plain keys).performAll actions).2 =
        ((Console.mk masked keys).performAll actions).2 ∧
      ((Console.mk plain keys).performAll actions).1.keys =
        ((Console.mk masked keys).performAll actions).1.keys ∧
      Machine.Related State.SameButIndex
        ((Console.mk plain keys).performAll actions).1.machine
        ((Console.mk masked keys).performAll actions).1.machine := by
  have starts := c.initial_recast c.mode c.mode { compatibility with maskIndex := false }
    { compatibility with maskIndex := true }
  rcases Machine.build_paired starts with refused | ⟨state, events, reported, starts, plain, masked⟩
  · exact .inl refused
  · refine .inr ⟨_, _, events, reported, plain, masked, ?_⟩
    have start : Machine.Related State.SameButIndex ⟨state, c.strategy, .running, c.program, 0⟩
        ⟨state.recast c.mode { compatibility with maskIndex := true }, c.strategy, .running,
          c.program, 0⟩ :=
      ⟨State.sameButIndex_of_initial starts, rfl, rfl, rfl, rfl⟩
    have consoles : Console.Paired (Machine.Related State.SameButIndex) ⟨_, keys⟩ ⟨_, keys⟩ :=
      ⟨start, rfl⟩
    obtain ⟨paired, given⟩ := consoles.performAll
      (Machine.lockstep_related State.lockstep_sameButIndex) actions fun _ _ _ _ => trivial
    exact ⟨given, paired.keys, paired.machine⟩

end SuperChip
