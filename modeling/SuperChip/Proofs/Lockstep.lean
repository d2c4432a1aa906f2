import SuperChip.Proofs.Lockstep.Relation

set_option autoImplicit false

namespace SuperChip

namespace Machine

/-- Whether two machines differ in their strategy at most. -/
structure Alike (left right : Machine) : Prop where
  state : left.state = right.state
  status : left.status = right.status
  program : left.program = right.program
  lastWord : left.lastWord = right.lastWord

theorem Alike.withTimers {left right : Machine} (alike : left.Alike right) (timers : Timers) :
    (left.withTimers timers).Alike (right.withTimers timers) := by
  obtain ⟨state, status, program, lastWord⟩ := alike
  refine ⟨?_, status, program, lastWord⟩
  simp only [Machine.withTimers, state]

/-- The instruction at the program counter does the same under both strategies. -/
theorem Alike.runInstruction {left right : Machine} (alike : left.Alike right) (held : Held) :
    PairedSteps Alike (left.runInstruction held) (right.runInstruction held) := by
  obtain ⟨state, status, program, lastWord⟩ := alike
  simp only [Machine.runInstruction, Strategy.resolve_eq, state, program]
  split <;> refine ⟨⟨rfl, ?_, rfl, rfl⟩, rfl, rfl⟩
  all_goals first | exact status | rfl

theorem Alike.resume {left right : Machine} {x : Register} (alike : left.Alike right)
    (awaiting : left.status = .awaitingKey x) (key : UInt8) :
    (left.resume key).1.Alike (right.resume key).1 := by
  have asked := alike.status.symm.trans awaiting
  simp only [Machine.resume, awaiting, asked, alike.state]
  exact ⟨rfl, rfl, alike.program, alike.lastWord⟩

theorem Alike.reset {left right : Machine} (alike : left.Alike right) :
    PairedResets Alike left.reset right.reset := by
  obtain ⟨state, status, program, lastWord⟩ := alike
  unfold Machine.reset
  rw [state, program]
  cases right.state.loadProgram right.program with
  | error error => rfl
  | ok loaded => exact ⟨⟨rfl, rfl, rfl, rfl⟩, rfl⟩

theorem lockstep_alike : Lockstep (fun _ => True) Alike where
  screen alike := congrArg State.screen alike.state
  timers alike := congrArg State.timers alike.state
  status alike := alike.status
  runs held alike _ _ := alike.runInstruction held
  takes key alike awaiting := alike.resume awaiting key
  withTimers timers alike := alike.withTimers timers
  resets alike := alike.reset

end Machine

namespace Console

/-- Whether two consoles have the same keys and machines that differ in their strategy at most. -/
structure Alike (left right : Console) : Prop where
  machine : left.machine.Alike right.machine
  keys : left.keys = right.keys

/-- Machines in lockstep stay so whatever is done to them, and answer alike. -/
theorem Alike.performAll {left right : Console} (alike : left.Alike right)
    (actions : List Action) :
    (left.performAll actions).1.Alike (right.performAll actions).1 ∧
      (left.performAll actions).2 = (right.performAll actions).2 := by
  obtain ⟨paired, given⟩ := Paired.performAll Machine.lockstep_alike ⟨alike.machine, alike.keys⟩
    actions fun _ _ _ _ => trivial
  exact ⟨⟨paired.machine, paired.keys⟩, given⟩

end Console

/-- The strategy of a machine cannot be told from what it does. A configuration is refused under both
strategies for one reason, or builds two machines that stand alike after any sequence of actions and
that have given the same answers and reported the same events by then. -/
theorem strategies_bisimilar (c : Configuration) (keys : KeySource) (actions : List Action) :
    (∃ error, Machine.build { c with strategy := .interpreter } = .error error ∧
      Machine.build { c with strategy := .table } = .error error) ∨
    ∃ decoding tabled events reported,
      Machine.build { c with strategy := .interpreter } = .ok (decoding, events) ∧
      Machine.build { c with strategy := .table } = .ok (tabled, reported) ∧
      decoding.strategy = .interpreter ∧ tabled.strategy = .table ∧
      ((Console.mk decoding keys).performAll actions).1.Alike
        ((Console.mk tabled keys).performAll actions).1 ∧
      ((Console.mk decoding keys).performAll actions).2 =
        ((Console.mk tabled keys).performAll actions).2 := by
  have starts (strategy : Strategy) :
      Configuration.initial { c with strategy } = c.initial := rfl
  simp only [Machine.build_eq, starts]
  cases c.initial with
  | error error => exact .inl ⟨error, rfl, rfl⟩
  | ok state =>
    refine .inr ⟨_, _, _, _, rfl, rfl, rfl, rfl, ?_⟩
    refine Console.Alike.performAll ?_ actions
    exact ⟨⟨rfl, rfl, rfl, rfl⟩, rfl⟩

end SuperChip
