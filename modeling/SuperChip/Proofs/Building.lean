import SuperChip.Machine

set_option autoImplicit false

namespace SuperChip

theorem State.setFont_eq_ok_iff (state lettered : State) (bytes : Array UInt8) :
    state.setFont bytes = .ok lettered ↔
      ∃ font, Font.ofBytes? bytes = some font ∧ lettered = { state with font } := by
  unfold State.setFont
  cases Font.ofBytes? bytes with
  | none => simp
  | some font => simp [eq_comm]

theorem State.loadProgram_eq_ok_iff (state loaded : State) (program : Array UInt8) :
    state.loadProgram program = .ok loaded ↔
      (0 < program.size ∧ program.size ≤ Memory.programLimit) ∧
      loaded = { state.reset with memory := (Memory.blank state.font).withProgram program } := by
  unfold State.loadProgram
  split
  · simp
    omega
  · split
    · simp
      omega
    · rename_i positive fits
      simp only [Except.ok.injEq, eq_comm (a := loaded)]
      constructor
      · exact fun same => ⟨by omega, same⟩
      · exact fun loads => loads.2

/-- Whether a program is loaded, and why it is refused, does not depend on the state. -/
theorem State.loadProgram_uniform (program : Array UInt8) :
    (∃ error, ∀ state : State, state.loadProgram program = .error error) ∨
    ∀ state : State, state.loadProgram program =
      .ok { state.reset with memory := (Memory.blank state.font).withProgram program } := by
  unfold State.loadProgram
  split
  · exact .inl ⟨_, fun _ => rfl⟩
  · split
    · exact .inl ⟨_, fun _ => rfl⟩
    · exact .inr fun _ => rfl

theorem State.pc_of_loadProgram {state loaded : State} {program : Array UInt8}
    (success : state.loadProgram program = .ok loaded) : loaded.pc = Memory.programStart := by
  obtain ⟨_, rfl⟩ := (state.loadProgram_eq_ok_iff loaded program).mp success
  rfl

/-- The state that a machine starts in: powered on, with the font and the program asked for. -/
def Configuration.initial (c : Configuration) : Except MachineError State := do
  let compatibility := c.compatibility.getD (.ofMode c.mode)
  let blank := State.powerOn c.mode compatibility c.policy c.seed c.source
  let lettered ←
    match c.font with
    | some font => blank.setFont font
    | none => .ok blank
  lettered.loadProgram c.program

theorem Configuration.initial_eq_ok {c : Configuration} {state : State}
    (starts : c.initial = .ok state) :
    ∃ font : Font, font.toArray = c.font.getD Font.standard.toArray ∧
      State.loadProgram { State.powerOn c.mode (c.compatibility.getD (.ofMode c.mode)) c.policy
        c.seed c.source with font } c.program = .ok state := by
  unfold Configuration.initial at starts
  cases chosen : c.font with
  | none =>
    rw [chosen] at starts
    exact ⟨Font.standard, rfl, starts⟩
  | some bytes =>
    rw [chosen] at starts
    dsimp only at starts
    cases letters : State.setFont (.powerOn c.mode (c.compatibility.getD (.ofMode c.mode)) c.policy
        c.seed c.source) bytes with
    | error error =>
      rw [letters] at starts
      cases starts
    | ok lettered =>
      rw [letters] at starts
      obtain ⟨font, taken, rfl⟩ := (State.setFont_eq_ok_iff _ _ _).mp letters
      refine ⟨font, ?_, starts⟩
      unfold Font.ofBytes? at taken
      split at taken
      · cases taken
        rfl
      · cases taken

/-- A state with other choices of the instruction set and of the points on which interpreters
differ. -/
def State.recast (state : State) (mode : Mode) (compatibility : Compatibility) : State :=
  { state with mode, compatibility }

theorem State.setFont_recast (state : State) (mode : Mode) (compatibility : Compatibility)
    (bytes : Array UInt8) :
    (state.recast mode compatibility).setFont bytes =
      (state.setFont bytes).map (·.recast mode compatibility) := by
  unfold State.setFont
  cases Font.ofBytes? bytes <;> rfl

theorem State.loadProgram_recast (state : State) (mode : Mode) (compatibility : Compatibility)
    (program : Array UInt8) :
    (state.recast mode compatibility).loadProgram program =
      (state.loadProgram program).map (·.recast mode compatibility) := by
  rcases State.loadProgram_uniform program with ⟨error, refused⟩ | loads
  · rw [refused, refused]
    rfl
  · rw [loads, loads]
    rfl

/-- The choices of a machine are no part of how its first state is set up. -/
theorem Configuration.initial_recast (c : Configuration) (mode other : Mode)
    (compatibility alternative : Compatibility) :
    Configuration.initial { c with mode := other, compatibility := some alternative } =
      (Configuration.initial { c with mode, compatibility := some compatibility }).map
        (·.recast other alternative) := by
  have blank : State.powerOn other alternative c.policy c.seed c.source =
      (State.powerOn mode compatibility c.policy c.seed c.source).recast other alternative := rfl
  unfold Configuration.initial
  simp only [Option.getD_some, blank]
  cases c.font with
  | none => exact State.loadProgram_recast _ _ _ _
  | some font =>
    simp only [State.setFont_recast]
    cases (State.powerOn mode compatibility c.policy c.seed c.source).setFont font with
    | error error => rfl
    | ok lettered => exact lettered.loadProgram_recast other alternative c.program

theorem Machine.build_eq (c : Configuration) :
    Machine.build c = c.initial.map fun state =>
      (⟨state, c.strategy, .running, c.program, 0⟩,
        [.loaded c.program.size,
          .built c.mode c.strategy c.policy (c.compatibility.getD (.ofMode c.mode))]) := by
  unfold Machine.build Configuration.initial
  simp only [bind, Except.bind, Except.map]
  generalize State.powerOn c.mode (c.compatibility.getD (.ofMode c.mode)) c.policy c.seed
    c.source = blank
  cases c.font with
  | none =>
    dsimp only
    cases blank.loadProgram c.program <;> rfl
  | some font =>
    dsimp only
    cases blank.setFont font with
    | error error => rfl
    | ok lettered =>
      dsimp only
      cases lettered.loadProgram c.program <;> rfl

namespace Machine

/-- Two configurations whose first states correspond are refused for one reason, or build machines
that correspond. -/
theorem build_paired {c d : Configuration} {f : State → State}
    (starts : d.initial = c.initial.map f) :
    (∃ error, build c = .error error ∧ build d = .error error) ∨
    ∃ state events reported, c.initial = .ok state ∧
      build c = .ok (⟨state, c.strategy, .running, c.program, 0⟩, events) ∧
      build d = .ok (⟨f state, d.strategy, .running, d.program, 0⟩, reported) := by
  rw [build_eq, build_eq, starts]
  cases c.initial with
  | error error => exact .inl ⟨error, rfl, rfl⟩
  | ok state => exact .inr ⟨state, _, _, rfl, rfl, rfl⟩

theorem of_build {c : Configuration} {machine : Machine} {events : List Event}
    (success : build c = .ok (machine, events)) :
    ∃ state, c.initial = .ok state ∧ machine = ⟨state, c.strategy, .running, c.program, 0⟩ := by
  rw [build_eq] at success
  cases starts : c.initial with
  | error error =>
    rw [starts] at success
    cases success
  | ok state =>
    rw [starts] at success
    cases success
    exact ⟨state, rfl, rfl⟩

theorem running_of_build {c : Configuration} {machine : Machine} {events : List Event}
    (success : build c = .ok (machine, events)) : machine.status = .running := by
  obtain ⟨state, _, rfl⟩ := of_build success
  rfl

/-- A program lies in memory from its start on, and nothing behind it. -/
theorem cell_of_build {c : Configuration} {machine : Machine} {events : List Event}
    (success : build c = .ok (machine, events)) (place : Nat) (start : 0x200 ≤ place)
    (before : place < 0x1000) :
    machine.state.memory.cell place = c.program[place - 0x200]?.getD 0 := by
  obtain ⟨state, starts, rfl⟩ := of_build success
  obtain ⟨font, _, loads⟩ := Configuration.initial_eq_ok starts
  obtain ⟨_, rfl⟩ := (State.loadProgram_eq_ok_iff _ _ _).mp loads
  change ((Memory.blank font).withProgram c.program).cell place = _
  rw [Memory.cell_withProgram _ _ _ start before,
    Memory.cell_blank_free _ _ (by omega) before]

theorem pc_of_build {c : Configuration} {machine : Machine} {events : List Event}
    (success : build c = .ok (machine, events)) : machine.state.pc = Memory.programStart := by
  obtain ⟨state, starts, rfl⟩ := of_build success
  obtain ⟨font, _, loads⟩ := Configuration.initial_eq_ok starts
  exact State.pc_of_loadProgram loads

/-- A word of the program is fetched from where it lies. -/
theorem fetch_of_build {c : Configuration} {machine : Machine} {events : List Event}
    (success : build c = .ok (machine, events)) {pc : UInt16} (start : 0x200 ≤ pc.toNat)
    (before : pc.toNat + 1 < 0x1000) :
    machine.state.memory.fetch pc =
      Word.ofBytes (c.program[pc.toNat - 0x200]?.getD 0)
        (c.program[pc.toNat + 1 - 0x200]?.getD 0) := by
  rw [Memory.fetch, cell_of_build success _ start (by omega),
    cell_of_build success _ (by omega) before]

/-- A machine that is built is about to run the first word of its program. -/
theorem word_of_build {c : Configuration} {machine : Machine} {events : List Event}
    (success : build c = .ok (machine, events)) :
    machine.state.fetch machine.state.pc =
      Word.ofBytes (c.program[0]?.getD 0) (c.program[1]?.getD 0) := by
  rw [pc_of_build success]
  exact fetch_of_build success (by decide) (by decide)

theorem of_reset {machine next : Machine} {events : List Event}
    (success : machine.reset = .ok (next, events)) :
    ∃ state, machine.state.loadProgram machine.program = .ok state ∧
      next = { machine with state, status := .running, lastWord := 0 } := by
  unfold reset at success
  cases loads : machine.state.loadProgram machine.program with
  | error error =>
    rw [loads] at success
    cases success
  | ok state =>
    rw [loads] at success
    cases success
    exact ⟨state, rfl, rfl⟩

end Machine

end SuperChip
