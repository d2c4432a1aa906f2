import SuperChip.Proofs.Building
import SuperChip.Proofs.Reachable
import SuperChip.Proofs.Stepping

set_option autoImplicit false

namespace SuperChip

namespace Memory

/-- Whether the sixteen bytes behind addressable memory are those of the guard. -/
def Guarded (memory : Memory) : Prop :=
  ∀ (place : Nat) (inside : place < 0x1010), 0x1000 ≤ place → memory.bytes[place] = 0xFF

theorem guarded_iff_cell (memory : Memory) :
    memory.Guarded ↔ ∀ place, 0x1000 ≤ place → memory.cell place = 0xFF := by
  constructor
  · intro guarded place behind
    by_cases inside : place < 0x1010
    · rw [cell, Vector.getElem?_eq_getElem inside, Option.getD_some]
      exact guarded place inside behind
    · rw [cell, Vector.getElem?_eq_none (by omega), Option.getD_none]
  · intro cells place inside behind
    have seen := cells place behind
    rwa [cell, Vector.getElem?_eq_getElem inside, Option.getD_some] at seen

theorem Guarded.of_cells {before after : Memory} (guarded : before.Guarded)
    (same : ∀ place, 0x1000 ≤ place → after.cell place = before.cell place) : after.Guarded := by
  rw [guarded_iff_cell] at guarded ⊢
  intro place behind
  rw [same place behind, guarded place behind]

/-- Behind addressable memory there is nothing to fetch but the guard's word. -/
theorem Guarded.fetch_behind {memory : Memory} (guarded : memory.Guarded) {pc : UInt16}
    (behind : 0x1000 ≤ pc.toNat) : memory.fetch pc = 0xFFFF := by
  rw [guarded_iff_cell] at guarded
  rw [Memory.fetch, guarded _ behind, guarded _ (by omega)]
  rfl

end Memory

namespace State

/-- What holds of the state of every machine. -/
structure Sound (state : State) : Prop where
  /-- Every return address lies in memory or at most two bytes behind its end. -/
  returns : ∀ address ∈ state.stack.toList, address.toNat ≤ 0x1001
  guarded : state.memory.Guarded
  /-- The pixels stored behind the picture are dark. -/
  framed : state.screen.Framed
  /-- The basic instruction set has one geometry and no flags. -/
  basic : state.mode = .chip8 →
    state.screen.geometry = .standard ∧ state.flags = Vector.replicate 8 0

/-- Whether two states agree in the choices made when a machine was built. -/
structure SameChoices (before after : State) : Prop where
  mode : after.mode = before.mode
  compatibility : after.compatibility = before.compatibility
  wrap : after.screen.wrap = before.screen.wrap
  font : after.font = before.font

theorem sameChoices_of_does {state : State} {instruction : Instruction} {executed : Executed}
    (does : instruction.Does state executed) : state.SameChoices executed.state := by
  cases does with
  | paints registers painted => exact ⟨rfl, rfl, painted.wrap, rfl⟩
  | _ => exact ⟨rfl, rfl, rfl, rfl⟩

/-- A call pushes the address behind it, and every call lies within memory. -/
theorem sound_of_does {state : State} (sound : state.Sound) {instruction : Instruction}
    {executed : Executed} (does : instruction.Does state executed)
    (within : ∀ target, instruction = .call target → state.pc.toNat < 0x1000)
    (basic : state.mode = .chip8 → instruction.isExtended = false) : executed.state.Sound := by
  obtain ⟨returns, guarded, framed, standard⟩ := sound
  cases does with
  | computes registers index pc timers memory generator same =>
    exact ⟨returns, guarded.of_cells same, framed, standard⟩
  | @calls target stack pushed =>
    refine ⟨?_, guarded, framed, standard⟩
    intro address listed
    change address ∈ stack.toList at listed
    rw [CallStack.toList_of_push? pushed, List.mem_append, List.mem_singleton] at listed
    rcases listed with older | rfl
    · exact returns address older
    · have inside := within _ rfl
      rw [UInt16.toNat_add]
      change (state.pc.toNat + 2) % 65536 ≤ 0x1001
      omega
  | returns popped =>
    refine ⟨?_, guarded, framed, standard⟩
    intro address listed
    apply returns
    rw [CallStack.toList_of_pop? popped]
    exact List.mem_append_left _ listed
  | paints registers painted =>
    refine ⟨returns, guarded, painted.framed framed, ?_⟩
    intro chip8
    obtain ⟨geometry, flags⟩ := standard chip8
    exact ⟨(painted.geometry (basic chip8)).trans geometry, flags⟩
  | saves x flags =>
    refine ⟨returns, guarded, framed, ?_⟩
    intro chip8
    cases basic chip8
  | awaits x => exact ⟨returns, guarded, framed, standard⟩
  | exits => exact ⟨returns, guarded, framed, standard⟩

theorem sound_of_loadProgram {state loaded : State} {program : Array UInt8}
    (success : state.loadProgram program = .ok loaded) :
    loaded.Sound ∧ state.SameChoices loaded := by
  obtain ⟨_, rfl⟩ := (state.loadProgram_eq_ok_iff loaded program).mp success
  refine ⟨⟨?_, ?_, Screen.framed_blank _, fun _ => ⟨rfl, rfl⟩⟩, ⟨rfl, rfl, rfl, rfl⟩⟩
  · intro address listed
    change address ∈ CallStack.empty.toList at listed
    rw [CallStack.toList_empty] at listed
    cases listed
  · rw [Memory.guarded_iff_cell]
    intro place behind
    exact (Memory.cell_withProgram_guard _ _ _ behind).trans (Memory.cell_blank_guard _ _ behind)

theorem sound_of_initial {c : Configuration} {state : State} (starts : c.initial = .ok state) :
    state.Sound ∧ state.mode = c.mode ∧
      state.compatibility = c.compatibility.getD (.ofMode c.mode) ∧
      state.screen.wrap = c.policy ∧ state.font.toArray = c.font.getD Font.standard.toArray := by
  obtain ⟨font, letters, loads⟩ := Configuration.initial_eq_ok starts
  obtain ⟨kept, same⟩ := sound_of_loadProgram loads
  refine ⟨kept, same.mode, same.compatibility, same.wrap, ?_⟩
  rw [same.font]
  exact letters

end State

namespace Machine

/-- What every machine that comes from a configuration is like. -/
structure Sound (c : Configuration) (machine : Machine) : Prop where
  state : machine.state.Sound
  mode : machine.state.mode = c.mode
  compatibility : machine.state.compatibility = c.compatibility.getD (.ofMode c.mode)
  wrap : machine.state.screen.wrap = c.policy
  font : machine.state.font.toArray = c.font.getD Font.standard.toArray
  program : machine.program = c.program
  strategy : machine.strategy = c.strategy
  /-- A program of the basic instruction set does not end itself. -/
  endless : c.mode = .chip8 → machine.status ≠ .exited

variable {c : Configuration} {machine : Machine}

theorem Sound.onState (sound : machine.Sound c) {state : State} (kept : state.Sound)
    (same : machine.state.SameChoices state) {status : Status}
    (endless : c.mode = .chip8 → status ≠ .exited) (lastWord : Word) :
    ({ machine with state, status, lastWord } : Machine).Sound c where
  state := kept
  mode := same.mode.trans sound.mode
  compatibility := same.compatibility.trans sound.compatibility
  wrap := same.wrap.trans sound.wrap
  font := (congrArg Vector.toArray same.font).trans sound.font
  program := sound.program
  strategy := sound.strategy
  endless := endless

/-- Behind memory only the guard is read, so a call is always made from within. -/
theorem Sound.call_within (sound : machine.Sound c) {target : UInt16}
    (called : machine.instruction = .call target) : machine.state.pc.toNat < 0x1000 := by
  apply Nat.lt_of_not_le
  intro behind
  have last : machine.word = 0xFFFF := sound.state.guarded.fetch_behind behind
  rw [instruction, last, Word.decode_guard] at called
  cases called

theorem Sound.step (sound : machine.Sound c) (held : Held) : (machine.step held).machine.Sound c := by
  by_cases running : machine.status = .running
  · rw [step_of_running held running, runInstruction_machine]
    cases failure : machine.instruction.failure? machine.state with
    | some error =>
      rw [Instruction.execute_of_failure failure]
      apply sound.onState sound.state ⟨rfl, rfl, rfl, rfl⟩
      intro _ ended
      cases ended
    | none =>
      have does := Instruction.does_execute failure held
      have basic (chip8 : machine.state.mode = .chip8) : machine.instruction.isExtended = false := by
        rw [instruction, chip8]
        exact machine.word.isExtended_decode_chip8
      apply sound.onState
      · exact State.sound_of_does sound.state does (fun _ => sound.call_within) basic
      · exact State.sameChoices_of_does does
      · intro chip8 ended
        have extended := does.extended_of_exit (result_of_exited ended (sound.endless chip8))
        rw [basic (sound.mode.trans chip8)] at extended
        cases extended
  · rw [step_of_standing held running]
    exact sound

theorem Sound.resume (sound : machine.Sound c) (key : UInt8) : (machine.resume key).1.Sound c := by
  unfold Machine.resume
  split
  · apply sound.onState
    · exact ⟨sound.state.returns, sound.state.guarded, sound.state.framed, sound.state.basic⟩
    · exact ⟨rfl, rfl, rfl, rfl⟩
    · intro _ ended
      cases ended
  · exact sound

theorem Sound.withTimers (sound : machine.Sound c) (timers : Timers) :
    (machine.withTimers timers).Sound c := by
  apply sound.onState
  · exact ⟨sound.state.returns, sound.state.guarded, sound.state.framed, sound.state.basic⟩
  · exact ⟨rfl, rfl, rfl, rfl⟩
  · exact sound.endless

theorem Sound.reset (sound : machine.Sound c) {next : Machine} {events : List Event}
    (success : machine.reset = .ok (next, events)) : next.Sound c := by
  obtain ⟨loaded, loads, rfl⟩ := of_reset success
  obtain ⟨kept, same⟩ := State.sound_of_loadProgram loads
  apply sound.onState kept same
  intro _ ended
  cases ended

theorem sound_of_build {events : List Event} (success : build c = .ok (machine, events)) :
    machine.Sound c := by
  obtain ⟨initial, starts, rfl⟩ := of_build success
  obtain ⟨kept, mode, compatibility, wrap, font⟩ := State.sound_of_initial starts
  exact ⟨kept, mode, compatibility, wrap, font, rfl, rfl, fun _ ended => by cases ended⟩

theorem Reachable.sound (reachable : Reachable c machine) : machine.Sound c :=
  reachable.keeps sound_of_build (fun held _ sound => sound.step held)
    (fun key _ sound => sound.resume key) (fun timers _ sound => sound.withTimers timers)
    fun _ sound success => sound.reset success

end Machine

end SuperChip
