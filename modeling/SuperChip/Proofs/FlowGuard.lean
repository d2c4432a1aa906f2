import SuperChip.Proofs.Soundness
import SuperChip.Proofs.Standing

set_option autoImplicit false

namespace SuperChip

theorem Memory.fetch_eq_bytes (memory : Memory) (pc : UInt16) (inside : pc.toNat + 1 < 0x1010) :
    memory.fetch pc = Word.ofBytes memory.bytes[pc.toNat] memory.bytes[pc.toNat + 1] := by
  have first : pc.toNat < 0x1010 := by omega
  simp only [fetch, cell, Vector.getElem?_eq_getElem first, Vector.getElem?_eq_getElem inside,
    Option.getD_some]

theorem State.pc_goTo_lt (state : State) (address : UInt16) :
    (state.goTo address).pc.toNat < 0x1000 := by
  change address.toNat % 4096 % 65536 < 4096
  omega

/-- From within memory a word and a skipped word reach the fourth byte behind it at most. -/
theorem State.pc_forward_le {state : State} (within : state.pc.toNat < 0x1000) :
    (state.pc + 2).toNat ≤ 0x1003 ∧ (state.pc + 4).toNat ≤ 0x1003 := by
  rw [UInt16.toNat_add, UInt16.toNat_add]
  change (state.pc.toNat + 2) % 65536 ≤ 0x1003 ∧ (state.pc.toNat + 4) % 65536 ≤ 0x1003
  omega

/-- Where an instruction goes on: at an address within memory, where it is, or behind itself and
perhaps the next one. -/
theorem Instruction.pc_execute (instruction : Instruction) (state : State) (held : Held) :
    (instruction.execute state held).state.pc.toNat < 0x1000 ∨
    (instruction.execute state held).state.pc = state.pc ∨
    (instruction.execute state held).state.pc = state.pc + 2 ∨
    (instruction.execute state held).state.pc = state.pc + 4 := by
  have skips (condition : Bool) :
      (state.skipIf condition).state.pc = state.pc + 2 ∨
        (state.skipIf condition).state.pc = state.pc + 4 := by
    cases condition
    · exact .inl rfl
    · exact .inr rfl
  cases instruction with
  | ret =>
    simp only [execute, State.ret]
    split
    · exact .inl (State.pc_goTo_lt _ _)
    · exact .inr (.inl rfl)
  | call target =>
    simp only [execute, State.call]
    split
    · exact .inl (State.pc_goTo_lt _ _)
    · exact .inr (.inl rfl)
  | jump target => exact .inl (State.pc_goTo_lt _ _)
  | jumpOffset x base => exact .inl (State.pc_goTo_lt _ _)
  | skipIfByte x value => exact .inr (.inr (skips _))
  | skipUnlessByte x value => exact .inr (.inr (skips _))
  | skipIfSame x y => exact .inr (.inr (skips _))
  | skipUnlessSame x y => exact .inr (.inr (skips _))
  | skipIfKey x => exact .inr (.inr (skips _))
  | skipUnlessKey x => exact .inr (.inr (skips _))
  | guard =>
    simp only [execute, State.guard]
    split <;> exact .inr (.inl rfl)
  | awaitKey x => exact .inr (.inl rfl)
  | exit => exact .inr (.inl rfl)
  | illegal word => exact .inr (.inl rfl)
  | _ => exact .inr (.inr (.inl rfl))

namespace Machine

variable {c : Configuration} {machine : Machine}

theorem Sound.word_behind (sound : machine.Sound c) (behind : 0x1000 ≤ machine.state.pc.toNat) :
    machine.word = 0xFFFF :=
  sound.state.guarded.fetch_behind behind

/-- Behind memory the instruction is the guard, which fails. -/
theorem Sound.failure_behind (sound : machine.Sound c)
    (behind : 0x1000 ≤ machine.state.pc.toNat) :
    machine.instruction.failure? machine.state = some (.flowGuard machine.state.pc) :=
  (machine.word.failure?_decode_iff machine.state _).mpr (.guard (sound.word_behind behind) behind)

theorem Sound.pc_step (sound : machine.Sound c) (bound : machine.state.pc.toNat ≤ 0x1003)
    (held : Held) : (machine.step held).machine.state.pc.toNat ≤ 0x1003 := by
  by_cases running : machine.status = .running
  · rw [step_of_running held running, runInstruction_machine]
    -- Behind memory the guard holds the machine; from within it goes four bytes on at most.
    by_cases behind : 0x1000 ≤ machine.state.pc.toNat
    · rw [Instruction.execute_of_failure (sound.failure_behind behind)]
      exact bound
    · rcases machine.instruction.pc_execute machine.state held with within | same | next | skip
      · exact Nat.le_of_lt (Nat.lt_of_lt_of_le within (by decide))
      · rw [same]
        exact bound
      · rw [next]
        exact (State.pc_forward_le (Nat.lt_of_not_le behind)).1
      · rw [skip]
        exact (State.pc_forward_le (Nat.lt_of_not_le behind)).2
  · rw [step_of_standing held running]
    exact bound

/-- A request for a key is made from within memory, since it is not the guard's word. -/
theorem Sound.pc_awaiting (sound : machine.Sound c) {x : Register}
    (asks : machine.instruction = .awaitKey x) : machine.state.pc.toNat < 0x1000 := by
  apply Nat.lt_of_not_le
  intro behind
  rw [instruction, sound.word_behind behind, Word.decode_guard] at asks
  cases asks

theorem pc_le_of_reachable (reachable : Reachable c machine) :
    machine.state.pc.toNat ≤ 0x1003 := by
  apply Reachable.keeps (P := fun machine => machine.state.pc.toNat ≤ 0x1003) _ _ _ _ _ reachable
  · intro machine events success
    rw [pc_of_build success]
    decide
  · intro machine held reachable bound
    exact reachable.sound.pc_step bound held
  · intro machine key reachable bound
    unfold resume
    split
    · rename_i x awaiting
      have warrants := warrants_of_reachable reachable
      rw [awaiting] at warrants
      cases warrants with
      | awaiting last asks => exact (State.pc_forward_le (reachable.sound.pc_awaiting asks)).1
    · exact bound
  · intro machine timers _ bound
    exact bound
  · intro machine next events _ _ success
    obtain ⟨state, loads, rfl⟩ := of_reset success
    change state.pc.toNat ≤ 0x1003
    rw [State.pc_of_loadProgram loads]
    decide

/-- A program leaves addressable memory only into the flow guard. The program counter stays at the
first four bytes behind memory at most; a running machine that is there fetches the guard's word and
halts on it, and no step within memory fails that way. All bytes fetched are stored, and the only
word that is read across the end of memory ends in a byte of the guard. -/
theorem flow_guarded (reachable : Reachable c machine) :
    machine.state.pc.toNat ≤ 0x1003 ∧
    (machine.status = .running → 0x1000 ≤ machine.state.pc.toNat → ∀ held,
      machine.word = 0xFFFF ∧ (machine.step held).machine.lastWord = 0xFFFF ∧
      (machine.step held).outcome = .error (.flowGuard machine.state.pc)) ∧
    (machine.state.pc.toNat < 0x1000 → ∀ held pc,
      (machine.step held).outcome ≠ .error (.flowGuard pc)) ∧
    (∃ inside : machine.state.pc.toNat + 1 < 0x1010,
      machine.word = Word.ofBytes machine.state.memory.bytes[machine.state.pc.toNat]
        machine.state.memory.bytes[machine.state.pc.toNat + 1]) ∧
    (machine.state.pc.toNat < 0x1000 → 0x1000 ≤ machine.state.pc.toNat + 1 →
      machine.state.pc = 0xFFF ∧ machine.word.byte = 0xFF) := by
  have bound := pc_le_of_reachable reachable
  have sound := reachable.sound
  refine ⟨bound, ?_, ?_, ?_, ?_⟩
  · intro running behind held
    have last := sound.word_behind behind
    refine ⟨last, ?_, ?_⟩
    · rw [step_of_running held running, runInstruction_machine]
      exact last
    · exact (outcome_eq_error_iff held running _).mpr (sound.failure_behind behind)
  · intro within held pc failed
    have failure := (warrants_of_reachable reachable).failure_of_outcome failed
    cases (machine.word.failure?_decode_iff machine.state _).mp failure with
    | guard last behind => exact Nat.not_le_of_lt within behind
  · have inside : machine.state.pc.toNat + 1 < 0x1010 := by omega
    exact ⟨inside, machine.state.memory.fetch_eq_bytes machine.state.pc inside⟩
  · intro within straddles
    have last : machine.state.pc.toNat = 0xFFF := by omega
    refine ⟨UInt16.toNat_inj.mp last, ?_⟩
    have guarded := (Memory.guarded_iff_cell _).mp sound.state.guarded 0x1000 (Nat.le_refl _)
    rw [Machine.word, State.fetch, Memory.fetch, Word.byte_ofBytes, last]
    exact guarded

/-- A jump to the last byte of memory reads the switch to the high resolution there, and goes on
behind memory. -/
theorem flow_guarded_behind :
    ∃ machine, Reachable { program := #[0x1F, 0xFF] } machine ∧
      machine.state.pc = 0x1001 ∧ machine.word = 0xFFFF ∧
      ∀ held, (machine.step held).outcome = .error (.flowGuard 0x1001) := by
  obtain ⟨start, events, success⟩ :
      ∃ machine events, build { program := #[0x1F, 0xFF] } = .ok (machine, events) := ⟨_, _, rfl⟩
  have sound := sound_of_build success
  have jumps : start.instruction = .jump 0xFFF := by
    rw [instruction, Machine.word, word_of_build success]
    cases start.state.mode <;> rfl
  have jumped := step_of_going (fun _ => false) (running_of_build success)
    (by rw [jumps]; rfl) (.inl rfl)
  generalize last : (start.step fun _ => false).machine = middle at jumped
  have word : middle.word = 0x00FF := by
    have high := cell_of_build success 0xFFF (by decide) (by decide)
    have low := (Memory.guarded_iff_cell _).mp sound.state.guarded 0x1000 (Nat.le_refl _)
    rw [jumped]
    change Word.ofBytes (start.state.memory.cell 0xFFF) (start.state.memory.cell 0x1000) = _
    rw [high, low]
    rfl
  have widens : middle.instruction = .highResolution := by
    have mode : middle.state.mode = .superChip := by
      rw [jumped]
      exact sound.mode
    rw [instruction, word, mode]
    rfl
  have widened := step_of_going (fun _ => false)
    (show middle.status = .running by rw [jumped])
    (by rw [widens]; rfl) (.inr rfl)
  have reachable := Reachable.step (fun _ => false) (.step (fun _ => false) (.built success))
  rw [last] at reachable
  generalize (middle.step fun _ => false).machine = behind at widened reachable
  have pc : behind.state.pc = 0x1001 := by
    rw [widened, jumped]
    rfl
  have running : behind.status = .running := by
    rw [widened]
  obtain ⟨_, guarded, _⟩ := flow_guarded reachable
  refine ⟨behind, reachable, pc, (guarded running ?_ fun _ => false).1, ?_⟩
  · rw [pc]
    decide
  · intro held
    rw [← pc]
    refine (guarded running ?_ held).2.2
    rw [pc]
    decide

end Machine

end SuperChip
