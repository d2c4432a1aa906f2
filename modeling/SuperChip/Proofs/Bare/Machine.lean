import SuperChip.Bare.Machine
import SuperChip.Proofs.Bare.State
import SuperChip.Proofs.Dispatch.Agreement
import SuperChip.Proofs.Spelling

set_option autoImplicit false

namespace SuperChip

namespace Word

/-- Only words that name one of the first eight registers copy flags. -/
theorem withinFlags_decode (mode : Mode) (word : Word) : (word.decode mode).WithinFlags := by
  have spelled := spelledBy_decode mode word
  cases decoded : word.decode mode with
  | saveFlags | loadFlags =>
    rw [decoded] at spelled
    obtain ⟨_, _, _, _, _, few⟩ := spelled
    exact Nat.lt_succ_of_le few
  | _ => trivial

/-- The operands of an instruction are those that its word has in their places. -/
theorem read_decode (mode : Mode) (word : Word) :
    (word.decode mode).mnemonic.read word = word.decode mode := by
  have spelled := spelledBy_decode mode word
  cases decoded : word.decode mode with
  | _ =>
    rw [decoded] at spelled
    simp only [Instruction.SpelledBy] at spelled
    simp [Instruction.mnemonic, Mnemonic.read, spelled]

end Word

theorem Table.getElem?_toArray (table : Table) (word : Word) :
    table.toArray[word.toNat]? = some (table.lookup word) := by
  have inside : word.toNat < 65536 := word.toNat_lt
  simp [lookup, inside]

/-- Under both strategies a word is found to stand for the instruction that the decoder reads. -/
theorem Bare.resolve?_eq (strategy : Strategy) (mode : Mode) (word : Word) :
    Bare.resolve? strategy mode word = some (word.decode mode) := by
  cases strategy with
  | interpreter => rfl
  | table =>
    have mnemonic := (Table.runs_lookup mode word).1
    rw [Bare.resolve?, Table.getElem?_toArray]
    simp only [Option.bind_eq_bind, Option.bind_some, mnemonic, Word.read_decode]
    rfl

namespace Machine

variable (machine : Machine)

theorem fetch_bare : machine.bare.state.fetch machine.bare.state.pc =
    machine.state.fetch machine.state.pc := by
  simp [Bare.State.fetch, bare, State.bare, State.fetch, Memory.fetch, Memory.cell]

theorem runInstruction?_bare (held : Held) :
    machine.bare.runInstruction? (Array.ofFn held) = some (machine.runInstruction held).bare := by
  have mode : machine.bare.state.mode = machine.state.mode := rfl
  have state : machine.bare.state = machine.state.bare := rfl
  have within := Word.withinFlags_decode machine.state.mode (machine.state.fetch machine.state.pc)
  have executed := Instruction.execute?_bare within machine.state held
  simp only [Bare.Machine.runInstruction?, fetch_bare, mode, Bare.resolve?_eq, Option.bind_eq_bind,
    Option.bind_some]
  simp only [state, executed, Option.bind_some, Option.pure_def, runInstruction, Strategy.resolve_eq]
  generalize ((machine.state.fetch machine.state.pc).decode machine.state.mode).execute machine.state
    held = run
  obtain ⟨after, result⟩ := run
  cases result with
  | error error => rfl
  | ok effect => cases effect <;> rfl

theorem step?_bare (held : Held) :
    machine.bare.step? (Array.ofFn held) = some (machine.step held).bare := by
  have status : machine.bare.status = machine.status.bare := rfl
  unfold Bare.Machine.step? step
  rw [status]
  cases standing : machine.status with
  | running => exact machine.runInstruction?_bare held
  | _ => rfl

theorem resume?_bare (key : UInt8) :
    machine.bare.resume? key = some ((machine.resume key).1.bare, (machine.resume key).2) := by
  have status : machine.bare.status = machine.status.bare := rfl
  unfold Bare.Machine.resume? resume
  rw [status]
  cases standing : machine.status with
  | awaitingKey x =>
    have delivered := machine.state.deliverKey?_bare x key
    simp only [Status.bare, bare, delivered, Option.bind_eq_bind, Option.bind_some]
    rfl
  | _ => rfl

/-- The machine after a move. -/
def moved (machine : Machine) : Bare.Move → Machine
  | .step held => (machine.step held).machine
  | .resume key => (machine.resume key).1
  | .setTimers timers => machine.withTimers timers

theorem move?_bare (move : Bare.Move) :
    machine.bare.move? move = some (machine.moved move).bare := by
  cases move with
  | step held =>
    rw [Bare.Machine.move?, step?_bare]
    rfl
  | resume key =>
    rw [Bare.Machine.move?, resume?_bare]
    rfl
  | setTimers timers => rfl

/-- A machine over plain arrays never comes to an access that fails. -/
theorem follow?_bare (moves : List Bare.Move) :
    machine.bare.follow? moves = some (moves.foldl moved machine).bare := by
  induction moves generalizing machine with
  | nil => rfl
  | cons move rest ih =>
    rw [Bare.Machine.follow?, List.foldlM_cons, move?_bare]
    exact ih (machine.moved move)

/-- No access is out of bounds and no difference is negative. Over plain arrays, where each of them is
checked, every step has a result, whatever word it runs and under either strategy, and so have every
key delivery and the picture; they are those of the machine itself. So whatever is done to a machine
over plain arrays, one thing after the other, has a result. -/
theorem accesses_succeed :
    (∀ held, machine.bare.step? (Array.ofFn held) = some (machine.step held).bare) ∧
    (∀ key, machine.bare.resume? key = some ((machine.resume key).1.bare, (machine.resume key).2)) ∧
    machine.bare.frame? = some machine.frame.bare ∧
    ∀ moves, ∃ later : Machine, machine.bare.follow? moves = some later.bare :=
  ⟨machine.step?_bare, machine.resume?_bare, machine.state.screen.frame?_bare,
    fun moves => ⟨_, machine.follow?_bare moves⟩⟩

end Machine

end SuperChip
