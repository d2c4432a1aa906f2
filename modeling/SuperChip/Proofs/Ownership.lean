import SuperChip.Proofs.Calls
import SuperChip.Proofs.Rolls

set_option autoImplicit false

namespace SuperChip

/-- The parts of a state that instructions write, but for the program counter. -/
inductive Part where
  | register (r : Register)
  | index
  | stack
  | delay
  | sound
  | memory
  | screen
  | flags
  | generator
  deriving DecidableEq, Repr

/-- Whether a part is the same in two states. -/
def Part.Kept (before after : State) : Part → Prop
  | register r => after.register r = before.register r
  | index => after.index = before.index
  | stack => after.stack = before.stack
  | delay => after.timers.delay = before.timers.delay
  | sound => after.timers.sound = before.timers.sound
  | memory => after.memory = before.memory
  | screen => after.screen = before.screen
  | flags => after.flags = before.flags
  | generator => after.generator = before.generator

namespace Word

/-- Whether a word is of family 15 and has `y` and `n` as its last two nibbles. -/
def isDevice (word : Word) (y n : Nibble) : Bool :=
  word.family == 0xF && word.y == y && word.n == n

/-- Whether a word changes the picture: it clears it, draws, scrolls or takes a geometry. -/
def paints (word : Word) : Bool :=
  word == 0x00E0 || word.family == 0xD ||
  word.family == 0x0 && word.x == 0x0 && word.y == 0xC || word == 0x00FB || word == 0x00FC ||
  word == 0x00FE || word == 0x00FF

/-- Whether a word may write register `r`. -/
def ownsRegister (word : Word) (r : Register) : Bool :=
  match word.family with
  | 0x6 | 0x7 | 0xC => r == word.x
  | 0x8 => r == word.x || 4 ≤ word.n && r == 15
  | 0xD => r == 15
  | 0xF =>
    word.isDevice 0x0 0x7 && r == word.x ||
    (word.isDevice 0x6 0x5 || word.isDevice 0x8 0x5) && r ≤ word.x
  | _ => false

/-- Whether a word may write a part of the state. -/
def owns (word : Word) (compatibility : Compatibility) : Part → Bool
  | .register r => word.ownsRegister r
  | .index =>
    word.family == 0xA || word.isDevice 0x1 0xE || word.isDevice 0x2 0x9 || word.isDevice 0x3 0x0 ||
    compatibility.loadStoreIncrement && (word.isDevice 0x5 0x5 || word.isDevice 0x6 0x5)
  | .stack => word.family == 0x2 || word == 0x00EE
  | .delay => word.isDevice 0x1 0x5
  | .sound => word.isDevice 0x1 0x8
  | .memory => word.isDevice 0x3 0x3 || word.isDevice 0x5 0x5
  | .screen => word.paints
  | .flags => word.isDevice 0x7 0x5
  | .generator => word.family == 0xC

/-- Whether a word jumps, calls or returns. -/
def leaps (word : Word) : Bool :=
  word.family == 0x1 || word.family == 0x2 || word.family == 0xB || word == 0x00EE

/-- Whether the condition holds under which a word skips the next one. -/
def skips (word : Word) (state : State) (held : Held) : Bool :=
  match word.family with
  | 0x3 => state.register word.x == word.byte
  | 0x4 => state.register word.x != word.byte
  | 0x5 => state.register word.x == state.register word.y
  | 0x9 => state.register word.x != state.register word.y
  | 0xE =>
    if word.y = 0x9 then held (Key.ofByte (state.register word.x))
    else !held (Key.ofByte (state.register word.x))
  | _ => false

/-- How far the program counter goes on after a word that does not leap. -/
def stride (word : Word) (state : State) (held : Held) : UInt16 :=
  if word.isDevice 0x0 0xA || word == 0x00FD then 0
  else if word.skips state held then 4
  else 2

theorem beq_of_family {word other : Word} (apart : word.family ≠ other.family) :
    (word == other) = false := by
  rw [beq_eq_false_iff_ne]
  intro same
  exact apart (congrArg family same)

theorem paints_of_family {word : Word} (system : word.family ≠ 0x0) (draws : word.family ≠ 0xD) :
    word.paints = false := by
  have other (fixed : Word) (zero : fixed.family = 0x0) : (word == fixed) = false :=
    beq_of_family (zero ▸ system)
  simp [paints, system, draws, other 0x00E0 rfl, other 0x00FB rfl, other 0x00FC rfl,
    other 0x00FE rfl, other 0x00FF rfl]

/-- Outside of families 0 and 15 no word stands still. -/
theorem stride_of_family {word : Word} (system : word.family ≠ 0x0) (device : word.family ≠ 0xF)
    (state : State) (held : Held) :
    word.stride state held = if word.skips state held then 4 else 2 := by
  have other : (word == 0x00FD) = false := beq_of_family system
  simp [stride, isDevice, device, other]

/-- Of family 15 one word stands still, and none skips. -/
theorem stride_of_device {word : Word} (device : word.family = 0xF) (state : State) (held : Held) :
    word.stride state held = if word.y = 0x0 ∧ word.n = 0xA then 0 else 2 := by
  have other : (word == 0x00FD) = false := beq_of_family (by rw [device]; decide)
  simp [stride, isDevice, device, other, skips]

end Word

namespace Instruction

variable {instruction : Instruction} {word : Word} {state : State}

/-- What may fail writes the call stack and the program counter only. -/
theorem kept_of_mayFail (part : Part) (fallible : instruction.mayFail = true) (held : Held)
    (other : part ≠ .stack) : part.Kept state (instruction.execute state held).state := by
  cases instruction with
  | ret =>
    simp only [execute, State.ret]
    split
    · cases part with
      | stack => exact absurd rfl other
      | _ => rfl
    · cases part <;> rfl
  | call target =>
    simp only [execute, State.call]
    split
    · cases part with
      | stack => exact absurd rfl other
      | _ => rfl
    · cases part <;> rfl
  | guard =>
    simp only [execute, State.guard]
    split <;> cases part <;> rfl
  | illegal word => cases part <;> rfl
  | _ => cases fallible

variable (spelled : instruction.SpelledBy state.mode word) (held : Held)

include spelled

theorem register_execute {r : Register}
    (foreign : word.owns state.compatibility (.register r) = false) :
    (instruction.execute state held).state.register r = state.register r := by
  cases instruction with
  | setByte | addByte | random =>
    obtain ⟨family, rfl, _⟩ := spelled
    have other : r ≠ word.x := by simpa [Word.owns, Word.ownsRegister, family] using foreign
    exact (State.register_setRegister _ _ r _).trans (if_neg other)
  | copy | or | and | xor =>
    obtain ⟨family, n, rfl, _⟩ := spelled
    have other : r ≠ word.x := by simpa [Word.owns, Word.ownsRegister, family, n] using foreign
    exact (State.register_setRegister _ _ r _).trans (if_neg other)
  | add | subtract | subtractFrom | shiftRight | shiftLeft =>
    obtain ⟨family, n, rfl, _⟩ := spelled
    obtain ⟨other, unflagged⟩ : r ≠ word.x ∧ r ≠ 15 := by
      simpa [Word.owns, Word.ownsRegister, family, n] using foreign
    exact (State.register_setResult _ _ r _ _).trans (by rw [if_neg unflagged, if_neg other])
  | draw =>
    have unflagged : r ≠ 15 := by simpa [Word.owns, Word.ownsRegister, spelled.1] using foreign
    exact (State.register_setRegister _ 15 r _).trans (if_neg unflagged)
  | drawWide =>
    have unflagged : r ≠ 15 := by simpa [Word.owns, Word.ownsRegister, spelled.2.1] using foreign
    exact (State.register_setRegister _ 15 r _).trans (if_neg unflagged)
  | readDelay =>
    obtain ⟨family, y, n, rfl⟩ := spelled
    have other : r ≠ word.x := by
      simpa [Word.owns, Word.ownsRegister, Word.isDevice, family, y, n] using foreign
    exact (State.register_setRegister _ _ r _).trans (if_neg other)
  | load =>
    obtain ⟨family, y, n, rfl⟩ := spelled
    have behind : ¬ r ≤ word.x := by
      simpa [Word.owns, Word.ownsRegister, Word.isDevice, family, y, n] using foreign
    exact (state.register_load word.x r).trans (if_neg behind)
  | loadFlags =>
    obtain ⟨_, family, y, n, rfl, _⟩ := spelled
    have behind : ¬ r ≤ word.x := by
      simpa [Word.owns, Word.ownsRegister, Word.isDevice, family, y, n] using foreign
    exact (state.register_loadFlags word.x r).trans (dif_neg fun saved => behind saved.2)
  | ret | call | guard => exact kept_of_mayFail (.register r) rfl held nofun
  | _ => rfl

theorem index_execute (foreign : word.owns state.compatibility .index = false) :
    (instruction.execute state held).state.index = state.index := by
  cases instruction with
  | setIndex => simp [Word.owns, spelled.1] at foreign
  | addIndex | glyph =>
    obtain ⟨family, y, n, _⟩ := spelled
    simp [Word.owns, Word.isDevice, family, y, n] at foreign
  | bigGlyph =>
    obtain ⟨_, family, y, n, _⟩ := spelled
    simp [Word.owns, Word.isDevice, family, y, n] at foreign
  | store | load =>
    obtain ⟨family, y, n, _⟩ := spelled
    have still : state.compatibility.loadStoreIncrement = false := by
      simpa [Word.owns, Word.isDevice, family, y, n] using foreign
    exact if_neg (by rw [still]; decide)
  | ret | call | guard => exact kept_of_mayFail .index rfl held nofun
  | loadFlags => simp only [execute, State.loadFlags, State.next, State.advance]
  | _ => rfl

/-- The counters, memory and the flags are written by the instructions that say so. -/
theorem data_execute {part : Part} (foreign : word.owns state.compatibility part = false)
    (data : part = .delay ∨ part = .sound ∨ part = .memory ∨ part = .flags) :
    part.Kept state (instruction.execute state held).state := by
  cases instruction with
  | setDelay | setSound | decimal | store =>
    obtain ⟨family, y, n, _⟩ := spelled
    rcases data with rfl | rfl | rfl | rfl
    all_goals first
      | rfl
      | simp [Word.owns, Word.isDevice, family, y, n] at foreign
  | saveFlags =>
    obtain ⟨_, family, y, n, _⟩ := spelled
    rcases data with rfl | rfl | rfl | rfl
    case inr.inr.inr => simp [Word.owns, Word.isDevice, family, y, n] at foreign
    all_goals rfl
  | ret | call | guard =>
    apply kept_of_mayFail part rfl held
    rintro rfl
    simp at data
  | load | loadFlags =>
    rcases data with rfl | rfl | rfl | rfl
    all_goals simp only [Part.Kept, execute, State.load, State.loadFlags, State.next, State.advance]
  | _ =>
    rcases data with rfl | rfl | rfl | rfl
    all_goals rfl

/-- The words that ask for a picture are the ones that change it. -/
theorem result_execute {effect : Effect}
    (succeeds : (instruction.execute state held).result = .ok effect) :
    effect = .redraw ↔ word.paints = true := by
  -- Of the families only 0 and 13 have such words.
  have plain {family : Nibble} (same : word.family = family)
      (other : family ≠ 0x0 ∧ family ≠ 0xD) : ¬ word.paints = true := by
    rw [← same] at other
    rw [Word.paints_of_family other.1 other.2]
    exact Bool.false_ne_true
  cases instruction with
  | clearScreen =>
    obtain rfl : word = 0x00E0 := spelled
    cases succeeds
    exact iff_of_true rfl rfl
  | scrollRight | scrollLeft | lowResolution | highResolution =>
    obtain ⟨_, rfl⟩ := spelled
    cases succeeds
    exact iff_of_true rfl rfl
  | scrollDown =>
    obtain ⟨_, family, x, y, _⟩ := spelled
    cases succeeds
    simp [Word.paints, family, x, y]
  | draw =>
    cases succeeds
    simp [Word.paints, spelled.1]
  | drawWide =>
    cases succeeds
    simp [Word.paints, spelled.2.1]
  | ret =>
    obtain rfl : word = 0x00EE := spelled
    simp only [execute, State.ret] at succeeds
    split at succeeds <;> cases succeeds
    decide
  | exit =>
    obtain ⟨_, rfl⟩ := spelled
    cases succeeds
    decide
  | call =>
    simp only [execute, State.call] at succeeds
    split at succeeds <;> cases succeeds
    exact iff_of_false (by simp) (plain spelled.1 (by decide))
  | guard =>
    simp only [execute, State.guard] at succeeds
    split at succeeds <;> cases succeeds
  | illegal => cases succeeds
  | bigGlyph | saveFlags | loadFlags =>
    cases succeeds
    exact iff_of_false (by simp) (plain spelled.2.1 (by decide))
  | _ =>
    cases succeeds
    exact iff_of_false (by simp) (plain spelled.1 (by decide))

theorem screen_execute (foreign : word.owns state.compatibility .screen = false) :
    (instruction.execute state held).state.screen = state.screen := by
  cases failure : instruction.failure? state with
  | some error => rw [execute_of_failure failure]
  | none =>
    apply (does_execute failure held).screen_eq
    intro redraws
    have paints := (result_execute spelled held redraws).mp rfl
    exact Bool.false_ne_true (foreign.symm.trans paints)

/-- An instruction writes nothing but what its word owns. -/
theorem kept_execute {part : Part} (foreign : word.owns state.compatibility part = false) :
    part.Kept state (instruction.execute state held).state := by
  cases part with
  | register r => exact register_execute spelled held foreign
  | index => exact index_execute spelled held foreign
  | stack =>
    apply stack_execute
    · rintro target rfl
      simp [Word.owns, spelled.1] at foreign
    · rintro rfl
      obtain rfl : word = 0x00EE := spelled
      cases foreign
  | delay | sound | memory | flags => exact data_execute spelled held foreign (by simp)
  | screen => exact screen_execute spelled held foreign
  | generator =>
    apply generator_execute
    rintro x mask rfl
    simp [Word.owns, spelled.1] at foreign

/-- The program counter goes on by the stride of the word, unless the word leaps. -/
theorem pc_execute_of_leaps {effect : Effect}
    (succeeds : (instruction.execute state held).result = .ok effect)
    (lands : word.leaps = false) :
    (instruction.execute state held).state.pc = state.pc + word.stride state held := by
  cases instruction with
  | jump | call | jumpOffset => simp [Word.leaps, spelled.1] at lands
  | ret =>
    obtain rfl : word = 0x00EE := spelled
    cases lands
  | guard =>
    simp only [execute, State.guard] at succeeds
    split at succeeds <;> cases succeeds
  | illegal => cases succeeds
  | exit =>
    obtain ⟨_, rfl⟩ := spelled
    exact (UInt16.add_zero state.pc).symm
  | clearScreen =>
    obtain rfl : word = 0x00E0 := spelled
    rfl
  | scrollRight | scrollLeft | lowResolution | highResolution =>
    obtain ⟨_, rfl⟩ := spelled
    rfl
  | scrollDown =>
    obtain ⟨_, family, x, y, _⟩ := spelled
    have stride : word.stride state held = 2 := by
      have other : ¬ word = 0x00FD := by
        rintro rfl
        cases y
      simp [Word.stride, Word.isDevice, Word.skips, family, other]
    rw [stride]
    rfl
  | skipIfByte | skipUnlessByte =>
    obtain ⟨family, rfl, rfl⟩ := spelled
    rw [Word.stride_of_family (by rw [family]; decide) (by rw [family]; decide)]
    simp only [Word.skips, family]
    rfl
  | skipIfSame | skipUnlessSame =>
    obtain ⟨family, _, rfl, rfl⟩ := spelled
    rw [Word.stride_of_family (by rw [family]; decide) (by rw [family]; decide)]
    simp only [Word.skips, family]
    rfl
  | skipIfKey | skipUnlessKey =>
    obtain ⟨family, y, _, rfl⟩ := spelled
    rw [Word.stride_of_family (by rw [family]; decide) (by rw [family]; decide)]
    simp only [Word.skips, family, y]
    rfl
  | awaitKey =>
    obtain ⟨family, y, n, _⟩ := spelled
    rw [Word.stride_of_device family, if_pos ⟨y, n⟩]
    exact (UInt16.add_zero state.pc).symm
  | readDelay | setDelay | setSound | addIndex | glyph | decimal | store | load =>
    obtain ⟨family, y, n, _⟩ := spelled
    rw [Word.stride_of_device family, if_neg (by rw [y, n]; decide)]
    rfl
  | bigGlyph | saveFlags | loadFlags =>
    obtain ⟨_, family, y, n, _⟩ := spelled
    rw [Word.stride_of_device family, if_neg (by rw [y, n]; decide)]
    rfl
  | drawWide =>
    obtain ⟨_, family, _⟩ := spelled
    rw [Word.stride_of_family (by rw [family]; decide) (by rw [family]; decide)]
    simp only [Word.skips, family]
    rfl
  | _ =>
    have family := spelled.1
    rw [Word.stride_of_family (by rw [family]; decide) (by rw [family]; decide)]
    simp only [Word.skips, family]
    rfl

end Instruction

namespace Machine

/-- A step that succeeds writes what its word owns. Every other part of the state is as it was, and so
are the choices made when the machine was built; the picture is reported changed exactly for the words
that own it; and the program counter goes on by the stride of the word, unless the word jumps, calls
or returns. -/
theorem step_writes_owned (machine : Machine) (held : Held) (running : machine.status = .running)
    {outcome : Outcome} (succeeds : (machine.step held).outcome = .ok outcome) :
    (∀ part, machine.word.owns machine.state.compatibility part = false →
      part.Kept machine.state (machine.step held).machine.state) ∧
    machine.state.SameChoices (machine.step held).machine.state ∧
    (outcome = .displayUpdated ↔ machine.word.paints = true) ∧
    (machine.word.leaps = false →
      (machine.step held).machine.state.pc =
        machine.state.pc + machine.word.stride machine.state held) := by
  have spelled : machine.instruction.SpelledBy machine.state.mode machine.word :=
    Word.spelledBy_decode _ _
  have safe : machine.instruction.failure? machine.state = none := by
    rw [Option.eq_none_iff_forall_ne_some]
    intro error fails
    rw [← outcome_eq_error_iff held running, succeeds] at fails
    cases fails
  rw [step_of_running held running, runInstruction_outcome] at succeeds
  rw [step_of_running held running, runInstruction_machine]
  cases result : (machine.instruction.execute machine.state held).result with
  | error error =>
    rw [result] at succeeds
    cases succeeds
  | ok effect =>
    rw [result] at succeeds
    cases succeeds
    refine ⟨fun part foreign => Instruction.kept_execute spelled held foreign,
      State.sameChoices_of_does (Instruction.does_execute safe held), ?_,
      Instruction.pc_execute_of_leaps spelled held result⟩
    rw [← Instruction.result_execute spelled held result]
    cases effect <;> simp [Effect.outcome]

/-- Loading three registers leaves the fourth one, the memory it reads and the picture alone. -/
theorem step_writes_owned_loading :
    ∃ machine : Machine, machine.status = .running ∧ machine.word = 0xF265 ∧ ∀ held,
      (machine.step held).outcome = .ok .proceeded ∧
      (machine.step held).machine.state.register 3 = machine.state.register 3 ∧
      (machine.step held).machine.state.memory = machine.state.memory ∧
      (machine.step held).machine.state.screen = machine.state.screen ∧
      (machine.step held).machine.state.pc = 0x202 := by
  obtain ⟨start, events, success⟩ :
      ∃ machine events, build { program := #[0xF2, 0x65] } = .ok (machine, events) := ⟨_, _, rfl⟩
  have running := running_of_build success
  have word : start.word = 0xF265 := word_of_build success
  refine ⟨start, running, word, fun held => ?_⟩
  have loads : start.instruction = .load 2 := by
    rw [instruction, word, (sound_of_build success).mode]
    rfl
  have succeeds : (start.step held).outcome = .ok .proceeded := by
    rw [step_of_running held running, runInstruction_outcome, loads]
    rfl
  obtain ⟨kept, _, _, moves⟩ := step_writes_owned start held running succeeds
  rw [word] at kept moves
  refine ⟨succeeds, kept (.register 3) rfl, kept .memory rfl, kept .screen rfl, ?_⟩
  rw [moves rfl, pc_of_build success]
  rfl

end Machine

end SuperChip
