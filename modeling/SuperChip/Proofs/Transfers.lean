import SuperChip.Proofs.Building
import SuperChip.Proofs.Stepping

set_option autoImplicit false

namespace SuperChip

namespace Memory

/-- Where the byte lies that is `i` bytes behind an address. -/
def place (start : UInt16) (i : Nat) : Nat := (start.toNat + i) % 0x1000

theorem place_succ (start : UInt16) (i : Nat) : place (start + 1) i = place start (i + 1) := by
  have next : (start + 1).toNat = (start.toNat + 1) % 65536 := UInt16.toNat_add start 1
  simp only [place, next]
  omega

theorem place_add (start : UInt16) (i : Nat) :
    (start + UInt16.ofNat i).toNat % 0x1000 = place start i := by
  rw [UInt16.toNat_add, UInt16.toNat_ofNat', place]
  omega

/-- Fewer bytes than memory has lie at different places. -/
theorem place_inj (start : UInt16) {i j : Nat} (first : i < 0x1000) (second : j < 0x1000)
    (same : place start i = place start j) : i = j := by
  simp only [place] at same
  omega

theorem read_add (memory : Memory) (start : UInt16) (i : Nat) :
    memory.read (start + UInt16.ofNat i) = memory.cell (place start i) := by
  rw [read_eq_cell, place_add]

variable (memory : Memory) (start : UInt16) (values : List UInt8)

theorem cell_writeMany_outside (p : Nat) (outside : ∀ i < values.length, p ≠ place start i) :
    (memory.writeMany start values).cell p = memory.cell p := by
  induction values generalizing memory start with
  | nil => rfl
  | cons value rest ih =>
    have apart : p ≠ start.toNat % 0x1000 := outside 0 (Nat.zero_lt_succ _)
    have behind : ∀ i < rest.length, p ≠ place (start + 1) i := by
      intro i inside
      rw [place_succ]
      exact outside (i + 1) (Nat.succ_lt_succ inside)
    rw [writeMany, ih _ _ behind, cell_write, if_neg apart]

/-- What is written stays: no byte is written over by a later one. -/
theorem cell_writeMany_inside (few : values.length ≤ 0x1000) (i : Nat)
    (inside : i < values.length) :
    (memory.writeMany start values).cell (place start i) = values[i] := by
  induction values generalizing memory start i with
  | nil => cases inside
  | cons value rest ih =>
    have shorter : rest.length < 0x1000 := few
    cases i with
    | zero =>
      have apart : ∀ i < rest.length, place start 0 ≠ place (start + 1) i := by
        intro i within same
        rw [place_succ] at same
        have := place_inj start (by decide) (by omega) same
        omega
      rw [writeMany, cell_writeMany_outside _ _ _ _ apart, cell_write]
      exact if_pos rfl
    | succ i =>
      rw [← place_succ]
      exact ih _ _ (Nat.le_of_lt shorter) i (Nat.lt_of_succ_lt_succ inside)

end Memory

namespace State

open Memory

variable (before : State) (x : Register)

/-- What becomes of the index when registers up to `x` are copied. -/
def MovesIndex (after : State) : Prop :=
  after.index.toNat =
    if before.compatibility.loadStoreIncrement then (before.index.toNat + x.val + 1) % 65536
    else before.index.toNat

/-- The registers up to `x` are copied to memory, and nothing else is. -/
structure Stores (after : State) : Prop where
  stored : ∀ r ≤ x, after.memory.cell (place before.index r) = before.register r
  kept : ∀ p, (∀ r ≤ x, p ≠ place before.index r) → after.memory.cell p = before.memory.cell p
  index : before.MovesIndex x after
  rest : after = { before with memory := after.memory, index := after.index, pc := before.pc + 2 }

/-- The registers up to `x` are copied from memory, and nothing else is. -/
structure Loads (after : State) : Prop where
  loaded : ∀ r ≤ x, after.register r = before.memory.cell (place before.index r)
  kept : ∀ r > x, after.register r = before.register r
  index : before.MovesIndex x after
  rest : after =
    { before with registers := after.registers, index := after.index, pc := before.pc + 2 }

/-- A register is written out in three decimal digits. -/
structure WritesOut (after : State) : Prop where
  digit : ∀ i < 3, (after.memory.cell (place before.index i)).toNat ≤ 9
  value :
    100 * (after.memory.cell (place before.index 0)).toNat +
      10 * (after.memory.cell (place before.index 1)).toNat +
      (after.memory.cell (place before.index 2)).toNat = (before.register x).toNat
  kept : ∀ p, (∀ i < 3, p ≠ place before.index i) → after.memory.cell p = before.memory.cell p
  rest : after = { before with memory := after.memory, pc := before.pc + 2 }

/-- The registers up to `x` are copied to the user flags, and nothing else is. -/
structure Saves (after : State) : Prop where
  saved : ∀ (r : Register) (user : r.val < 8), r ≤ x → after.flags[r.val] = before.register r
  kept : ∀ (r : Register) (user : r.val < 8), r > x → after.flags[r.val] = before.flags[r.val]
  rest : after = { before with flags := after.flags, pc := before.pc + 2 }

/-- The registers up to `x` are copied from the user flags, and nothing else is. -/
structure TakesBack (after : State) : Prop where
  taken : ∀ (r : Register) (user : r.val < 8), r ≤ x → after.register r = before.flags[r.val]
  kept : ∀ r > x, after.register r = before.register r
  rest : after = { before with registers := after.registers, pc := before.pc + 2 }

theorem movesIndex {after : State} (same : after.index = before.indexAfterCopy x) :
    before.MovesIndex x after := by
  rw [MovesIndex, same, indexAfterCopy]
  split
  · rw [UInt16.toNat_add, UInt16.toNat_ofNat']
    omega
  · rfl

theorem stores_store : before.Stores x (before.store x).state := by
  have count : (before.registers.toList.take (x.val + 1)).length = x.val + 1 := by
    rw [List.length_take, Vector.length_toList]
    omega
  constructor
  · intro r upTo
    have inside : r.val < (before.registers.toList.take (x.val + 1)).length := by
      rw [count]
      exact Nat.lt_succ_of_le upTo
    have written := before.memory.cell_writeMany_inside before.index _ (by omega) r.val inside
    rw [List.getElem_take, Vector.getElem_toList] at written
    exact written
  · intro p outside
    apply before.memory.cell_writeMany_outside
    intro i inside
    rw [count] at inside
    have bound : i < 16 := by omega
    exact outside ⟨i, bound⟩ (Nat.le_of_lt_succ inside)
  · exact before.movesIndex x rfl
  · rfl

theorem loads_load : before.Loads x (before.load x).state := by
  constructor
  · intro r upTo
    rw [register_load, if_pos upTo, read_add]
  · intro r behind
    rw [register_load, if_neg (Fin.not_le.mpr behind)]
  · exact before.movesIndex x rfl
  · rfl

theorem writesOut_decimal : before.WritesOut x (before.decimal x).state := by
  have written (i : Nat) (inside : i < 3) :=
    before.memory.cell_writeMany_inside before.index (decimalDigits (before.register x))
      (show 3 ≤ 0x1000 by decide) i inside
  let digit (i : Nat) := ((before.decimal x).state.memory.cell (place before.index i)).toNat
  have hundreds : digit 0 = (before.register x).toNat / 100 :=
    congrArg UInt8.toNat (written 0 (by decide))
  have tens : digit 1 = (before.register x).toNat / 10 % 10 :=
    congrArg UInt8.toNat (written 1 (by decide))
  have ones : digit 2 = (before.register x).toNat % 10 :=
    congrArg UInt8.toNat (written 2 (by decide))
  have bound := (before.register x).toNat_lt
  constructor
  · intro i inside
    change digit i ≤ 9
    obtain rfl | rfl | rfl : i = 0 ∨ i = 1 ∨ i = 2 := by omega
    all_goals omega
  · change 100 * digit 0 + 10 * digit 1 + digit 2 = (before.register x).toNat
    omega
  · intro p outside
    exact before.memory.cell_writeMany_outside before.index (decimalDigits _) p outside
  · rfl

theorem flags_saveFlags (r : Register) (user : r.val < 8) :
    (before.saveFlags x).state.flags[r.val] =
      if r ≤ x then before.register r else before.flags[r.val] := by
  simp only [saveFlags, next, advance, Vector.getElem_ofFn, register, Fin.getElem_fin,
    Fin.le_def]

theorem saves_saveFlags : before.Saves x (before.saveFlags x).state := by
  constructor
  · intro r user upTo
    rw [flags_saveFlags, if_pos upTo]
  · intro r user behind
    rw [flags_saveFlags, if_neg (Fin.not_le.mpr behind)]
  · rfl

theorem takesBack_loadFlags : before.TakesBack x (before.loadFlags x).state := by
  constructor
  · intro r user upTo
    rw [register_loadFlags, dif_pos ⟨user, upTo⟩]
  · intro r behind
    rw [register_loadFlags, dif_neg fun taken => Fin.not_le.mpr behind taken.2]
  · rfl

end State

namespace Machine

open Memory

/-- What the words that copy registers make of a state, whatever the index is and whether it goes on
behind a copy or stays: each copies what it names and nothing else, between a register and a place of
its own. What a store wrote to memory is loaded back from the same index, and what was saved in the
user flags is taken back, whatever the registers hold by then. -/
theorem transfers_exact (machine : Machine) (held : Held) (running : machine.status = .running)
    (x : Register) :
    let state := machine.state
    let step := machine.step held
    (∀ r s : Register, place state.index r = place state.index s → r = s) ∧
    ((Instruction.store x).SpelledBy state.mode machine.word →
      step.Proceeds (state.Stores x) ∧
      ∀ (later : Machine) (pressed : Held), later.status = .running →
        (Instruction.load x).SpelledBy later.state.mode later.word →
        later.state.memory = step.machine.state.memory → later.state.index = state.index →
        (later.step pressed).Proceeds fun restored =>
          later.state.Loads x restored ∧ (∀ r ≤ x, restored.register r = state.register r) ∧
          restored.memory = step.machine.state.memory) ∧
    ((Instruction.load x).SpelledBy state.mode machine.word → step.Proceeds (state.Loads x)) ∧
    ((Instruction.decimal x).SpelledBy state.mode machine.word →
      step.Proceeds (state.WritesOut x)) ∧
    ((Instruction.saveFlags x).SpelledBy state.mode machine.word →
      step.Proceeds (state.Saves x) ∧
      ∀ (later : Machine) (pressed : Held) (y : Register), later.status = .running → y ≤ x →
        (Instruction.loadFlags y).SpelledBy later.state.mode later.word →
        later.state.flags = step.machine.state.flags →
        (later.step pressed).Proceeds fun restored =>
          later.state.TakesBack y restored ∧ (∀ r ≤ y, restored.register r = state.register r) ∧
          restored.flags = step.machine.state.flags) ∧
    ((Instruction.loadFlags x).SpelledBy state.mode machine.word →
      step.Proceeds (state.TakesBack x)) := by
  intro state step
  refine ⟨?distinct, ?store, ?load, ?decimal, ?saveFlags, ?loadFlags⟩
  case distinct =>
    intro r s same
    exact Fin.ext (place_inj state.index (by omega) (by omega) same)
  case load =>
    intro spelled
    exact proceeds_of_spelledBy held running (.load x) spelled rfl (state.loads_load x)
  case decimal =>
    intro spelled
    exact proceeds_of_spelledBy held running (.decimal x) spelled rfl (state.writesOut_decimal x)
  case loadFlags =>
    intro spelled
    exact proceeds_of_spelledBy held running (.loadFlags x) spelled rfl (state.takesBack_loadFlags x)
  case store =>
    intro spelled
    have stores : step.Proceeds (state.Stores x) :=
      proceeds_of_spelledBy held running (.store x) spelled rfl (state.stores_store x)
    refine ⟨stores, ?_⟩
    intro later pressed runs loading memory index
    apply proceeds_of_spelledBy pressed runs (.load x) loading rfl
    have loads := later.state.loads_load x
    refine ⟨loads, ?_, ?_⟩
    · intro r upTo
      calc ((later.state.load x).state).register r
        _ = later.state.memory.cell (place later.state.index r) := loads.loaded r upTo
        _ = step.machine.state.memory.cell (place state.index r) := by rw [memory, index]
        _ = state.register r := stores.state.stored r upTo
    · exact (congrArg State.memory loads.rest).trans memory
  case saveFlags =>
    intro spelled
    have saves : step.Proceeds (state.Saves x) :=
      proceeds_of_spelledBy held running (.saveFlags x) spelled rfl (state.saves_saveFlags x)
    refine ⟨saves, ?_⟩
    intro later pressed y runs fewer loading flags
    apply proceeds_of_spelledBy pressed runs (.loadFlags y) loading rfl
    have takes := later.state.takesBack_loadFlags y
    refine ⟨takes, ?_, ?_⟩
    · intro r upTo
      obtain ⟨_, _, _, _, _, few⟩ := loading
      have user : r.val < 8 := Nat.lt_succ_of_le (Fin.le_trans upTo few)
      calc ((later.state.loadFlags y).state).register r
        _ = later.state.flags[r.val] := takes.taken r user upTo
        _ = step.machine.state.flags[r.val] := by rw [flags]
        _ = state.register r := saves.state.saved r user (Fin.le_trans upTo fewer)
    · exact (congrArg State.flags takes.rest).trans flags

/-- Sixteen registers stored around the end of memory are loaded back after all were cleared. -/
theorem transfers_exact_around_end :
    ∃ machine : Machine, machine.status = .running ∧ machine.word = 0xFF55 ∧
      machine.state.index = 0xFFF8 ∧ machine.state.register 15 = 7 ∧ ∀ held pressed,
        let stored := (machine.step held).machine.state
        let cleared := { stored with registers := Vector.replicate 16 0, index := 0xFFF8 }
        let later : Machine := { machine with state := cleared }
        stored.memory.cell 7 = 7 ∧ stored.memory.cell 8 = machine.state.memory.cell 8 ∧
        later.word = 0xFF65 ∧ later.state.register 15 = 0 ∧
        (later.step pressed).Proceeds fun restored => restored.register 15 = 7 := by
  obtain ⟨start, events, success⟩ :
      ∃ machine events, build { program := #[0xFF, 0x55, 0xFF, 0x65] } = .ok (machine, events) :=
    ⟨_, _, rfl⟩
  have running := running_of_build success
  have word : start.word = 0xFF55 := word_of_build success
  let machine : Machine :=
    { start with state := { start.state.setRegister 15 7 with index := 0xFFF8 } }
  have operand : machine.state.register 15 = 7 := start.state.register_setRegister 15 15 7
  refine ⟨machine, running, word, rfl, operand, fun held pressed => ?_⟩
  intro stored cleared later
  have spelled : (Instruction.store 15).SpelledBy machine.state.mode machine.word :=
    ⟨congrArg Word.family word, congrArg Word.y word, congrArg Word.n word,
      (congrArg Word.x word).symm⟩
  obtain ⟨_, store, _⟩ := transfers_exact machine held running 15
  obtain ⟨stores, restores⟩ := store spelled
  have last : place machine.state.index 15 = 7 := show place 0xFFF8 15 = 7 by decide
  have outside (p : Nat) (behind : 8 ≤ p) (before : p < 0xFF8) :
      stored.memory.cell p = start.state.memory.cell p := by
    apply stores.state.kept
    intro r upTo same
    have wraps : place machine.state.index r = (0xFFF8 + r.val) % 0x1000 := rfl
    omega
  have pc : stored.pc = 0x202 := by
    have moved : stored.pc = start.state.pc + 2 := congrArg State.pc stores.state.rest
    rw [moved, pc_of_build success]
    rfl
  have next : later.word = 0xFF65 := by
    change Word.ofBytes (stored.memory.cell stored.pc.toNat)
      (stored.memory.cell (stored.pc.toNat + 1)) = _
    rw [pc, outside _ (by decide) (by decide), outside _ (by decide) (by decide),
      cell_of_build success _ (by decide) (by decide),
      cell_of_build success _ (by decide) (by decide)]
    rfl
  refine ⟨?_, outside 8 (by decide) (by decide), next, rfl, ?_⟩
  · rw [← last]
    exact (stores.state.stored 15 (Fin.le_refl _)).trans operand
  · have loading : (Instruction.load 15).SpelledBy later.state.mode later.word :=
      ⟨congrArg Word.family next, congrArg Word.y next, congrArg Word.n next,
        (congrArg Word.x next).symm⟩
    obtain ⟨outcome, _, restored, _⟩ := restores later pressed running loading rfl rfl
    exact ⟨outcome, (restored 15 (Fin.le_refl _)).trans operand⟩

end Machine

end SuperChip
