import SuperChip.Font
import SuperChip.Word

set_option autoImplicit false

/-!
Memory: 4096 addressable bytes and, behind them, sixteen guard bytes of `0xFF`. Data accesses wrap
at the end of the addressable part, so they never reach the guard. A fetch does not wrap: a program
counter that runs off the end meets the guard and reads the word `0xFFFF`.
-/

namespace SuperChip

/-- The addressable bytes followed by the guard. -/
structure Memory where
  bytes : Vector UInt8 0x1010
  deriving DecidableEq

namespace Memory

def size : Nat := 0x1000

def programStart : UInt16 := 0x200

/-- The longest program that fits between its start and the end of memory. -/
def programLimit : Nat := size - programStart.toNat

def fontStart : UInt16 := 0x000

def bigFontStart : UInt16 := 0x050

/-- The byte at `address`, wrapped to the addressable part. -/
def read (memory : Memory) (address : UInt16) : UInt8 :=
  memory.bytes[(⟨address.toNat % 0x1000, by omega⟩ : Fin 0x1010)]

/-- Stores a byte at `address`, wrapped to the addressable part. -/
def write (memory : Memory) (address : UInt16) (value : UInt8) : Memory :=
  ⟨memory.bytes.set (address.toNat % 0x1000) value (by omega)⟩

/-- `count` bytes from `start` on; the address wraps at sixteen bits and again at the end of
memory. -/
def readMany (memory : Memory) (start : UInt16) (count : Nat) : List UInt8 :=
  (List.range count).map fun i => memory.read (start + UInt16.ofNat i)

/-- Stores the bytes one after the other from `start` on. -/
def writeMany (memory : Memory) (start : UInt16) : List UInt8 → Memory
  | [] => memory
  | value :: rest => (memory.write start value).writeMany (start + 1) rest

/-- The byte a fetch sees at an address that does not wrap; behind the guard all is `0xFF`. -/
def cell (memory : Memory) (address : Nat) : UInt8 := memory.bytes[address]?.getD 0xFF

def fetch (memory : Memory) (pc : UInt16) : Word :=
  Word.ofBytes (memory.cell pc.toNat) (memory.cell (pc.toNat + 1))

/-- Memory without a program: the fonts at their places, the guard, and zero everywhere else. -/
def blank (font : Font) : Memory :=
  ⟨Vector.ofFn fun i =>
    if small : i.val < 80 then font[i.val]
    else if large : i.val < 240 then Font.big[i.val - 80]
    else if i.val < 0x1000 then 0
    else 0xFF⟩

/-- Copies a program to its start, as far as it fits. -/
def withProgram (memory : Memory) (program : Array UInt8) : Memory :=
  ⟨Vector.ofFn fun i =>
    if i.val < 0x200 ∨ 0x1000 ≤ i.val then memory.bytes[i]
    else program[i.val - 0x200]?.getD memory.bytes[i]⟩

def toArray (memory : Memory) : Array UInt8 := memory.bytes.toArray.extract 0 0x1000

/-- A read is what a fetch sees at the wrapped address. -/
theorem read_eq_cell (memory : Memory) (address : UInt16) :
    memory.read address = memory.cell (address.toNat % 0x1000) := by
  have inside : address.toNat % 0x1000 < 0x1010 := by omega
  simp only [read, cell, Fin.getElem_fin, Vector.getElem?_eq_getElem inside, Option.getD_some]

/-- A write changes one cell, which lies in the addressable part. -/
theorem cell_write (memory : Memory) (address : UInt16) (value : UInt8) (place : Nat) :
    (memory.write address value).cell place =
      if place = address.toNat % 0x1000 then value else memory.cell place := by
  simp only [cell, write, Vector.getElem?_set]
  by_cases same : address.toNat % 0x1000 = place
  · subst same
    simp only [↓reduceIte, Option.getD_some]
  · have other : place ≠ address.toNat % 0x1000 := fun equal => same equal.symm
    simp [same, other]

theorem read_write (memory : Memory) (target address : UInt16) (value : UInt8) :
    (memory.write target value).read address =
      if address.toNat % 0x1000 = target.toNat % 0x1000 then value else memory.read address := by
  rw [read_eq_cell, read_eq_cell, cell_write]

/-- Two addresses that name one byte do so at every distance behind them. -/
theorem add_congr {left right : UInt16} (same : left.toNat % 0x1000 = right.toNat % 0x1000)
    (offset : UInt16) : (left + offset).toNat % 0x1000 = (right + offset).toNat % 0x1000 := by
  rw [UInt16.toNat_add, UInt16.toNat_add]
  omega

theorem read_congr (memory : Memory) {left right : UInt16}
    (same : left.toNat % 0x1000 = right.toNat % 0x1000) : memory.read left = memory.read right := by
  rw [read_eq_cell, read_eq_cell, same]

theorem readMany_congr (memory : Memory) {left right : UInt16}
    (same : left.toNat % 0x1000 = right.toNat % 0x1000) (count : Nat) :
    memory.readMany left count = memory.readMany right count := by
  apply List.map_congr_left
  intro i _
  exact memory.read_congr (add_congr same _)

theorem writeMany_congr (memory : Memory) {left right : UInt16}
    (same : left.toNat % 0x1000 = right.toNat % 0x1000) (values : List UInt8) :
    memory.writeMany left values = memory.writeMany right values := by
  induction values generalizing memory left right with
  | nil => rfl
  | cons value rest ih =>
    have first : memory.write left value = memory.write right value := by
      simp only [write, same]
    rw [writeMany, writeMany, first, ih _ (add_congr same 1)]

theorem cell_write_guard (memory : Memory) (address : UInt16) (value : UInt8) (place : Nat)
    (behind : 0x1000 ≤ place) : (memory.write address value).cell place = memory.cell place := by
  have other : place ≠ address.toNat % 0x1000 := by omega
  rw [cell_write, if_neg other]

theorem cell_writeMany_guard (memory : Memory) (start : UInt16) (values : List UInt8) (place : Nat)
    (behind : 0x1000 ≤ place) : (memory.writeMany start values).cell place = memory.cell place := by
  induction values generalizing memory start with
  | nil => rfl
  | cons value rest ih => rw [writeMany, ih, cell_write_guard _ _ _ _ behind]

theorem cell_blank_guard (font : Font) (place : Nat) (behind : 0x1000 ≤ place) :
    (blank font).cell place = 0xFF := by
  by_cases inside : place < 0x1010
  · have small : ¬ place < 80 := by omega
    have large : ¬ place < 240 := by omega
    have outside : ¬ place < 0x1000 := by omega
    simp [cell, blank, Vector.getElem?_eq_getElem inside, small, large, outside]
  · simp [cell, Vector.getElem?_eq_none (by omega : 0x1010 ≤ place)]

/-- In memory without a program the big font lies behind the small one, and nothing behind that. -/
theorem cell_blank (font : Font) (place : Nat) (before : place < 0x1000) :
    (blank font).cell place =
      if 80 ≤ place then Font.big.toArray[place - 80]?.getD 0 else font.toArray[place]?.getD 0 := by
  have inside : place < 0x1010 := by omega
  by_cases small : place < 80
  · have large : ¬ 80 ≤ place := by omega
    simp [cell, blank, Vector.getElem?_eq_getElem inside, small, large]
  · have large : 80 ≤ place := by omega
    by_cases glyph : place < 240
    · have listed : place - 80 < 160 := by omega
      simp [cell, blank, Vector.getElem?_eq_getElem inside, small, large, glyph, listed]
    · have beyond : ¬ place - 80 < 160 := by omega
      simp [cell, blank, Vector.getElem?_eq_getElem inside, small, large, glyph, beyond, before]

/-- Between the fonts and the guard there is nothing yet. -/
theorem cell_blank_free (font : Font) (place : Nat) (behind : 240 ≤ place)
    (before : place < 0x1000) : (blank font).cell place = 0 := by
  have large : 80 ≤ place := by omega
  have ended : Font.big.toArray[place - 80]? = none := by
    apply Array.getElem?_eq_none
    rw [Vector.size_toArray]
    omega
  rw [cell_blank _ _ before, if_pos large, ended]
  rfl

theorem cell_withProgram_before (memory : Memory) (program : Array UInt8) (place : Nat)
    (ahead : place < 0x200) : (memory.withProgram program).cell place = memory.cell place := by
  have inside : place < 0x1010 := by omega
  simp [cell, withProgram, Vector.getElem?_eq_getElem inside, ahead]

theorem cell_withProgram (memory : Memory) (program : Array UInt8) (place : Nat)
    (start : 0x200 ≤ place) (before : place < 0x1000) :
    (memory.withProgram program).cell place =
      program[place - 0x200]?.getD (memory.cell place) := by
  have inside : place < 0x1010 := by omega
  have within : ¬ (place < 0x200 ∨ 0x1000 ≤ place) := by omega
  simp [cell, withProgram, Vector.getElem?_eq_getElem inside, within]

theorem cell_withProgram_guard (memory : Memory) (program : Array UInt8) (place : Nat)
    (behind : 0x1000 ≤ place) : (memory.withProgram program).cell place = memory.cell place := by
  by_cases inside : place < 0x1010
  · simp [cell, withProgram, Vector.getElem?_eq_getElem inside, behind]
  · simp [cell, Vector.getElem?_eq_none (by omega : 0x1010 ≤ place)]

end Memory

end SuperChip
