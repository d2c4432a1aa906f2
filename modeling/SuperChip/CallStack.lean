import SuperChip.Nibble

set_option autoImplicit false

namespace SuperChip

instance seventeen_neZero : @NeZero Nat Zero.ofOfNat0 17 := ⟨by decide⟩

/-- Return addresses of the calls that have not returned yet. A slot above the depth keeps whatever was
last pushed there. -/
structure CallStack where
  slots : Vector UInt16 16
  depth : Fin 17
  deriving DecidableEq

namespace CallStack

def empty : CallStack := ⟨Vector.replicate 16 0, 0⟩

/-- The addresses in use, oldest first. -/
def toList (stack : CallStack) : List UInt16 := stack.slots.toList.take stack.depth.val

/-- Pushes a return address, unless all slots are in use. -/
def push? (stack : CallStack) (address : UInt16) : Option CallStack :=
  if free : stack.depth.val < 16 then
    some ⟨stack.slots.set stack.depth.val address, ⟨stack.depth.val + 1, by omega⟩⟩
  else none

/-- The latest return address and the stack without it, unless no slot is in use. -/
def pop? (stack : CallStack) : Option (UInt16 × CallStack) :=
  if used : 0 < stack.depth.val then
    some (stack.slots[(⟨stack.depth.val - 1, by omega⟩ : Fin 16)],
      ⟨stack.slots, ⟨stack.depth.val - 1, by omega⟩⟩)
  else none

theorem length_toList (stack : CallStack) : stack.toList.length = stack.depth.val := by
  have bound := stack.depth.isLt
  simp only [toList, List.length_take, Vector.length_toList]
  omega

theorem toList_empty : empty.toList = [] := rfl

theorem push?_eq_none_iff (stack : CallStack) (address : UInt16) :
    stack.push? address = none ↔ stack.toList.length = 16 := by
  have bound := stack.depth.isLt
  rw [length_toList]
  unfold push?
  split <;> simp <;> omega

theorem pop?_eq_none_iff (stack : CallStack) : stack.pop? = none ↔ stack.toList = [] := by
  rw [← List.length_eq_zero_iff, length_toList]
  unfold pop?
  split <;> simp <;> omega

theorem toList_of_push? {stack pushed : CallStack} {address : UInt16}
    (success : stack.push? address = some pushed) :
    pushed.toList = stack.toList ++ [address] := by
  unfold push? at success
  split at success
  · rename_i free
    cases success
    apply List.ext_getElem?
    intro i
    simp only [toList, Vector.toList_set, List.getElem?_append, List.length_take,
      Vector.length_toList, List.getElem?_take, List.getElem?_set]
    have least : min stack.depth.val 16 = stack.depth.val := by omega
    rw [least]
    by_cases below : i < stack.depth.val
    · have other : stack.depth.val ≠ i := by omega
      have inside : i < stack.depth.val + 1 := by omega
      simp [below, other, inside]
    · by_cases same : i = stack.depth.val
      · subst same
        simp [free]
      · have outside : ¬ i < stack.depth.val + 1 := by omega
        have later : i - stack.depth.val ≠ 0 := by omega
        simp [below, outside, later]
  · cases success

theorem toList_of_pop? {stack popped : CallStack} {address : UInt16}
    (success : stack.pop? = some (address, popped)) :
    stack.toList = popped.toList ++ [address] := by
  unfold pop? at success
  split at success
  · rename_i used
    have bound := stack.depth.isLt
    obtain ⟨count, depth⟩ : ∃ count, stack.depth.val = count + 1 :=
      ⟨stack.depth.val - 1, by omega⟩
    cases success
    simp only [toList, depth, Nat.add_sub_cancel, Fin.getElem_fin]
    rw [List.take_add_one, List.getElem?_eq_getElem (by simp; omega)]
    simp
  · cases success

end CallStack

end SuperChip
