import SuperChip.Bare.State
import SuperChip.Proofs.Bare.Screen

set_option autoImplicit false

namespace SuperChip

namespace Memory

theorem writeMany_append (memory : Memory) (start : UInt16) (values : List UInt8) (value : UInt8) :
    memory.writeMany start (values ++ [value]) =
      (memory.writeMany start values).write (start + UInt16.ofNat values.length) value := by
  induction values generalizing memory start with
  | nil => simp [writeMany]
  | cons first rest ih =>
    rw [List.cons_append, writeMany, writeMany, ih, List.length_cons, UInt16.add_assoc,
      UInt16.ofNat_add, UInt16.add_comm 1]
    rfl

theorem readByte?_bare (memory : Memory) (address : UInt16) :
    Bare.readByte? memory.bytes.toArray address = some (memory.read address) := by
  have inside : address.toNat % 0x1000 < 0x1010 := by omega
  simp [Bare.readByte?, read, inside]

theorem writeByte?_bare (memory : Memory) (address : UInt16) (value : UInt8) :
    Bare.writeByte? memory.bytes.toArray address value =
      some (memory.write address value).bytes.toArray := by
  have inside : address.toNat % 0x1000 < memory.bytes.toArray.size := by
    rw [Vector.size_toArray]
    omega
  rw [Bare.writeByte?, Bare.put?_of_lt inside]
  rfl

theorem writeBytes?_bare (memory : Memory) (start : UInt16) {values : Array UInt8} {count : Nat}
    (within : count ≤ values.size) :
    Bare.writeBytes? memory.bytes.toArray start values count =
      some (memory.writeMany start (values.toList.take count)).bytes.toArray := by
  refine Bare.foldlM_range
    (fun i => (memory.writeMany start (values.toList.take i)).bytes.toArray) fun i before => ?_
  have listed : i < values.toList.length := by
    rw [Array.length_toList]
    omega
  have value : values[i]? = some values.toList[i] := by simp
  have length : (values.toList.take i).length = i := by
    rw [List.length_take]
    omega
  have next := memory.writeMany_append start (values.toList.take i) values.toList[i]
  rw [length] at next
  rw [List.take_succ_eq_append_getElem listed, next, value]
  exact writeByte?_bare _ _ _

end Memory

namespace State

variable (state : State)

theorem register?_bare (x : Register) : state.bare.register? x.val = some (state.register x) := by
  simp [Bare.State.register?, bare, register]

theorem setRegister?_bare (x : Register) (value : UInt8) :
    state.bare.setRegister? x.val value = some (state.setRegister x value).bare := by
  have inside : x.val < state.registers.toArray.size := by
    rw [Vector.size_toArray]
    exact x.isLt
  simp only [Bare.State.setRegister?, bare, Bare.put?_of_lt inside]
  rfl

theorem set?_bare (x : Register) (value : UInt8) :
    state.bare.set? x.val value = some (state.setRegister x value).next.bare := by
  rw [Bare.State.set?, setRegister?_bare]
  rfl

theorem setResult?_bare (x : Register) (value : UInt8) (flag : Bool) :
    state.bare.setResult? x.val value flag = some (state.setResult x value flag).next.bare := by
  rw [Bare.State.setResult?, setRegister?_bare]
  exact (state.setRegister x value).set?_bare 15 _

theorem deliverKey?_bare (x : Register) (key : UInt8) :
    state.bare.deliverKey? x.val key = some (state.deliverKey x key).bare := by
  rw [Bare.State.deliverKey?, setRegister?_bare]
  rfl

theorem ret?_bare : state.bare.ret? = some state.ret.bare := by
  unfold Bare.State.ret? State.ret CallStack.pop?
  by_cases used : 0 < state.stack.depth.val
  · have apart : state.bare.depth ≠ 0 := Nat.ne_of_gt used
    have depth : Bare.sub? state.bare.depth 1 = some (state.stack.depth.val - 1) :=
      Bare.sub?_of_le used
    have slot : state.bare.slots[state.stack.depth.val - 1]? =
        some (state.stack.slots[state.stack.depth.val - 1]) := by
      simp [bare]
    simp only [if_neg apart, dif_pos used, depth, slot, Option.bind_eq_bind, Option.bind_some]
    rfl
  · have empty : state.bare.depth = 0 := Nat.eq_zero_of_not_pos used
    simp only [if_pos empty, dif_neg used]
    rfl

theorem call?_bare (target : UInt16) : state.bare.call? target = some (state.call target).bare := by
  unfold Bare.State.call? State.call CallStack.push?
  by_cases free : state.stack.depth.val < 16
  · have within : state.stack.depth.val < state.stack.slots.toArray.size := by
      rw [Vector.size_toArray]
      exact free
    have pushed := Bare.put?_of_lt within (state.pc + 2)
    simp only [bare, if_neg (Nat.not_le_of_lt free), dif_pos free, pushed, Option.bind_eq_bind,
      Option.bind_some]
    rfl
  · have full : 16 ≤ state.bare.depth := Nat.le_of_not_lt free
    simp only [if_pos full, dif_neg free]
    rfl

theorem combine?_bare (x y : Register) (f : UInt8 → UInt8 → UInt8) :
    state.bare.combine? x.val y.val f =
      some (state.setRegister x (f (state.register x) (state.register y))).next.bare := by
  rw [Bare.State.combine?, register?_bare, register?_bare]
  exact state.set?_bare x _

theorem combineFlagged?_bare (x y : Register) (f : UInt8 → UInt8 → UInt8)
    (flag : UInt8 → UInt8 → Bool) :
    state.bare.combineFlagged? x.val y.val f flag =
      some (state.setResult x (f (state.register x) (state.register y))
        (flag (state.register x) (state.register y))).next.bare := by
  rw [Bare.State.combineFlagged?, register?_bare, register?_bare]
  exact state.setResult?_bare x _ _

theorem shift?_bare (x y : Register) (f : UInt8 → UInt8) (flag : UInt8 → Bool) :
    state.bare.shift? x.val y.val f flag =
      some (state.setResult x (f (state.shiftOperand x y))
        (flag (state.shiftOperand x y))).next.bare := by
  have operand : state.bare.register? (if state.bare.compatibility.shiftUsesVY then y.val
      else x.val) = some (state.shiftOperand x y) := by
    unfold shiftOperand
    change state.bare.register? (if state.compatibility.shiftUsesVY then y.val else x.val) = _
    split
    · exact state.register?_bare y
    · exact state.register?_bare x
  rw [Bare.State.shift?, operand]
  exact state.setResult?_bare x _ _

theorem jumpOffset?_bare (x : Register) (base : UInt16) :
    state.bare.jumpOffset? x.val base = some (state.jumpOffset x base).bare := by
  have offset : state.bare.register? (if state.bare.compatibility.jumpUsesVX then x.val else 0) =
      some (state.register (if state.compatibility.jumpUsesVX then x else 0)) := by
    change state.bare.register? (if state.compatibility.jumpUsesVX then x.val else 0) = _
    split
    · exact state.register?_bare x
    · exact state.register?_bare 0
  rw [Bare.State.jumpOffset?, offset]
  rfl

theorem random?_bare (x : Register) (mask : UInt8) :
    state.bare.random? x.val mask = some (state.random x mask).bare :=
  set?_bare { state with generator := state.generator.next.2 } x _

theorem skipOnKey?_bare (held : Held) (x : Register) (asked : Bool) :
    state.bare.skipOnKey? (Array.ofFn held) x.val asked =
      some (state.skipIf (held (Key.ofByte (state.register x)) == asked)).bare := by
  have key (value : UInt8) : (Array.ofFn held)[value.toNat % 16]? = some (held (Key.ofByte value)) := by
    have inside : value.toNat % 16 < 16 := Nat.mod_lt _ (by decide)
    simp [inside]
    rfl
  rw [Bare.State.skipOnKey?, register?_bare]
  simp only [Option.bind_eq_bind, Option.bind_some, key]
  rfl

theorem setTimers?_bare (x : Register) (change : Timers → UInt8 → Timers) :
    state.bare.setTimers? x.val change =
      some { state with timers := change state.timers (state.register x) }.next.bare := by
  rw [Bare.State.setTimers?, register?_bare]
  rfl

theorem addIndex?_bare (x : Register) :
    state.bare.addIndex? x.val = some (state.addIndex x).bare := by
  rw [Bare.State.addIndex?, register?_bare]
  rfl

theorem pointAtGlyph?_bare (x : Register) (start : UInt16) (size : Nat) :
    state.bare.pointAtGlyph? x.val start size = some (state.pointAtGlyph x start size).bare := by
  rw [Bare.State.pointAtGlyph?, register?_bare]
  rfl

theorem decimal?_bare (x : Register) : state.bare.decimal? x.val = some (state.decimal x).bare := by
  have written (value : UInt8) :
      Bare.writeBytes? state.bare.memory state.bare.index (decimalDigits value).toArray 3 =
        some (state.memory.writeMany state.index (decimalDigits value)).bytes.toArray :=
    state.memory.writeBytes?_bare state.index (Nat.le_refl 3)
  rw [Bare.State.decimal?, register?_bare]
  simp only [Option.bind_eq_bind, Option.bind_some, written]
  rfl

theorem store?_bare (x : Register) : state.bare.store? x.val = some (state.store x).bare := by
  have within : x.val + 1 ≤ state.registers.toArray.size := by
    rw [Vector.size_toArray]
    exact x.isLt
  have written : Bare.writeBytes? state.bare.memory state.bare.index state.bare.registers (x.val + 1) =
      some (state.memory.writeMany state.index
        (state.registers.toList.take (x.val + 1))).bytes.toArray :=
    state.memory.writeBytes?_bare state.index within
  rw [Bare.State.store?, written]
  rfl

/-- The registers after the first `count` of them were loaded. -/
def loadedUpTo (count : Nat) : Vector UInt8 16 :=
  Vector.ofFn fun r =>
    if r.val < count then state.memory.read (state.index + UInt16.ofNat r.val) else state.register r

theorem loadedUpTo_zero : state.loadedUpTo 0 = state.registers := by
  apply Vector.ext
  intro r within
  simp [loadedUpTo, register]

theorem loadedUpTo_succ {count : Nat} (within : count < 16) :
    (state.loadedUpTo count).set count (state.memory.read (state.index + UInt16.ofNat count)) =
      state.loadedUpTo (count + 1) := by
  apply Vector.ext
  intro r inside
  simp only [Vector.getElem_set, loadedUpTo, Vector.getElem_ofFn]
  by_cases last : count = r
  · subst last
    rw [if_pos rfl, if_pos (Nat.lt_succ_self count)]
  · have same : r < count ↔ r < count + 1 := by omega
    simp only [last, if_false, same]

theorem load?_bare (x : Register) : state.bare.load? x.val = some (state.load x).bare := by
  have loop : (List.range (x.val + 1)).foldlM (fun registers i => do
      let value ← Bare.readByte? state.memory.bytes.toArray (state.index + UInt16.ofNat i)
      Bare.put? registers i value) (state.loadedUpTo 0).toArray =
        some (state.loadedUpTo (x.val + 1)).toArray := by
    refine Bare.foldlM_range (fun count => (state.loadedUpTo count).toArray) fun count before => ?_
    have within : count < 16 := by omega
    have inside : count < (state.loadedUpTo count).toArray.size := by
      rw [Vector.size_toArray]
      exact within
    have put := Bare.put?_of_lt inside (state.memory.read (state.index + UInt16.ofNat count))
    rw [← state.loadedUpTo_succ within, Vector.toArray_set]
    simp only [Memory.readByte?_bare, Option.bind_eq_bind, Option.bind_some, put]
  rw [loadedUpTo_zero] at loop
  have loaded : state.load x =
      { state with registers := state.loadedUpTo (x.val + 1), index := state.indexAfterCopy x }.next := by
    simp only [load, loadedUpTo, Fin.le_def, Nat.lt_succ_iff]
  rw [loaded, Bare.State.load?]
  change (do
    let registers ← (List.range (x.val + 1)).foldlM (fun registers i => do
      let value ← Bare.readByte? state.memory.bytes.toArray (state.index + UInt16.ofNat i)
      Bare.put? registers i value) state.registers.toArray
    return ({ state.bare with registers, index := state.indexAfterCopy x } : Bare.State).next) = _
  rw [loop]
  rfl

theorem draw?_bare (x y : Register) {count : Nat} {wide : Bool} {sprite : Sprite}
    (drawn : state.screen.bare.draw? (state.register x) (state.register y)
        (state.memory.readMany state.index count) wide =
      some ((state.screen.draw (state.register x) (state.register y) sprite).map Screen.bare id)) :
    state.bare.draw? x.val y.val count wide = some (state.drawSprite x y sprite).bare := by
  have bytes : (List.range count).mapM (fun i =>
      Bare.readByte? state.bare.memory (state.bare.index + UInt16.ofNat i)) =
        some (state.memory.readMany state.index count) :=
    Bare.mapM_of_forall fun i _ => state.memory.readByte?_bare _
  have screen : state.bare.screen = state.screen.bare := rfl
  rw [Bare.State.draw?, bytes]
  simp only [Option.bind_eq_bind, Option.bind_some, register?_bare, screen, drawn, drawSprite]
  generalize state.screen.draw (state.register x) (state.register y) sprite = picture
  have flagged := setRegister?_bare { state with screen := picture.1 } 15
    (if picture.2 then 1 else 0)
  exact congrArg (Option.bind · fun drawn => some drawn.redraw) flagged

theorem repaint?_bare (change : Bare.Screen → Option Bare.Screen) {screen : Screen}
    (changed : change state.screen.bare = some screen.bare) :
    state.bare.repaint? change = some { state with screen }.redraw.bare := by
  have before : state.bare.screen = state.screen.bare := rfl
  rw [Bare.State.repaint?, before, changed]
  rfl

theorem saveFlags?_bare {x : Register} (few : x.val < 8) :
    state.bare.saveFlags? x.val = some (state.saveFlags x).bare := by
  have copied : Bare.copyFront? state.flags.toArray state.registers.toArray (x.val + 1) =
      some (state.saveFlags x).state.flags.toArray := by
    apply Bare.copyFront?_of_le
    · rw [Vector.size_toArray]
      omega
    · rw [Vector.size_toArray]
      omega
    · intro i named
      have first : i < 8 := by omega
      have register : i < 16 := by omega
      refine (Bare.getElem?_ofFn first).trans ?_
      dsimp only
      rw [if_pos (Nat.le_of_lt_succ named)]
      simp [register]
    · intro i behind
      by_cases first : i < 8
      · refine (Bare.getElem?_ofFn first).trans ?_
        dsimp only
        rw [if_neg (by omega)]
        simp [first]
      · simp [first]
  exact congrArg (Option.bind · fun flags =>
    some ({ state.bare with flags } : Bare.State).next) copied

theorem loadFlags?_bare {x : Register} (few : x.val < 8) :
    state.bare.loadFlags? x.val = some (state.loadFlags x).bare := by
  have copied : Bare.copyFront? state.registers.toArray state.flags.toArray (x.val + 1) =
      some (state.loadFlags x).state.registers.toArray := by
    apply Bare.copyFront?_of_le
    · rw [Vector.size_toArray]
      omega
    · rw [Vector.size_toArray]
      omega
    · intro i named
      have first : i < 8 := by omega
      have register : i < 16 := by omega
      refine (Bare.getElem?_ofFn register).trans ?_
      dsimp only
      rw [dif_pos ⟨first, Nat.le_of_lt_succ named⟩]
      simp [first]
    · intro i behind
      by_cases named : i < 16
      · refine (Bare.getElem?_ofFn named).trans ?_
        dsimp only
        rw [dif_neg (by omega)]
        simp [register, named]
      · simp [named]
  exact congrArg (Option.bind · fun registers =>
    some ({ state.bare with registers } : Bare.State).next) copied

/-- With a later register there is nothing to copy to or from. -/
theorem copies_eq_none {x : Nat} (late : 8 ≤ x) :
    state.bare.saveFlags? x = none ∧ state.bare.loadFlags? x = none := by
  have flags : state.bare.flags.size < x + 1 := by
    change state.flags.toArray.size < x + 1
    rw [Vector.size_toArray]
    omega
  constructor
  · rw [Bare.State.saveFlags?, Bare.copyFront?_of_short (.inl flags)]
    rfl
  · rw [Bare.State.loadFlags?, Bare.copyFront?_of_short (.inr flags)]
    rfl

end State

namespace Instruction

/-- Whether an instruction that copies flags stays within the eight of them. -/
def WithinFlags : Instruction → Prop
  | saveFlags x | loadFlags x => x.val < 8
  | _ => True

/-- An instruction that stays within the flags has a result on plain arrays, and it is the same. -/
theorem execute?_bare {instruction : Instruction} (within : instruction.WithinFlags) (state : State)
    (held : Held) :
    state.bare.execute? instruction (Array.ofFn held) =
      some (instruction.execute state held).bare := by
  cases instruction with
  | clearScreen =>
    exact state.repaint?_bare (some ·.clear) (congrArg some state.screen.clear_bare)
  | ret => exact state.ret?_bare
  | jump target => rfl
  | call target => exact state.call?_bare target
  | skipIfByte x value =>
    rw [Bare.State.execute?, State.register?_bare]
    rfl
  | skipUnlessByte x value =>
    rw [Bare.State.execute?, State.register?_bare]
    rfl
  | skipIfSame x y =>
    rw [Bare.State.execute?, State.register?_bare, State.register?_bare]
    rfl
  | skipUnlessSame x y =>
    rw [Bare.State.execute?, State.register?_bare, State.register?_bare]
    rfl
  | setByte x value => exact state.set?_bare x value
  | addByte x value =>
    rw [Bare.State.execute?, State.register?_bare]
    exact state.set?_bare x _
  | copy x y =>
    rw [Bare.State.execute?, State.register?_bare]
    exact state.set?_bare x _
  | or x y => exact state.combine?_bare x y _
  | and x y => exact state.combine?_bare x y _
  | xor x y => exact state.combine?_bare x y _
  | add x y => exact state.combineFlagged?_bare x y _ _
  | subtract x y => exact state.combineFlagged?_bare x y _ _
  | subtractFrom x y => exact state.combineFlagged?_bare x y _ _
  | shiftRight x y => exact state.shift?_bare x y _ _
  | shiftLeft x y => exact state.shift?_bare x y _ _
  | setIndex target => rfl
  | jumpOffset x base => exact state.jumpOffset?_bare x base
  | random x mask => exact state.random?_bare x mask
  | draw x y rows => exact state.draw?_bare x y (state.screen.draw?_bare_narrow _ _ _)
  | drawWide x y => exact state.draw?_bare x y (state.screen.draw?_bare_wide _ _ _)
  | skipIfKey x =>
    rw [Bare.State.execute?, State.skipOnKey?_bare, beq_true]
    rfl
  | skipUnlessKey x =>
    rw [Bare.State.execute?, State.skipOnKey?_bare, beq_false]
    rfl
  | readDelay x => exact state.set?_bare x _
  | awaitKey x => rfl
  | setDelay x => exact state.setTimers?_bare x _
  | setSound x => exact state.setTimers?_bare x _
  | addIndex x => exact state.addIndex?_bare x
  | glyph x => exact state.pointAtGlyph?_bare x _ _
  | bigGlyph x => exact state.pointAtGlyph?_bare x _ _
  | decimal x => exact state.decimal?_bare x
  | store x => exact state.store?_bare x
  | load x => exact state.load?_bare x
  | scrollDown rows =>
    exact state.repaint?_bare (·.scrollDown? rows) (state.screen.scrollDown?_bare rows)
  | scrollRight => exact state.repaint?_bare (·.scrollRight? 4) (state.screen.scrollRight?_bare 4)
  | scrollLeft => exact state.repaint?_bare (·.scrollLeft? 4) (state.screen.scrollLeft?_bare 4)
  | exit => rfl
  | lowResolution =>
    exact state.repaint?_bare (some <| ·.setGeometry .standard)
      (congrArg some (state.screen.setGeometry_bare .standard))
  | highResolution =>
    exact state.repaint?_bare (some <| ·.setGeometry .extended)
      (congrArg some (state.screen.setGeometry_bare .extended))
  | saveFlags x => exact state.saveFlags?_bare within
  | loadFlags x => exact state.loadFlags?_bare within
  | guard =>
    have pc : state.bare.pc = state.pc := rfl
    simp only [Bare.State.execute?, Bare.State.guard, execute, State.guard, pc]
    split <;> rfl
  | illegal word => rfl

end Instruction

end SuperChip
