import SuperChip.Execution
import SuperChip.Proofs.Margin
import SuperChip.Proofs.Vocabulary

set_option autoImplicit false

namespace SuperChip

namespace State

theorem register_setRegister (state : State) (x r : Register) (value : UInt8) :
    (state.setRegister x value).register r = if r = x then value else state.register r := by
  simp only [register, setRegister, Fin.getElem_fin, Vector.getElem_set, Fin.val_inj, eq_comm]

/-- The flag is written last, so it stays if the result was meant for its register. -/
theorem register_setResult (state : State) (x r : Register) (value : UInt8) (flag : Bool) :
    (state.setResult x value flag).register r =
      if r = 15 then (if flag then 1 else 0) else if r = x then value else state.register r := by
  rw [setResult, register_setRegister, register_setRegister]

theorem register_load (state : State) (x r : Register) :
    (state.load x).state.register r =
      if r ≤ x then state.memory.read (state.index + UInt16.ofNat r.val) else state.register r := by
  simp only [load, next, advance, register, Fin.getElem_fin, Vector.getElem_ofFn]

theorem register_loadFlags (state : State) (x r : Register) :
    (state.loadFlags x).state.register r =
      if saved : r.val < 8 ∧ r.val ≤ x.val then state.flags[r.val] else state.register r := by
  simp only [loadFlags, next, advance, register, Fin.getElem_fin, Vector.getElem_ofFn]

end State

namespace Screen

/-- What becomes of the screen when an instruction draws. -/
structure PaintedBy (instruction : Instruction) (before after : Screen) : Prop where
  wrap : after.wrap = before.wrap
  geometry : instruction.isExtended = false → after.geometry = before.geometry
  framed : before.Framed → after.Framed

theorem paintedBy_clear (screen : Screen) (instruction : Instruction) :
    PaintedBy instruction screen screen.clear where
  wrap := rfl
  geometry _ := rfl
  framed _ := screen.framed_clear

theorem paintedBy_setGeometry (screen : Screen) (geometry : Geometry) {instruction : Instruction}
    (wide : instruction.isExtended = true) :
    PaintedBy instruction screen (screen.setGeometry geometry) where
  wrap := rfl
  geometry basic := by rw [wide] at basic; cases basic
  framed _ := screen.framed_setGeometry geometry

theorem paintedBy_draw (screen : Screen) (x y : UInt8) (sprite : Sprite)
    (instruction : Instruction) : PaintedBy instruction screen (screen.draw x y sprite).1 where
  wrap := (screen.geometry_flipAll _).2
  geometry _ := (screen.geometry_flipAll _).1
  framed framed := framed_draw framed x y sprite

theorem paintedBy_repaint (screen : Screen) (paint : Nat → Nat → Bool)
    (instruction : Instruction) : PaintedBy instruction screen (screen.repaint paint) where
  wrap := (screen.geometry_repaint paint).2
  geometry _ := (screen.geometry_repaint paint).1
  framed framed := framed_repaint framed paint

theorem paintedBy_scrollDown (screen : Screen) (rows : Nat) (instruction : Instruction) :
    PaintedBy instruction screen (screen.scrollDown rows) where
  wrap := (screen.geometry_scrollDown rows).2
  geometry _ := (screen.geometry_scrollDown rows).1
  framed framed := framed_scrollDown framed rows

end Screen

namespace Instruction

/-- Why an instruction fails in a state, if it does. -/
def failure? (instruction : Instruction) (state : State) : Option MachineError :=
  match instruction with
  | ret => if state.stack.depth = 0 then some (.stackUnderflow state.pc) else none
  | guard =>
    if 0x1000 ≤ state.pc.toNat then some (.flowGuard state.pc)
    else some (.illegalWord 0xFFFF state.pc)
  | call _ => if state.stack.depth = 16 then some (.stackOverflow state.pc) else none
  | illegal word => some (.illegalWord word state.pc)
  | _ => none

/-- The ways in which an instruction does its work. -/
inductive Does (state : State) : Instruction → Executed → Prop where
  /-- Stack, picture and flags stay, and so does memory from the guard on. -/
  | computes {instruction : Instruction} (registers : Vector UInt8 16) (index pc : UInt16)
      (timers : Timers) (memory : Memory) (generator : Generator)
      (guarded : ∀ place, 0x1000 ≤ place → memory.cell place = state.memory.cell place) :
      Does state instruction
        ⟨{ state with registers, index, pc, timers, memory, generator }, .ok .next⟩
  | calls {target : UInt16} {stack : CallStack}
      (pushed : state.stack.push? (state.pc + 2) = some stack) :
      Does state (call target) ⟨{ state with stack }.goTo target, .ok .next⟩
  | returns {address : UInt16} {stack : CallStack}
      (popped : state.stack.pop? = some (address, stack)) :
      Does state ret ⟨{ state with stack }.goTo address, .ok .next⟩
  | paints {instruction : Instruction} (registers : Vector UInt8 16) {screen : Screen}
      (painted : Screen.PaintedBy instruction state.screen screen) :
      Does state instruction ({ state with registers, screen }).redraw
  | saves (x : Register) (flags : Vector UInt8 8) :
      Does state (saveFlags x) ({ state with flags }).next
  | awaits (x : Register) : Does state (awaitKey x) (state.awaitKey x)
  | exits : Does state exit state.exit

theorem Does.result_ok {state : State} {instruction : Instruction} {executed : Executed}
    (does : instruction.Does state executed) : ∃ effect, executed.result = .ok effect := by
  cases does <;> exact ⟨_, rfl⟩

theorem Does.extended_of_exit {state : State} {instruction : Instruction} {executed : Executed}
    (does : instruction.Does state executed) (ends : executed.result = .ok .exit) :
    instruction.isExtended = true := by
  cases does with
  | exits => rfl
  | _ => cases ends

theorem Does.screen_eq {state : State} {instruction : Instruction} {executed : Executed}
    (does : instruction.Does state executed) (plain : executed.result ≠ .ok .redraw) :
    executed.state.screen = state.screen := by
  cases does with
  | paints => exact absurd rfl plain
  | _ => rfl

/-- An instruction that fails leaves the state as it is. -/
theorem execute_of_failure {instruction : Instruction} {state : State} {error : MachineError}
    (failure : instruction.failure? state = some error) (held : Held) :
    instruction.execute state held = ⟨state, .error error⟩ := by
  cases instruction with
  | ret =>
    simp only [failure?, Option.ite_none_right_eq_some, Option.some.injEq] at failure
    obtain ⟨empty, rfl⟩ := failure
    have exhausted : state.stack.pop? = none := by
      rw [CallStack.pop?_eq_none_iff, ← List.length_eq_zero_iff, CallStack.length_toList, empty]
      rfl
    simp only [execute, State.ret, exhausted]
  | call target =>
    simp only [failure?, Option.ite_none_right_eq_some, Option.some.injEq] at failure
    obtain ⟨full, rfl⟩ := failure
    have refused : state.stack.push? (state.pc + 2) = none := by
      rw [CallStack.push?_eq_none_iff, CallStack.length_toList, full]
      rfl
    simp only [execute, State.call, refused]
  | guard =>
    simp only [failure?] at failure
    simp only [execute, State.guard, State.illegal]
    split at failure <;> cases failure <;> simp only [*, if_true, if_false]
  | illegal word =>
    cases failure
    rfl
  | _ => cases failure

theorem does_execute {instruction : Instruction} {state : State}
    (succeeds : instruction.failure? state = none) (held : Held) :
    instruction.Does state (instruction.execute state held) := by
  cases instruction with
  | clearScreen => exact .paints _ (state.screen.paintedBy_clear _)
  | ret =>
    have used : ¬ state.stack.depth = 0 := by simpa [failure?] using succeeds
    cases popped : state.stack.pop? with
    | none =>
      rw [CallStack.pop?_eq_none_iff, ← List.length_eq_zero_iff, CallStack.length_toList] at popped
      exact absurd (Fin.ext popped) used
    | some top =>
      simp only [execute, State.ret, popped]
      exact .returns popped
  | call target =>
    have free : ¬ state.stack.depth = 16 := by simpa [failure?] using succeeds
    cases pushed : state.stack.push? (state.pc + 2) with
    | none =>
      rw [CallStack.push?_eq_none_iff, CallStack.length_toList] at pushed
      exact absurd (Fin.ext pushed) free
    | some stack =>
      simp only [execute, State.call, pushed]
      exact .calls pushed
  | skipIfByte x value => exact .computes _ _ _ _ _ _ fun _ _ => rfl
  | guard =>
    simp only [failure?] at succeeds
    split at succeeds <;> cases succeeds
  | illegal word => cases succeeds
  | decimal x =>
    exact .computes _ _ _ _ _ _ fun place => Memory.cell_writeMany_guard _ _ _ place
  | store x => exact .computes _ _ _ _ _ _ fun place => Memory.cell_writeMany_guard _ _ _ place
  | draw x y rows => exact .paints _ (state.screen.paintedBy_draw _ _ _ _)
  | drawWide x y => exact .paints _ (state.screen.paintedBy_draw _ _ _ _)
  | scrollDown rows => exact .paints _ (state.screen.paintedBy_scrollDown _ _)
  | scrollRight => exact .paints _ (state.screen.paintedBy_repaint _ _)
  | scrollLeft => exact .paints _ (state.screen.paintedBy_repaint _ _)
  | lowResolution => exact .paints _ (state.screen.paintedBy_setGeometry _ rfl)
  | highResolution => exact .paints _ (state.screen.paintedBy_setGeometry _ rfl)
  | saveFlags x => exact .saves x _
  | awaitKey x => exact .awaits x
  | exit => exact .exits
  | _ => exact .computes _ _ _ _ _ _ fun _ _ => rfl

end Instruction

end SuperChip
