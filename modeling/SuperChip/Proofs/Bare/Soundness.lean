import SuperChip.Proofs.Bare.Machine
import SuperChip.Proofs.Soundness

set_option autoImplicit false

namespace SuperChip

/-- What holds of the plain arrays of every machine: how many cells they have, and what can stand in the
slots in use, the guard, the screen and the flags. -/
structure Bare.State.Sound (state : Bare.State) : Prop where
  registers : state.registers.size = 16
  slots : state.slots.size = 16
  depth : state.depth ≤ 16
  returns : ∀ number < state.depth, ∀ address, state.slots[number]? = some address →
    address.toNat ≤ 0x1001
  memory : state.memory.size = 4112
  guard : ∀ place, 4096 ≤ place → place < 4112 → state.memory[place]? = some 0xFF
  pixels : state.screen.pixels.size = 8192
  bytes : ∀ pixel ∈ state.screen.pixels, pixel = 0 ∨ pixel = 0xFF
  /-- The bytes behind the picture are those of dark pixels. -/
  margin : ∀ place, state.screen.width * state.screen.height ≤ place → place < 8192 →
    state.screen.pixels[place]? = some 0
  flags : state.flags.size = 8
  /-- The basic instruction set has one geometry and no flags. -/
  basic : state.mode = .chip8 →
    state.screen.geometry = .standard ∧ ∀ flag ∈ state.flags, flag = 0

namespace Screen

variable (screen : Screen)

theorem size_bare : screen.bare.pixels.size = 8192 := by
  rw [pixels_bare, Array.size_map, Bare.tabulate, Array.size_ofFn]

theorem bytes_bare : ∀ pixel ∈ screen.bare.pixels, pixel = 0 ∨ pixel = 0xFF := by
  intro pixel stored
  obtain ⟨lit, _, rfl⟩ := Array.mem_map.mp stored
  cases lit with
  | false => exact .inl rfl
  | true => exact .inr rfl

theorem margin_bare {screen : Screen} (framed : screen.Framed) {place : Nat}
    (behind : screen.geometry.area ≤ place) (stored : place < 8192) :
    screen.bare.pixels[place]? = some 0 := by
  have dark := framed place behind
  rw [pixels_bare, Array.getElem?_map]
  simp [Bare.tabulate, stored, dark, Bare.pixelByte, Bare.pixelOff]

end Screen

/-- The addresses in use are the first slots. -/
theorem CallStack.mem_toList {stack : CallStack} {number : Nat} {address : UInt16}
    (used : number < stack.depth.val) (found : stack.slots.toArray[number]? = some address) :
    address ∈ stack.toList := by
  have listed : stack.toList[number]? = some address := by
    rw [toList, List.getElem?_take_of_lt used, Vector.toList, Array.getElem?_toList]
    exact found
  exact List.mem_of_getElem? listed

theorem State.Sound.bare {state : State} (sound : state.Sound) : state.bare.Sound where
  registers := Vector.size_toArray _
  slots := Vector.size_toArray _
  depth := Nat.le_of_lt_succ state.stack.depth.isLt
  returns number used address found := sound.returns address (CallStack.mem_toList used found)
  memory := Vector.size_toArray _
  guard place behind inside := by
    have stands := sound.guarded place inside behind
    simpa [State.bare, inside] using stands
  pixels := state.screen.size_bare
  bytes := state.screen.bytes_bare
  margin _ behind stored := Screen.margin_bare sound.framed behind stored
  flags := Vector.size_toArray _
  basic chip8 := by
    obtain ⟨geometry, flags⟩ := sound.basic chip8
    refine ⟨geometry, fun flag listed => ?_⟩
    change flag ∈ state.flags.toArray at listed
    rw [flags] at listed
    exact (Array.mem_replicate.mp listed).2

namespace Machine

variable {c : Configuration} {machine : Machine}

/-- What can be done to a machine over plain arrays leads to machines that can be had. -/
theorem Reachable.moved (reachable : Reachable c machine) (moves : List Bare.Move) :
    Reachable c (moves.foldl Machine.moved machine) := by
  induction moves generalizing machine with
  | nil => exact reachable
  | cons move rest ih =>
    cases move with
    | step held => exact ih (reachable.step held)
    | resume key => exact ih (reachable.resume key)
    | setTimers timers => exact ih (reachable.withTimers timers)

/-- Every machine that comes from a configuration is sound, and so are its plain arrays: their sizes
never change, the stack has at most sixteen addresses in use, the guard stands, and each byte of the
screen is that of a dark or of a lit pixel. They stay sound when the machine goes on over plain
arrays. -/
theorem sound_of_reachable (reachable : Reachable c machine) :
    machine.state.stack.depth.val ≤ 16 ∧ machine.Sound c ∧ machine.bare.state.Sound ∧
    ∀ moves, ∃ later, machine.bare.follow? moves = some later ∧ later.state.Sound := by
  have sound := reachable.sound
  refine ⟨Nat.le_of_lt_succ machine.state.stack.depth.isLt, sound, sound.state.bare, ?_⟩
  intro moves
  exact ⟨_, machine.follow?_bare moves, (reachable.moved moves).sound.state.bare⟩

theorem sound_of_call :
    ∃ machine, Reachable { program := #[0x22, 0x00] } machine ∧
      machine.Sound { program := #[0x22, 0x00] } ∧ machine.bare.state.Sound := by
  have called := Reachable.step (fun _ => false)
    (Reachable.built (c := { program := #[0x22, 0x00] }) rfl)
  obtain ⟨_, sound, bare, _⟩ := sound_of_reachable called
  exact ⟨_, called, sound, bare⟩

end Machine

end SuperChip
