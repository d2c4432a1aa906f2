import SuperChip.Proofs.Building
import SuperChip.Proofs.Screen.Sprites
import SuperChip.Proofs.Stepping

set_option autoImplicit false

namespace SuperChip

namespace Screen

variable (screen : Screen)

theorem lit_flipAll {places : List Nat} (stored : ∀ place ∈ places, place < 8192) (place : Nat) :
    (screen.flipAll places).1.lit place =
      (screen.lit place ^^ decide (places.count place % 2 = 1)) := by
  induction places generalizing screen with
  | nil => simp [flipAll]
  | cons first rest ih =>
    obtain ⟨inside, others⟩ := List.forall_mem_cons.mp stored
    have later := ih (screen.flip first) others
    rw [lit_flip] at later
    refine later.trans ?_
    rw [List.count_cons]
    by_cases same : first = place
    · subst same
      simp only [inside, and_self, decide_true, beq_self_eq_true, if_true, Bool.xor_assoc]
      congr 1
      -- One more turn changes whether their number is odd.
      by_cases odd : rest.count first % 2 = 1
      · have even : ¬ (rest.count first + 1) % 2 = 1 := by omega
        simp [odd, even]
      · have next : (rest.count first + 1) % 2 = 1 := by omega
        simp [odd, next]
    · simp [same]

/-- Pixels that are turned over once each are met as they were at the start. -/
theorem flipAll_hits {places : List Nat} (apart : places.Nodup) :
    (screen.flipAll places).2 = true ↔ ∃ place ∈ places, screen.lit place = true := by
  induction places generalizing screen with
  | nil => simp [flipAll]
  | cons first rest ih =>
    obtain ⟨fresh, others⟩ := List.nodup_cons.mp apart
    have untouched : ∀ place ∈ rest, (screen.flip first).lit place = screen.lit place := by
      intro place listed
      have differs : ¬ (first = place ∧ first < 8192) := fun same => fresh (same.1 ▸ listed)
      rw [lit_flip, decide_eq_false differs, Bool.xor_false]
    change (screen.lit first || ((screen.flip first).flipAll rest).2) = true ↔ _
    simp only [Bool.or_eq_true, ih _ others, List.mem_cons, or_and_right, exists_or,
      exists_eq_left]
    refine or_congr_right (exists_congr fun place => and_congr_right fun listed => ?_)
    rw [untouched place listed]

variable (x y : UInt8)

theorem geometry_draw (sprite : Sprite) :
    (screen.draw x y sprite).1.geometry = screen.geometry ∧
      (screen.draw x y sprite).1.wrap = screen.wrap :=
  screen.geometry_flipAll _

theorem lit_draw (sprite : Sprite) (place : Nat) :
    (screen.draw x y sprite).1.lit place =
      (screen.lit place ^^ decide ((screen.places x y sprite).count place % 2 = 1)) :=
  screen.lit_flipAll (screen.places_stored x y sprite) place

/-- Behind the picture nothing is drawn. -/
theorem lit_draw_margin (sprite : Sprite) {place : Nat} (behind : screen.geometry.area ≤ place) :
    (screen.draw x y sprite).1.lit place = screen.lit place := by
  have never : (screen.places x y sprite).count place = 0 :=
    List.count_eq_zero.mpr fun listed =>
      absurd (screen.places_lt_area x y sprite place listed) (Nat.not_lt_of_le behind)
  rw [lit_draw, never]
  exact Bool.xor_false _

section Short

variable {bytes : List UInt8} {wide : Bool}
  (short : bytes.length / Sprite.rowSize wide ≤ screen.height)

include short

theorem nodup_places_of_short : (screen.places x y (Sprite.ofBytes bytes wide)).Nodup := by
  apply screen.nodup_places
  intro row column marked
  have complete := ((Sprite.mem_marks_ofBytes bytes wide row column).mp marked).1
  exact Nat.lt_of_lt_of_le complete short

theorem pixel_draw {px : Nat} (narrow : px < screen.width) (py : Nat) :
    (screen.draw x y (Sprite.ofBytes bytes wide)).1.pixel px py =
      (screen.pixel px py ^^ decide (screen.Covers x y (Sprite.rowSize wide)
        (bytes.length / Sprite.rowSize wide) (bytes.getD · 0) px py)) := by
  have width : (screen.draw x y (Sprite.ofBytes bytes wide)).1.width = screen.width :=
    congrArg Geometry.width (screen.geometry_draw x y _).1
  have odd : (screen.places x y (Sprite.ofBytes bytes wide)).count (py * screen.width + px) % 2 = 1 ↔
      screen.Covers x y (Sprite.rowSize wide) (bytes.length / Sprite.rowSize wide) (bytes.getD · 0)
        px py := by
    rw [← screen.mem_places_iff x y bytes wide narrow py,
      (screen.nodup_places_of_short x y short).count]
    split <;> simp [*]
  rw [pixel, width, lit_draw, decide_eq_decide.mpr odd]
  rfl

theorem draw_collides :
    (screen.draw x y (Sprite.ofBytes bytes wide)).2 = true ↔
      ∃ px < screen.width, ∃ py < screen.height,
        screen.Covers x y (Sprite.rowSize wide) (bytes.length / Sprite.rowSize wide)
          (bytes.getD · 0) px py ∧ screen.pixel px py = true := by
  rw [draw, screen.flipAll_hits (screen.nodup_places_of_short x y short)]
  constructor
  · rintro ⟨place, listed, lit⟩
    have inside := screen.places_lt_area x y _ place listed
    have narrow := Nat.mod_lt place screen.geometry.width_pos
    have line : place / screen.width < screen.height := Nat.div_lt_of_lt_mul inside
    rw [← Nat.div_add_mod' place screen.width] at listed lit
    exact ⟨_, narrow, _, line, (screen.mem_places_iff x y bytes wide narrow _).mp listed, lit⟩
  · rintro ⟨px, narrow, py, _, covers, lit⟩
    exact ⟨_, (screen.mem_places_iff x y bytes wide narrow py).mpr covers, lit⟩

end Short

/-- Only the bytes of the complete rows matter. -/
theorem covers_congr {size rows : Nat} {byte other : Nat → UInt8}
    (same : ∀ i < size * rows, byte i = other i) (px py : Nat) :
    screen.Covers x y size rows byte px py ↔ screen.Covers x y size rows other px py := by
  refine exists_congr fun row => and_congr_right fun complete => exists_congr fun column =>
    and_congr_right fun within => ?_
  have inside : size * row + column / 8 < size * rows := by
    have half : column / 8 < size := Nat.div_lt_of_lt_mul within
    calc size * row + column / 8 < size * row + size := by omega
      _ = size * (row + 1) := (Nat.mul_succ _ _).symm
      _ ≤ size * rows := Nat.mul_le_mul_left _ complete
  rw [Sprite.bit_congr (same _ inside)]

end Screen

theorem Memory.getD_readMany (memory : Memory) (start : UInt16) {count i : Nat} (inside : i < count)
    (bound : count ≤ 0x10000) :
    (memory.readMany start count).getD i 0 = memory.cell ((start.toNat + i) % 0x1000) := by
  have offset : (UInt16.ofNat i).toNat = i := by
    change i % 65536 = i
    omega
  have wraps : (start.toNat + i) % 2 ^ 16 % 0x1000 = (start.toNat + i) % 0x1000 := by omega
  rw [readMany, List.getD_eq_getElem?_getD, List.getElem?_map, List.getElem?_range inside]
  change memory.read (start + UInt16.ofNat i) = _
  rw [read_eq_cell, UInt16.toNat_add, offset, wraps]

namespace State

variable (state : State) (word : Word)

/-- Whether the sprite of a draw word is sixteen pixels wide. -/
def drawsWide : Bool := decide (state.mode = .superChip ∧ word.n = 0)

/-- How many rows the sprite of a draw word has. -/
def drawnRows : Nat := if state.drawsWide word then 16 else word.n.val

/-- Whether the sprite of a draw word covers the pixel in column `px` of row `py`. Its bytes lie from
the index on, and go on at the start of memory. -/
def Covered (px py : Nat) : Prop :=
  state.screen.Covers (state.register word.x) (state.register word.y)
    (Sprite.rowSize (state.drawsWide word)) (state.drawnRows word)
    (fun i => state.memory.cell ((state.index.toNat + i) % 0x1000)) px py

instance (px py : Nat) : Decidable (state.Covered word px py) :=
  inferInstanceAs (Decidable (state.screen.Covers _ _ _ _ _ px py))

/-- What a draw word makes of a state. -/
structure Draws (before : State) (word : Word) (after : State) : Prop where
  pixels : ∀ px < before.screen.width, ∀ py < before.screen.height,
    after.screen.pixel px py = (before.screen.pixel px py ^^ decide (before.Covered word px py))
  /-- Behind the picture nothing changes. -/
  margin : ∀ place, before.screen.geometry.area ≤ place →
    after.screen.lit place = before.screen.lit place
  flag : after.register 15 =
    if ∃ px < before.screen.width, ∃ py < before.screen.height,
      before.Covered word px py ∧ before.screen.pixel px py = true then 1 else 0
  /-- All else is as it was. -/
  rest : after = { before.setRegister 15 (after.register 15) with
    screen := { before.screen with pixels := after.screen.pixels }
    pc := before.pc + 2 }

/-- The bytes that a draw word reads. -/
def spriteBytes : List UInt8 :=
  state.memory.readMany state.index (Sprite.rowSize (state.drawsWide word) * state.drawnRows word)

theorem execute_draw (family : word.family = 0xD) (held : Held) :
    (word.decode state.mode).execute state held =
      state.drawSprite word.x word.y
        (Sprite.ofBytes (state.spriteBytes word) (state.drawsWide word)) := by
  rw [Word.decode_draw state.mode family, spriteBytes]
  by_cases wide : state.mode = .superChip ∧ word.n = 0
  · simp only [drawnRows, drawsWide, wide, and_self, decide_true, if_true]
    rfl
  · simp only [drawnRows, drawsWide, wide, decide_false, if_false, Bool.false_eq_true]
    rw [show Sprite.rowSize false = 1 from rfl, Nat.one_mul]
    rfl

theorem drawnRows_le : state.drawnRows word ≤ 16 := by
  have below := word.n.isLt
  unfold drawnRows
  split <;> omega

/-- The bytes that a draw word reads are those of its rows. -/
theorem rows_spriteBytes :
    (state.spriteBytes word).length / Sprite.rowSize (state.drawsWide word) =
      state.drawnRows word := by
  rw [spriteBytes, Memory.readMany, List.length_map, List.length_range,
    Nat.mul_div_cancel_left _ (Sprite.rowSize_pos _)]

theorem covers_spriteBytes (px py : Nat) :
    state.screen.Covers (state.register word.x) (state.register word.y)
      (Sprite.rowSize (state.drawsWide word)) (state.drawnRows word)
      ((state.spriteBytes word).getD · 0) px py ↔ state.Covered word px py := by
  have count : Sprite.rowSize (state.drawsWide word) * state.drawnRows word ≤ 2 * 16 :=
    Nat.mul_le_mul (Sprite.rowSize_le _) (state.drawnRows_le word)
  apply state.screen.covers_congr
  intro i inside
  exact state.memory.getD_readMany state.index inside (by omega)

/-- A state with another picture and another flag, on to the next instruction. -/
def drawn (screen : Screen) (flag : UInt8) : State :=
  { state.setRegister 15 flag with screen, pc := state.pc + 2 }

theorem drawSprite_eq (x y : Register) (sprite : Sprite) :
    state.drawSprite x y sprite =
      ⟨state.drawn (state.screen.draw (state.register x) (state.register y) sprite).1
        (if (state.screen.draw (state.register x) (state.register y) sprite).2 then 1 else 0),
        .ok .redraw⟩ := rfl

theorem register_drawn (screen : Screen) (flag : UInt8) :
    (state.drawn screen flag).register 15 = flag := by
  simp [drawn, setRegister, register]

/-- If the picture is of the same kind, the pixels, the flag and the program counter are all that
differs. -/
theorem drawn_eq {screen : Screen} (kept : screen.geometry = state.screen.geometry ∧
    screen.wrap = state.screen.wrap) (flag : UInt8) :
    state.drawn screen flag = { state.setRegister 15 ((state.drawn screen flag).register 15) with
      screen := { state.screen with pixels := screen.pixels }
      pc := state.pc + 2 } := by
  rw [register_drawn]
  obtain ⟨pixels, _, _⟩ := screen
  obtain ⟨geometry, wrap⟩ := kept
  subst geometry wrap
  rfl

/-- A draw word never fails, and its sprite is never taller than the picture. -/
theorem draws_execute (family : word.family = 0xD) (held : Held) :
    ∃ after, (word.decode state.mode).execute state held = ⟨after, .ok .redraw⟩ ∧
      state.Draws word after := by
  have few := state.drawnRows_le word
  have tall : 16 ≤ state.screen.height := by
    unfold Screen.height
    cases state.screen.geometry <;> decide
  have short : (state.spriteBytes word).length / Sprite.rowSize (state.drawsWide word) ≤
      state.screen.height := by
    rw [state.rows_spriteBytes word]
    omega
  have drawn := fun px (narrow : px < state.screen.width) =>
    state.screen.pixel_draw (state.register word.x) (state.register word.y) short narrow
  have collides := state.screen.draw_collides (state.register word.x) (state.register word.y) short
  simp only [state.rows_spriteBytes word, state.covers_spriteBytes word] at drawn collides
  rw [state.execute_draw word family held, drawSprite_eq]
  refine ⟨_, rfl, ?_, ?_, ?_, ?_⟩
  · intro px narrow py _
    exact drawn px narrow py
  · intro place behind
    exact state.screen.lit_draw_margin _ _ _ behind
  · rw [register_drawn]
    simp only [collides]
  · exact state.drawn_eq (state.screen.geometry_draw _ _ _) _

end State

namespace Machine

/-- A running machine that meets a draw word turns over the pixels that its sprite covers, sets
register 15 to whether one of them was lit, and goes on to the next word; nothing else changes. -/
theorem step_draws_sprite (machine : Machine) (held : Held) (running : machine.status = .running)
    (family : machine.word.family = 0xD) :
    (machine.step held).outcome = .ok .displayUpdated ∧
      (machine.step held).machine =
        { machine with
          state := (machine.step held).machine.state
          lastWord := machine.word } ∧
      machine.state.Draws machine.word (machine.step held).machine.state := by
  obtain ⟨after, executed, draws⟩ := machine.state.draws_execute machine.word family held
  have executes : machine.instruction.execute machine.state held = ⟨after, .ok .redraw⟩ := executed
  have stepped := step_of_going held running executes (.inr rfl)
  refine ⟨?_, ?_, ?_⟩
  · rw [step_of_running held running, runInstruction_outcome, executes]
    rfl
  · rw [stepped, running]
  · rw [stepped]
    exact draws

/-- With the index far behind memory, a sprite whose left half shows at the right edge goes on at the
left edge. -/
theorem step_draws_sprite_around_edge :
    ∃ machine : Machine, machine.status = .running ∧ machine.word = 0xD001 ∧
      machine.state.index = 0xF200 ∧ ∀ held,
        (machine.step held).machine.state.screen.pixel 63 31 = true ∧
        (machine.step held).machine.state.screen.pixel 0 31 = true ∧
        (machine.step held).machine.state.screen.pixel 1 31 = false ∧
        (machine.step held).machine.state.register 15 = 0 := by
  obtain ⟨start, events, success⟩ : ∃ machine events,
      build { program := #[0xD0, 0x01] } = .ok (machine, events) := ⟨_, _, rfl⟩
  have running := running_of_build success
  have word : start.word = 0xD001 := word_of_build success
  have byte : start.state.memory.cell 0x200 = 0xD0 :=
    cell_of_build success 0x200 (by decide) (by decide)
  let state : State := { start.state with
    index := 0xF200
    registers := Vector.replicate 16 63
    screen := .blank .wrap }
  refine ⟨{ start with state }, running, word, rfl, fun held => ?_⟩
  obtain ⟨_, _, draws⟩ := step_draws_sprite { start with state } held running
    (by rw [show Machine.word { start with state } = 0xD001 from word]; rfl)
  have dark (px py : Nat) : state.screen.pixel px py = false := Screen.lit_clear (.blank .wrap) _
  have covers (px py : Nat) :
      state.Covered 0xD001 px py ↔ (Screen.blank .wrap).Covers 63 63 1 1 (fun _ => 0xD0) px py := by
    have narrow : state.drawsWide 0xD001 = false := by
      apply decide_eq_false
      rintro ⟨_, none⟩
      exact absurd none (by decide)
    rw [State.Covered, State.drawnRows, narrow]
    apply Screen.covers_congr
    intro i inside
    have first : i = 0 := Nat.lt_one_iff.mp inside
    have wraps : ((0xF200 : UInt16).toNat + 0) % 0x1000 = 0x200 := by decide
    subst first
    change start.state.memory.cell (((0xF200 : UInt16).toNat + 0) % 0x1000) = 0xD0
    rw [wraps, byte]
  have pixel (px py : Nat) (column : px < 64) (row : py < 32) :=
    draws.pixels px column py row
  have flag := draws.flag
  rw [show Machine.word { start with state } = 0xD001 from word] at pixel flag
  simp only [dark, covers] at pixel flag
  refine ⟨(pixel 63 31 (by decide) (by decide)).trans ?_,
    (pixel 0 31 (by decide) (by decide)).trans ?_, (pixel 1 31 (by decide) (by decide)).trans ?_, ?_⟩
  · decide
  · decide
  · decide
  · simpa using flag

end Machine

end SuperChip
