import SuperChip.Terminal.Grid
import SuperChip.Terminal.Renderer

set_option autoImplicit false

namespace SuperChip.Terminal

namespace Renderer

/-- Paints cells one after the other, setting the colours for each. -/
def paintPlain (cells : List (Colour × Colour)) : List Operation :=
  cells.flatMap fun cell => [.foreground cell.1, .background cell.2, .halfBlock]

/-- Paints text rows from the one with a number on, setting the colours for each cell. -/
def paintRowsPlain (number : Nat) : List (List (Colour × Colour)) → List Operation
  | [] => []
  | cells :: rest =>
    .moveTo (UInt16.ofNat number) :: paintPlain cells ++ paintRowsPlain (number + 1) rest

end Renderer

open Renderer

namespace Grid

variable (grid : Grid)

/-- Whether the colours in use are those that a painter goes by, if it goes by any. -/
def Uses (current : Option (Colour × Colour)) : Prop :=
  ∀ cell, current = some cell → grid.foreground = some cell.1 ∧ grid.background = some cell.2

theorem uses_none : grid.Uses none := by
  intro cell none
  cases none

/-- A cell that is painted with its colours set leaves them in use. -/
theorem uses_painted (cell : Colour × Colour) :
    (((grid.perform (.foreground cell.1)).perform (.background cell.2)).perform .halfBlock).Uses
      (some cell) := by
  intro other same
  cases same
  exact ⟨rfl, rfl⟩

variable {grid}

/-- Setting the colours that are in use changes nothing. -/
theorem Uses.set {cell : Colour × Colour} (uses : grid.Uses (some cell)) :
    (grid.perform (.foreground cell.1)).perform (.background cell.2) = grid := by
  obtain ⟨foreground, background⟩ := uses cell rfl
  simp only [perform, ← foreground, ← background]

/-- Cells painted with the colours set where they change look as if the colours were set for each of
them, and the painter knows the colours in use afterwards. -/
theorem Uses.paint {current : Option (Colour × Colour)} (uses : grid.Uses current)
    (cells : List (Colour × Colour)) :
    grid.performAll (Renderer.paint current cells).1 = grid.performAll (paintPlain cells) ∧
      (grid.performAll (paintPlain cells)).Uses (Renderer.paint current cells).2 := by
  induction cells generalizing grid current with
  | nil => exact ⟨rfl, uses⟩
  | cons cell rest ih =>
    obtain ⟨same, known⟩ := ih (grid.uses_painted cell)
    refine ⟨?_, ?_⟩
    · by_cases unchanged : current = some cell
      · rw [unchanged] at uses
        have set := uses.set
        simp only [Renderer.paint, unchanged, if_true, performAll_cons]
        rw [← set]
        exact same
      · simp only [Renderer.paint, unchanged, if_false, performAll_cons]
        exact same
    · by_cases unchanged : current = some cell
      · simp only [Renderer.paint, unchanged, if_true]
        exact known
      · simp only [Renderer.paint, unchanged, if_false]
        exact known

theorem Uses.paintRows {current : Option (Colour × Colour)} (uses : grid.Uses current)
    (number : Nat) (rows : List (List (Colour × Colour))) :
    grid.performAll (Renderer.paintRows current number rows) =
      grid.performAll (paintRowsPlain number rows) := by
  induction rows generalizing grid current number with
  | nil => rfl
  | cons cells rest ih =>
    have moved : (grid.perform (.moveTo (UInt16.ofNat number))).Uses current := uses
    obtain ⟨same, known⟩ := moved.paint cells
    simp only [Renderer.paintRows, paintRowsPlain, List.cons_append, performAll_cons,
      performAll_append, same]
    exact ih known (number + 1)

variable (grid)

theorem size_performAll (operations : List Operation) :
    (grid.performAll operations).columns = grid.columns ∧
      (grid.performAll operations).rows = grid.rows := by
  induction operations generalizing grid with
  | nil => exact ⟨rfl, rfl⟩
  | cons operation rest ih =>
    have performed : (grid.perform operation).columns = grid.columns ∧
        (grid.perform operation).rows = grid.rows := by
      cases operation <;> exact ⟨rfl, rfl⟩
    obtain ⟨columns, rows⟩ := ih (grid.perform operation)
    exact ⟨columns.trans performed.1, rows.trans performed.2⟩

variable {grid}

/-- The block that a cell is painted as. -/
def block (cell : Colour × Colour) : Cell := .halfBlock (some cell.1) (some cell.2)

/-- A cell painted within the grid stands at the cursor, and what was elsewhere stays. -/
theorem cell_painted (cell : Colour × Colour) (column : grid.column < grid.columns)
    (row : grid.row < grid.rows) (x y : Nat) :
    (((grid.perform (.foreground cell.1)).perform (.background cell.2)).perform .halfBlock).cell
        x y =
      if x = grid.column ∧ y = grid.row then block cell else grid.cell x y := by
  change (if x = grid.column ∧ y = grid.row ∧ x < grid.columns ∧ y < grid.rows then block cell
    else grid.cell x y) = _
  by_cases here : x = grid.column ∧ y = grid.row
  · rw [if_pos here, if_pos (by omega)]
  · rw [if_neg here, if_neg fun inside => here ⟨inside.1, inside.2.1⟩]

/-- Cells painted from the cursor on stand there, and what was elsewhere stays. -/
theorem cell_paintPlain (cells : Nat → Colour × Colour) {start count : Nat}
    (cursor : grid.column = start) (fits : start + count ≤ grid.columns)
    (inside : grid.row < grid.rows) (x y : Nat) :
    (grid.performAll (paintPlain ((List.range' start count).map cells))).cell x y =
      if y = grid.row ∧ start ≤ x ∧ x < start + count then block (cells x) else grid.cell x y := by
  induction count generalizing grid start with
  | zero =>
    have none : ¬ (y = grid.row ∧ start ≤ x ∧ x < start + 0) := by omega
    rw [if_neg none]
    rfl
  | succ count ih =>
    -- The cells still to come stand to the right of the first and leave it alone.
    let painted := ((grid.perform (.foreground (cells start).1)).perform
      (.background (cells start).2)).perform .halfBlock
    have next : painted.column = start + 1 := congrArg (· + 1) cursor
    have here : painted.cell x y =
        if x = grid.column ∧ y = grid.row then block (cells start) else grid.cell x y :=
      cell_painted (cells start) (by omega) inside x y
    have rest : (painted.performAll (paintPlain ((List.range' (start + 1) count).map cells))).cell
        x y = if y = grid.row ∧ start + 1 ≤ x ∧ x < start + 1 + count then block (cells x)
          else painted.cell x y :=
      ih next (by change start + 1 + count ≤ grid.columns; omega) inside
    change (painted.performAll (paintPlain ((List.range' (start + 1) count).map cells))).cell x y = _
    rw [rest, here, cursor]
    by_cases later : y = grid.row ∧ start + 1 ≤ x ∧ x < start + 1 + count
    · rw [if_pos later, if_pos (by omega)]
    · rw [if_neg later]
      by_cases first : x = start ∧ y = grid.row
      · rw [if_pos first, if_pos (by omega), first.1]
      · rw [if_neg first, if_neg (by omega)]

/-- Rows painted one below the other stand where their numbers say, and what was elsewhere stays. -/
theorem cell_paintRowsPlain (cells : Nat → Nat → Colour × Colour) {width number count : Nat}
    (wide : width ≤ grid.columns) (high : number + count ≤ grid.rows)
    (counted : number + count ≤ 65536) (x y : Nat) :
    (grid.performAll (paintRowsPlain number ((List.range' number count).map fun row =>
        (List.range' 0 width).map (cells row)))).cell x y =
      if number ≤ y ∧ y < number + count ∧ x < width then block (cells y x)
      else grid.cell x y := by
  induction count generalizing grid number with
  | zero =>
    have none : ¬ (number ≤ y ∧ y < number + 0 ∧ x < width) := by omega
    rw [if_neg none]
    rfl
  | succ count ih =>
    -- A row number below 65536 is told as it is, and the rows still to come stand below it.
    let moved := grid.perform (.moveTo (UInt16.ofNat number))
    let painted := moved.performAll (paintPlain ((List.range' 0 width).map (cells number)))
    have row : moved.row = number := UInt16.toNat_ofNat_of_lt' (by change number < 65536; omega)
    have here : painted.cell x y =
        if y = number ∧ x < width then block (cells number x) else grid.cell x y := by
      have one : painted.cell x y = if y = moved.row ∧ 0 ≤ x ∧ x < 0 + width then
          block (cells number x) else moved.cell x y :=
        cell_paintPlain (cells number) rfl (by change 0 + width ≤ grid.columns; omega)
          (by rw [row]; change number < grid.rows; omega) x y
      rw [one, row]
      simp only [Nat.zero_le, true_and, Nat.zero_add]
      rfl
    have size : painted.columns = grid.columns ∧ painted.rows = grid.rows :=
      moved.size_performAll _
    have rest := @ih painted (number + 1) (by omega) (by omega) (by omega)
    rw [List.range'_succ, List.map_cons, paintRowsPlain, List.cons_append, performAll_cons,
      performAll_append]
    change (painted.performAll _).cell x y = _
    rw [rest, here]
    by_cases later : number + 1 ≤ y ∧ y < number + 1 + count ∧ x < width
    · rw [if_pos later, if_pos (by omega)]
    · rw [if_neg later]
      by_cases first : y = number ∧ x < width
      · rw [if_pos first, if_pos (by omega), first.1]
      · rw [if_neg first, if_neg (by omega)]

end Grid

/-- Whether a picture has room on a terminal. A terminal is told of rows in sixteen bits, so a picture
has fewer than 65536 pixels from top to bottom. -/
structure Fits (grid : Grid) (frame : Frame) : Prop where
  width : frame.width ≤ grid.columns
  rows : (frame.height + 1) / 2 ≤ grid.rows
  height : frame.height < 65536

/-- Whether a terminal is blank where a picture of some size does not reach. -/
def BlankBeyond (grid : Grid) (width height : Nat) : Prop :=
  ∀ x y, ¬ (x < width ∧ 2 * y < height) → grid.cell x y = .blank none

/-- Whether a terminal shows a picture and nothing else, and has its own colours in use. -/
structure Shows (lit dark : Colour) (grid : Grid) (frame : Frame) : Prop where
  /-- The upper half of a cell is a pixel of an even row, the lower half is the pixel below it; below
  the last row there are dark pixels. -/
  cell : ∀ x y, x < frame.width → 2 * y < frame.height →
    grid.cell x y = .halfBlock
      (some (if frame.lit x (2 * y) then lit else dark))
      (some (if 2 * y + 1 < frame.height ∧ frame.lit x (2 * y + 1) then lit else dark))
  blank : BlankBeyond grid frame.width frame.height
  foreground : grid.foreground = none
  background : grid.background = none

/-- A picture painted on a terminal that is blank around it is all that the terminal shows. -/
theorem shows_painted {grid : Grid} {renderer : Renderer} {frame : Frame} (fits : Fits grid frame)
    (blank : BlankBeyond grid frame.width frame.height) :
    Shows renderer.lit renderer.dark
      ((grid.performAll (paintRows none 0 (renderer.rows frame))).perform .resetColours) frame := by
  have rows : renderer.rows frame = (List.range' 0 ((frame.height + 1) / 2)).map fun row =>
      (List.range' 0 frame.width).map (renderer.cell frame row) := by
    rw [Renderer.rows, List.range_eq_range']
    apply List.map_congr_left
    intro number _
    rw [Renderer.row, List.range_eq_range']
  have painted (x y : Nat) :
      (grid.performAll (paintRows none 0 (renderer.rows frame))).cell x y =
        if 0 ≤ y ∧ y < 0 + (frame.height + 1) / 2 ∧ x < frame.width then
          Grid.block (renderer.cell frame y x) else grid.cell x y := by
    have high := fits.rows
    have low := fits.height
    rw [grid.uses_none.paintRows, rows]
    exact Grid.cell_paintRowsPlain (renderer.cell frame) fits.width (by omega) (by omega) x y
  constructor
  · intro x y left above
    change (grid.performAll _).cell x y = _
    rw [painted, if_pos (by omega)]
    simp only [Grid.block, Renderer.cell, Renderer.colour, Bool.and_eq_true, decide_eq_true_eq]
  · intro x y outside
    change (grid.performAll _).cell x y = _
    rw [painted, if_neg (by omega)]
    exact blank x y outside
  · rfl
  · rfl

/-- How a terminal and its display stand between pictures: no writing was refused, and the terminal is
blank where the picture on it does not reach. -/
structure Tidy (lit dark : Colour) (grid : Grid) (display : Display) : Prop where
  accepts : display.refused = none
  lit : display.renderer.lit = lit
  dark : display.renderer.dark = dark
  blank : ∀ width height, display.renderer.size = some (width, height) →
    BlankBeyond grid width height

variable {lit dark : Colour} {grid : Grid} {display : Display} {frame : Frame}

/-- A picture presented on a tidy terminal is what it shows, and leaves it tidy. -/
theorem Tidy.present (tidy : Tidy lit dark grid display) (fits : Fits grid frame) :
    Shows lit dark (grid.performAll (display.present none frame).1) frame ∧
      Tidy lit dark (grid.performAll (display.present none frame).1)
        (display.present none frame).2 := by
  obtain ⟨accepts, rfl, rfl, blank⟩ := tidy
  have presented : display.present none frame =
      ((display.renderer.present frame).1, ⟨(display.renderer.present frame).2, none⟩) := by
    simp only [Display.present, accepts]
    rfl
  have shows : Shows display.renderer.lit display.renderer.dark
      (grid.performAll (display.renderer.present frame).1) frame := by
    simp only [Renderer.present, Grid.performAll_append]
    by_cases same : display.renderer.size = some (frame.width, frame.height)
    · rw [if_pos same]
      exact shows_painted fits (blank _ _ same)
    · rw [if_neg same]
      let cleared := (grid.perform .resetColours).perform .clear
      have room : Fits cleared frame := ⟨fits.width, fits.rows, fits.height⟩
      exact shows_painted room fun _ _ _ => rfl
  rw [presented]
  refine ⟨shows, rfl, rfl, rfl, ?_⟩
  intro width height sized
  cases sized
  exact shows.blank

/-- A terminal and its display after pictures, none of them refused. -/
def Grid.presentAll (grid : Grid) (display : Display) : List Frame → Grid × Display
  | [] => (grid, display)
  | frame :: rest =>
    let (operations, next) := display.present none frame
    (grid.performAll operations).presentAll next rest

theorem Fits.presented (fits : Fits grid frame) (operations : List Operation) :
    Fits (grid.performAll operations) frame := by
  obtain ⟨columns, rows⟩ := grid.size_performAll operations
  obtain ⟨width, room, height⟩ := fits
  exact ⟨by rw [columns]; exact width, by rw [rows]; exact room, height⟩

theorem Tidy.presentAll (tidy : Tidy lit dark grid display) {frames : List Frame}
    (fits : ∀ shown ∈ frames ++ [frame], Fits grid shown) :
    Shows lit dark (grid.presentAll display (frames ++ [frame])).1 frame := by
  induction frames generalizing grid display with
  | nil =>
    have room := fits frame (List.mem_singleton.mpr rfl)
    exact (tidy.present room).1
  | cons first rest ih =>
    rw [List.cons_append, List.forall_mem_cons] at fits
    have next := (tidy.present fits.1).2
    exact ih next fun shown listed => (fits.2 shown listed).presented _

/-- A terminal shows every picture faithfully. Whatever was on the terminal and whichever colours it
had in use, after each of the pictures presented, of any sizes that have room, it shows the last one:
in each cell a pixel of an even row above the pixel below it, in the colours of lit and dark pixels,
and nothing anywhere else; and its own colours are in use again. -/
theorem pictures_shown (lit dark : Colour) (grid : Grid) (frames : List Frame) (frame : Frame)
    (fits : ∀ shown ∈ frames ++ [frame], Fits grid shown) :
    Shows lit dark (grid.presentAll (.fresh lit dark) (frames ++ [frame])).1 frame := by
  have start : Tidy lit dark grid (.fresh lit dark) :=
    ⟨rfl, rfl, rfl, fun _ _ sized => nomatch sized⟩
  exact start.presentAll fits

/-- A picture of one lit pixel behind one of two rows of two, on a terminal full of something else:
the pixel stands above a dark one, and the rest of the wider picture is gone. -/
theorem pictures_shown_smaller :
    let full : Grid := ⟨80, 24, fun _ _ => .halfBlock (some .white) none, 7, 9, some .black, none⟩
    let shown := (full.presentAll (.fresh .white .black)
      [⟨2, 2, #[true, false, true, true]⟩, ⟨1, 1, #[true]⟩]).1
    shown.cell 0 0 = .halfBlock (some .white) (some .black) ∧ shown.cell 1 0 = .blank none ∧
      shown.foreground = none := by
  intro full shown
  have fits : ∀ picture ∈ [⟨2, 2, #[true, false, true, true]⟩] ++ [⟨1, 1, #[true]⟩],
      Fits full picture := by
    rw [List.singleton_append, List.forall_mem_cons, List.forall_mem_singleton]
    exact ⟨⟨by decide, by decide, by decide⟩, ⟨by decide, by decide, by decide⟩⟩
  have shows := pictures_shown .white .black full [⟨2, 2, #[true, false, true, true]⟩]
    ⟨1, 1, #[true]⟩ fits
  refine ⟨?_, ?_, shows.foreground⟩
  · exact shows.cell 0 0 (by decide) (by decide)
  · exact shows.blank 1 0 (by decide)

end SuperChip.Terminal
