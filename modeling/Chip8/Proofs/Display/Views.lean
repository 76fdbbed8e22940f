import Chip8.Proofs.Display.Superposition
import Mathlib
/-!
Three views of the screen: its rows as text, the buffer of its cells, and its
single pixels.  They agree at every pixel, since the rows follow one another in
the buffer; each cell belongs to one pixel, and there are no other pixels.
-/

namespace Chip8.Display

/-- What a host may do with a screen. -/
inductive Operation where
  | draw (sprite : PlacedSprite)
  | clear
  | reset
  deriving DecidableEq, Repr

/-- The screen after an operation; a reset only clears it. -/
def after (display : Display) : Operation → Display
  | .draw sprite => display.drawSprite sprite
  | .clear | .reset => display.clear

def run (display : Display) (operations : List Operation) : Display :=
  operations.foldl after display

theorem askedSize_after (display : Display) (operation : Operation) :
    (display.after operation).askedWidth = display.askedWidth ∧
      (display.after operation).askedHeight = display.askedHeight := by
  cases operation <;> exact ⟨rfl, rfl⟩

theorem askedSize_run (display : Display) (operations : List Operation) :
    (display.run operations).askedWidth = display.askedWidth ∧
      (display.run operations).askedHeight = display.askedHeight := by
  induction operations generalizing display with
  | nil => exact ⟨rfl, rfl⟩
  | cons operation rest inductionHypothesis =>
      obtain ⟨width, height⟩ := display.askedSize_after operation
      rw [← width, ← height]
      exact inductionHypothesis (display.after operation)

section Addresses

variable {display : Display} {column row : Nat}

theorem rowEnd_le_size (below : row < display.height) :
    (row + 1) * display.width ≤ display.cells.size := by
  calc (row + 1) * display.width
    _ ≤ display.height * display.width := Nat.mul_le_mul_right _ below
    _ = display.cells.size := (Nat.mul_comm ..).trans display.size_eq.symm

theorem getElem?_cells (inside : column < display.width) (below : row < display.height) :
    display.cells[row * display.width + column]? = some (display.litAt column row) := by
  have place : row * display.width + column < display.cells.size := by
    rw [display.size_eq]
    exact rowMajor_lt inside below
  rw [litAt, isLit, ← Array.getElem_eq_getD (h := place), Array.getElem?_eq_getElem place]

/-- A row of the buffer has as many cells as the screen has columns. -/
theorem size_row (below : row < display.height) :
    (display.cells.extract (row * display.width) ((row + 1) * display.width)).size =
      display.width := by
  rw [Array.size_extract, min_eq_left (rowEnd_le_size below), Nat.succ_mul,
    Nat.add_sub_cancel_left]

theorem length_rowText (below : row < display.height) :
    (display.rowText row).length = display.width := by
  rw [rowText, String.length_ofList, List.length_map, Array.length_toList, size_row below]

/-- A character of a row shows the cell behind as many rows and as many cells of its own. -/
theorem getElem?_rowText (inside : column < display.width) (below : row < display.height) :
    (display.rowText row).toList[column]? =
      some (if display.litAt column row then '#' else '.') := by
  have within : column < min ((row + 1) * display.width) display.cells.size -
      row * display.width := by
    rw [← Array.size_extract, size_row below]
    exact inside
  rw [rowText, String.toList_ofList, List.getElem?_map, Array.getElem?_toList,
    Array.getElem?_extract, if_pos within, getElem?_cells inside below, Option.map_some]

theorem getElem?_rows (below : row < display.height) :
    display.rows[row]? = some (display.rowText row) := by
  rw [rows, List.getElem?_map, List.getElem?_range below, Option.map_some]

theorem mem_rowText {character : Char} (member : character ∈ (display.rowText row).toList) :
    character = '#' ∨ character = '.' := by
  rw [rowText, String.toList_ofList] at member
  obtain ⟨lit, -, rfl⟩ := List.mem_map.mp member
  cases lit
  · exact .inr rfl
  · exact .inl rfl

end Addresses

/-- A screen of this size has a pixel in this column and this row. -/
def HasPixel (width height x y : Int) : Prop :=
  (0 ≤ x ∧ x < width) ∧ 0 ≤ y ∧ y < height

/-- Nothing is lit in any of the views. -/
structure Dark (display : Display) (width height : Int) : Prop where
  rows : display.rows =
    List.replicate height.toNat (String.ofList (List.replicate width.toNat '.'))
  buffer : display.cells = Array.replicate (width * height).toNat false
  pixel : ∀ x y, HasPixel width height x y → display.pixel x y = .ok false

/-- How the views of a screen of this size belong together. -/
structure ViewLaw (display : Display) (width height : Int) : Prop where
  rows : display.rows.length = height ∧ ∀ row ∈ display.rows,
    row.length = width ∧ ∀ character ∈ row.toList, character = '#' ∨ character = '.'
  buffer : display.cells.size = width * height
  outside : ∀ x y : Int, (∃ fault, display.pixel x y = .error fault ∧ fault.kind = .index) ↔
    ¬ HasPixel width height x y
  inside : ∀ x y : Int, HasPixel width height x y → ∃ lit, display.pixel x y = .ok lit ∧
    (∃ row, display.rows[y.toNat]? = some row ∧
      row.toList[x.toNat]? = some (if lit then '#' else '.')) ∧
    display.cells[(y * width + x).toNat]? = some lit
  /-- A cell is that of one pixel, and of no other. -/
  cells : ∀ (place : Nat) (lit : Bool), display.cells[place]? = some lit → ∃ x y : Int,
    HasPixel width height x y ∧ place = y * width + x ∧ display.pixel x y = .ok lit ∧
    ∀ otherX otherY : Int, HasPixel width height otherX otherY →
      place = otherY * width + otherX → otherX = x ∧ otherY = y
  cleared : ∀ operation : Operation, operation = .clear ∨ operation = .reset →
    (display.after operation).Dark width height

section Views

variable (display : Display)

theorem litAt_clear (column row : Nat) : display.clear.litAt column row = false :=
  display.isLit_clear _

theorem rowText_clear {row : Nat} (below : row < display.height) :
    display.clear.rowText row = String.ofList (List.replicate display.width '.') := by
  have length : (display.clear.rowText row).length = display.width := length_rowText below
  apply String.toList_inj.mp
  rw [String.toList_ofList]
  apply List.eq_replicate_iff.mpr
  refine ⟨length, ?_⟩
  intro character member
  obtain ⟨column, found⟩ := List.mem_iff_getElem?.mp member
  have inside : column < display.width := by
    rw [← length]
    exact (List.getElem?_eq_some_iff.mp found).1
  have shown : (display.clear.rowText row).toList[column]? =
      some (if display.clear.litAt column row then '#' else '.') := getElem?_rowText inside below
  rw [shown, litAt_clear] at found
  exact (Option.some.inj found).symm

theorem dark_clear : display.clear.Dark display.width display.height where
  rows := by
    apply List.eq_replicate_iff.mpr
    constructor
    · exact (List.length_map ..).trans List.length_range
    · intro text member
      obtain ⟨row, below, rfl⟩ := List.mem_map.mp member
      exact display.rowText_clear (List.mem_range.mp below)
  buffer := rfl
  pixel x y onScreen := by
    obtain ⟨⟨xNonneg, inside⟩, yNonneg, below⟩ := onScreen
    lift x to Nat using xNonneg
    lift y to Nat using yNonneg
    have read := pixel_eq_ok display.clear (Int.ofNat_lt.mp inside) (Int.ofNat_lt.mp below)
    rw [litAt_clear] at read
    exact read

theorem viewLaw (display : Display) : display.ViewLaw display.width display.height where
  rows := by
    constructor
    · exact congrArg Nat.cast ((List.length_map ..).trans List.length_range)
    · intro text member
      obtain ⟨row, below, rfl⟩ := List.mem_map.mp member
      have length := length_rowText (List.mem_range.mp below)
      exact ⟨congrArg Nat.cast length, fun _ => mem_rowText⟩
  buffer := by
    rw [display.size_eq]
    exact Int.natCast_mul ..
  outside x y := by
    constructor
    · rintro ⟨fault, refused, -⟩ onScreen
      have read : display.pixel x y = .ok _ := if_pos onScreen
      rw [read] at refused
      cases refused
    · intro offScreen
      exact ⟨_, if_neg offScreen, rfl⟩
  inside x y onScreen := by
    obtain ⟨⟨xNonneg, inside⟩, yNonneg, below⟩ := onScreen
    lift x to Nat using xNonneg
    lift y to Nat using yNonneg
    rw [Int.ofNat_lt] at inside below
    refine ⟨display.litAt x y, display.pixel_eq_ok inside below, ?_, ?_⟩
    · exact ⟨display.rowText y, getElem?_rows below, getElem?_rowText inside below⟩
    · exact getElem?_cells inside below
  cells place lit found := by
    obtain ⟨within, -⟩ := Array.getElem?_eq_some_iff.mp found
    obtain ⟨column, row, inside, below, rfl⟩ := display.exists_rowMajor within
    rw [getElem?_cells inside below] at found
    have onScreen : HasPixel display.width display.height column row := by
      unfold HasPixel
      omega
    refine ⟨column, row, onScreen, by push_cast; rfl, ?_, ?_⟩
    · rw [display.pixel_eq_ok inside below, Option.some.inj found]
    · rintro x y ⟨⟨xNonneg, otherInside⟩, yNonneg, otherBelow⟩ same
      lift x to Nat using xNonneg
      lift y to Nat using yNonneg
      rw [Int.ofNat_lt] at otherInside
      obtain ⟨rows, columns⟩ := rowMajor_inj inside otherInside (by exact_mod_cast same)
      rw [rows, columns]
      exact ⟨rfl, rfl⟩
  cleared operation clears := by
    rcases clears with rfl | rfl <;> exact display.dark_clear

end Views

/-- The views agree on every screen that a host can come to. -/
theorem viewLaw_of_create
    {width height : Length} {start : Display} (created : create width height = .ok start)
    (operations : List Operation) :
    (start.run operations).ViewLaw width.value height.value := by
  obtain ⟨askedWidth, askedHeight⟩ := askedSize_of_create created
  obtain ⟨keptWidth, keptHeight⟩ := start.askedSize_run operations
  have wide : ((start.run operations).width : Int) = width.value := by
    have positive := start.width_pos
    rw [askedWidth] at positive
    rw [Display.width, keptWidth, askedWidth]
    exact Int.toNat_of_nonneg (Int.lt_toNat.mp positive).le
  have high : ((start.run operations).height : Int) = height.value := by
    have positive := start.height_pos
    rw [askedHeight] at positive
    rw [Display.height, keptHeight, askedHeight]
    exact Int.toNat_of_nonneg (Int.lt_toNat.mp positive).le
  rw [← wide, ← high]
  exact (start.run operations).viewLaw

/-- A screen of three columns and two rows. -/
def small : Display where
  askedWidth := .number 3
  askedHeight := .number 2
  cells := Array.replicate 6 false
  width_pos := by decide
  height_pos := by decide
  size_eq := rfl

/-- A sprite that hangs over the right edge, drawn over another one. -/
theorem viewLaw_overhang :
    create (.number 3) (.number 2) = .ok small ∧
      (small.run [.draw ⟨0, 1, [0xC0]⟩, .draw ⟨-1, 3, [0xFF, 0xFF]⟩]).ViewLaw 3 2 :=
  have created : create (.number 3) (.number 2) = .ok small := rfl
  ⟨created, viewLaw_of_create created _⟩

example :
    (small.run [.draw ⟨0, 1, [0xC0]⟩, .draw ⟨-1, 3, [0xFF, 0xFF]⟩]).rows = ["...", "###"] := by
  decide

end Chip8.Display
