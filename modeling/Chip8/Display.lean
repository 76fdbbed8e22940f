import Chip8.Fault
/-!
The monochrome screen.  A sprite is drawn by flipping cells: its place wraps
around the screen, while the part that hangs over the right or the lower edge
is cut off.  A collision is a cell that was lit and goes out.
-/

namespace Chip8

/-- A screen of lit and dark cells, row by row. -/
structure Display where
  askedWidth : Length
  askedHeight : Length
  cells : Array Bool
  width_pos : 0 < askedWidth.count
  height_pos : 0 < askedHeight.count
  size_eq : cells.size = askedWidth.count * askedHeight.count
  deriving DecidableEq

namespace Display

def smallWidth : Nat := 64
def smallHeight : Nat := 32

def largeWidth : Nat := 128
def largeHeight : Nat := 64

def spriteWidth : Nat := 8

def width (display : Display) : Nat :=
  display.askedWidth.count

def height (display : Display) : Nat :=
  display.askedHeight.count

def create (width height : Length) : Except Fault Display :=
  if positive : 0 < width.value ∧ 0 < height.value then do
    checkCells (width.value * height.value)
    return {
      askedWidth := width
      askedHeight := height
      cells := Array.replicate (width.count * height.count) false
      width_pos := by simp only [Length.count]; omega
      height_pos := by simp only [Length.count]; omega
      size_eq := by simp }
  else
    .error (.displaySize width height)

def clear (display : Display) : Display :=
  { display with
    cells := Array.replicate (display.width * display.height) false
    size_eq := by simp [width, height] }

/-- A new screen has the size that was asked for, and is blank. -/
theorem blank_of_create
    {width height : Length} {display : Display} (made : create width height = .ok display) :
    (display.askedWidth = width ∧ display.askedHeight = height) ∧ display.clear = display := by
  unfold create at made
  split at made
  · cases room : checkCells (width.value * height.value) with
    | ok =>
        simp only [room, bind, Except.bind, pure, Except.pure, Except.ok.injEq] at made
        rw [← made]
        exact ⟨⟨rfl, rfl⟩, rfl⟩
    | error fault =>
        rw [room] at made
        cases made
  · cases made

theorem askedSize_of_create
    {width height : Length} {display : Display} (made : create width height = .ok display) :
    display.askedWidth = width ∧ display.askedHeight = height :=
  (blank_of_create made).1

theorem clear_of_create
    {width height : Length} {display : Display} (made : create width height = .ok display) :
    display.clear = display :=
  (blank_of_create made).2

/-- Only the size of a screen matters to the screen that is left when it is cleared. -/
theorem clear_congr
    {left right : Display} (width : left.askedWidth = right.askedWidth)
    (height : left.askedHeight = right.askedHeight) :
    left.clear = right.clear := by
  cases left
  cases right
  cases width
  cases height
  rfl

def isLit (display : Display) (place : Nat) : Bool :=
  display.cells.getD place false

theorem isLit_clear (display : Display) (place : Nat) : display.clear.isLit place = false := by
  simp only [isLit, clear, Array.getD_eq_getD_getElem?, Array.getElem?_replicate]
  split <;> rfl

def flip (cells : Array Bool) (place : Nat) : Array Bool :=
  cells.modify place (!·)

/-- The places in the buffer that one row of a sprite covers and has set. -/
def rowPlaces (display : Display) (left row : Nat) (byte : Int) : List Nat :=
  (Word.bits byte).zipIdx.filterMap fun (bit, column) =>
    if bit && decide (left + column < display.width) then
      some (row * display.width + (left + column))
    else
      none

def spritePlaces (display : Display) (x y : Int) (rows : List Int) : List Nat :=
  let left := (x % display.width).toNat
  let top := (y % display.height).toNat
  (rows.take (display.height - top)).zipIdx.flatMap fun (byte, row) =>
    display.rowPlaces left (top + row) byte

theorem size_flips (cells : Array Bool) (places : List Nat) :
    (places.foldl flip cells).size = cells.size := by
  induction places generalizing cells with
  | nil => rfl
  | cons place rest inductionHypothesis =>
      simp [inductionHypothesis, flip]

theorem getD_flip (cells : Array Bool) (place other : Nat) :
    (flip cells place).getD other false =
      if place = other ∧ other < cells.size then !cells.getD other false
      else cells.getD other false := by
  simp only [flip, Array.getD_eq_getD_getElem?, Array.getElem?_modify]
  by_cases same : place = other
  · by_cases inside : other < cells.size <;> simp [same, inside]
  · simp [same]

/-- Draw a sprite; tells whether a lit cell went out. -/
def draw (display : Display) (x y : Int) (rows : List Int) : Display × Bool :=
  let places := display.spritePlaces x y rows
  ({ display with
      cells := places.foldl flip display.cells
      size_eq := by rw [size_flips]; exact display.size_eq },
    places.any display.isLit)

@[simp]
theorem width_draw (display : Display) (x y : Int) (rows : List Int) :
    (display.draw x y rows).1.width = display.width := rfl

def pixel (display : Display) (x y : Int) : Except Fault Bool :=
  if (0 ≤ x ∧ x < display.width) ∧ 0 ≤ y ∧ y < display.height then
    .ok (display.isLit (y.toNat * display.width + x.toNat))
  else
    .error (.pixelOutside x y display.askedWidth display.askedHeight)

def litPlaces (display : Display) : List Nat :=
  (List.range display.cells.size).filter display.isLit

/-- One row of the screen, `#` for a lit and `.` for a dark cell. -/
def rowText (display : Display) (row : Nat) : String :=
  String.ofList
    ((display.cells.extract (row * display.width) ((row + 1) * display.width)).toList.map
      fun lit => if lit then '#' else '.')

def rows (display : Display) : List String :=
  (List.range display.height).map display.rowText

/-- The rows with a lit cell, without the dark cells at their end. -/
def litRows (display : Display) : List (Nat × String) :=
  (List.range display.height).filterMap fun row =>
    let lit := ((display.rowText row).toList.reverse.dropWhile (· = '.')).reverse
    if lit.isEmpty then none else some (row, String.ofList lit)

end Display

end Chip8
