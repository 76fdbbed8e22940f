import Chip8.Display
import Mathlib
/-!
Sprites, pixel by pixel.  Drawing flips exactly the pixels at which the sprite
has a set bit, and tells whether one of them was lit.  The places that it flips
are all different, so that no pixel is flipped back, and they stand in the
buffer where the pixels do.
-/

namespace Chip8

/-- A bit of a number of any sign, by division and as its binary digit. -/
theorem Word.decide_div_mod_eq_testBit (number : Int) (place : Nat) :
    decide (number / Nat.pow 2 place % 2 = 1) = number.testBit place := by
  have positive : 0 < 2 ^ place := Nat.two_pow_pos place
  have power : ((Nat.pow 2 place : Nat) : Int) = ((2 ^ place : Nat) : Int) := rfl
  rw [power]
  cases number with
  | ofNat number =>
      rw [Int.testBit, Nat.testBit_eq_decide_div_mod_eq, decide_eq_decide, Int.ofNat_eq_natCast]
      omega
  | negSucc number =>
      have quotient : Int.negSucc number / ((2 ^ place : Nat) : Int) =
          -((number / 2 ^ place : Nat) : Int) - 1 := by
        rw [Int.negSucc_ediv number (by exact_mod_cast positive)]
        push_cast
        ring_nf
        rfl
      rw [Int.testBit, Nat.testBit_eq_decide_div_mod_eq, quotient, ← decide_not, decide_eq_decide]
      omega

/-- The bits of a byte, counted from the most significant one. -/
theorem Word.getElem?_bits (byte : Int) (column : Nat) :
    (bits byte)[column]? = if column < 8 then some (byte.testBit (7 - column)) else none := by
  have digits : bits byte = [7, 6, 5, 4, 3, 2, 1, 0].map byte.testBit := by
    simp only [bits, decide_div_mod_eq_testBit]
  rw [digits]
  by_cases inside : column < 8
  · rw [if_pos inside]
    interval_cases column <;> rfl
  · rw [if_neg inside]
    exact List.getElem?_eq_none (by simpa using Nat.le_of_not_lt inside)

theorem nodup_zipIdx {α : Type} (items : List α) : items.zipIdx.Nodup := by
  apply List.Nodup.of_map Prod.snd
  rw [List.zipIdx_map_snd]
  exact List.nodup_range'

namespace Display

/-- The place in the buffer tells the row and the column of its pixel. -/
theorem rowMajor_inj
    {width row column otherRow otherColumn : Nat}
    (inside : column < width) (otherInside : otherColumn < width)
    (same : row * width + column = otherRow * width + otherColumn) :
    row = otherRow ∧ column = otherColumn := by
  have columns : column = otherColumn := by
    have remainders := congrArg (· % width) same
    simpa [Nat.mul_add_mod_self_right, Nat.mod_eq_of_lt, inside, otherInside] using remainders
  subst columns
  have positive : 0 < width := Nat.zero_lt_of_lt inside
  exact ⟨Nat.eq_of_mul_eq_mul_right positive (Nat.add_right_cancel same), rfl⟩

theorem rowMajor_lt
    {width height row column : Nat} (inside : column < width) (below : row < height) :
    row * width + column < width * height := by
  calc row * width + column
    _ < row * width + width := Nat.add_lt_add_left inside _
    _ = width * (row + 1) := by ring
    _ ≤ width * height := Nat.mul_le_mul_left width below

/-- Each place in the buffer is that of a pixel. -/
theorem exists_rowMajor
    (display : Display) {place : Nat} (inside : place < display.cells.size) :
    ∃ column row, column < display.width ∧ row < display.height ∧
      place = row * display.width + column := by
  rw [display.size_eq] at inside
  refine ⟨place % display.width, place / display.width, Nat.mod_lt _ display.width_pos,
    Nat.div_lt_of_lt_mul inside, ?_⟩
  exact (Nat.div_add_mod' place display.width).symm

variable (display : Display) (x y : Int) (rows : List Int)

/-- Whether the pixel in a column and a row is lit. -/
def litAt (column row : Nat) : Bool :=
  display.isLit (row * display.width + column)

theorem pixel_eq_ok
    {column row : Nat} (inside : column < display.width) (below : row < display.height) :
    display.pixel column row = .ok (display.litAt column row) :=
  if_pos ⟨⟨Int.natCast_nonneg column, Int.ofNat_lt.mpr inside⟩, Int.natCast_nonneg row,
    Int.ofNat_lt.mpr below⟩

theorem pixel_eq_ok_iff {column row : Nat} {lit : Bool} :
    display.pixel column row = .ok lit ↔
      column < display.width ∧ row < display.height ∧ display.litAt column row = lit := by
  by_cases onScreen : column < display.width ∧ row < display.height
  · rw [pixel_eq_ok display onScreen.1 onScreen.2]
    simp [onScreen]
  · rw [pixel, if_neg (by omega)]
    simp only [reduceCtorEq, false_iff]
    tauto

/--
Whether a sprite has a set bit at a pixel.  Its origin wraps around the screen,
its rows are eight bits wide, and the most significant bit is the leftmost.
-/
def spriteBit (column row : Nat) : Bool :=
  let across := (column : Int) - x % display.width
  let down := (row : Int) - y % display.height
  decide (0 ≤ across ∧ across ≤ 7 ∧ 0 ≤ down ∧ down < rows.length) &&
    (rows.getD down.toNat 0).testBit (7 - across).toNat

variable {display x y rows}

theorem mem_rowPlaces {left row place : Nat} {byte : Int} :
    place ∈ display.rowPlaces left row byte ↔
      ∃ column, left ≤ column ∧ column ≤ left + 7 ∧ column < display.width ∧
        byte.testBit (7 - (column - left)) = true ∧ place = row * display.width + column := by
  simp only [rowPlaces, List.mem_filterMap, Prod.exists, List.mem_zipIdx_iff_getElem?,
    Word.getElem?_bits]
  constructor
  · rintro ⟨bit, across, found, taken⟩
    split at found
    next inside =>
      split at taken
      next set =>
        cases found
        cases taken
        rw [Bool.and_eq_true, decide_eq_true_eq] at set
        refine ⟨left + across, by omega, by omega, set.2, ?_, rfl⟩
        rw [Nat.add_sub_cancel_left]
        exact set.1
      next unset => cases taken
    next outside => cases found
  · rintro ⟨column, behind, near, inside, set, rfl⟩
    have sum : left + (column - left) = column := Nat.add_sub_cancel' behind
    refine ⟨true, column - left, ?_, ?_⟩
    · rw [if_pos (by omega), set]
    · rw [sum, if_pos (by simpa using inside)]

theorem nodup_rowPlaces (left row : Nat) (byte : Int) :
    (display.rowPlaces left row byte).Nodup := by
  refine List.Nodup.filterMap ?_ (nodup_zipIdx (Word.bits byte))
  rintro ⟨bit, column⟩ ⟨otherBit, otherColumn⟩ place taken otherTaken
  simp only [Option.mem_def] at taken otherTaken
  split at taken
  next set =>
    split at otherTaken
    next otherSet =>
      have same := (Option.some.inj taken).trans (Option.some.inj otherTaken).symm
      simp only [Bool.and_eq_true, decide_eq_true_eq] at set otherSet
      obtain ⟨-, columns⟩ := rowMajor_inj set.2 otherSet.2 same
      rw [set.1, otherSet.1, Nat.add_left_cancel columns]
    next => cases otherTaken
  next => cases taken

/-- The places of a sprite are those of the pixels at which it has a set bit. -/
theorem mem_spritePlaces {place : Nat} :
    place ∈ display.spritePlaces x y rows ↔
      ∃ column row, column < display.width ∧ row < display.height ∧
        display.spriteBit x y rows column row = true ∧
        place = row * display.width + column := by
  have wide : (0 : Int) < display.width := Int.ofNat_lt.mpr display.width_pos
  have high : (0 : Int) < display.height := Int.ofNat_lt.mpr display.height_pos
  have leftNonneg := Int.emod_nonneg x wide.ne'
  have topNonneg := Int.emod_nonneg y high.ne'
  simp only [spritePlaces, List.mem_flatMap, Prod.exists, List.mem_zipIdx_iff_getElem?,
    List.getElem?_take, mem_rowPlaces, spriteBit, Bool.and_eq_true, decide_eq_true_eq]
  constructor
  · rintro ⟨byte, down, found, column, behind, near, inside, set, rfl⟩
    split at found
    next below =>
      obtain ⟨exists', rfl⟩ := List.getElem?_eq_some_iff.mp found
      have downward : ((((y % display.height).toNat + down : Nat) : Int) -
          y % display.height).toNat = down := by omega
      have across : (7 - ((column : Int) - x % display.width)).toNat =
          7 - (column - (x % display.width).toNat) := by omega
      refine ⟨column, (y % display.height).toNat + down, inside, by omega, ⟨by omega, ?_⟩, rfl⟩
      rw [downward, across, List.getD_eq_getElem _ _ exists']
      exact set
    next => cases found
  · rintro ⟨column, row, inside, below, ⟨covered, set⟩, rfl⟩
    have within : ((row : Int) - y % display.height).toNat < rows.length := by omega
    have across : 7 - (column - (x % display.width).toNat) =
        (7 - ((column : Int) - x % display.width)).toNat := by omega
    refine ⟨rows[((row : Int) - y % display.height).toNat],
      ((row : Int) - y % display.height).toNat, ?_, column, by omega, by omega, inside, ?_, ?_⟩
    · rw [if_pos (by omega), List.getElem?_eq_getElem within]
    · rw [across]
      rw [List.getD_eq_getElem _ _ within] at set
      exact set
    · congr 2
      omega

theorem nodup_spritePlaces : (display.spritePlaces x y rows).Nodup := by
  refine List.nodup_flatMap.mpr ⟨fun _ _ => nodup_rowPlaces _ _ _, ?_⟩
  refine (nodup_zipIdx _).pairwise_of_forall_ne ?_
  rintro ⟨byte, row⟩ membership ⟨otherByte, otherRow⟩ otherMembership different
  rw [Function.onFun, List.disjoint_left]
  intro place covered otherCovered
  obtain ⟨column, -, -, inside, -, rfl⟩ := mem_rowPlaces.mp covered
  obtain ⟨otherColumn, -, -, otherInside, -, same⟩ := mem_rowPlaces.mp otherCovered
  -- two rows with a common place are one row, and then have one byte
  obtain ⟨sameRow, -⟩ := rowMajor_inj inside otherInside same
  have index : row = otherRow := Nat.add_left_cancel sameRow
  subst index
  rw [List.mem_zipIdx_iff_getElem?] at membership otherMembership
  simp only at membership otherMembership
  rw [membership] at otherMembership
  exact different (by rw [Option.some.inj otherMembership])

theorem lt_size_of_mem_spritePlaces
    {place : Nat} (covered : place ∈ display.spritePlaces x y rows) :
    place < display.cells.size := by
  obtain ⟨column, row, inside, below, -, rfl⟩ := mem_spritePlaces.mp covered
  rw [display.size_eq]
  exact rowMajor_lt inside below

/-- Flipping different places inside the buffer flips their cells and no others. -/
theorem getD_flips
    {places : List Nat} (nodup : places.Nodup) {cells : Array Bool}
    (inside : ∀ place ∈ places, place < cells.size) (place : Nat) :
    (places.foldl flip cells).getD place false =
      (cells.getD place false ^^ decide (place ∈ places)) := by
  induction places generalizing cells with
  | nil => simp
  | cons first rest inductionHypothesis =>
      obtain ⟨fresh, nodupRest⟩ := List.nodup_cons.mp nodup
      have insideRest : ∀ other ∈ rest, other < (flip cells first).size := by
        intro other membership
        rw [flip, Array.size_modify]
        exact inside other (List.mem_cons_of_mem first membership)
      rw [List.foldl_cons, inductionHypothesis nodupRest insideRest, getD_flip]
      by_cases same : first = place
      · subst same
        rw [if_pos ⟨rfl, inside first List.mem_cons_self⟩]
        simp [fresh]
      · rw [if_neg fun both => same both.1]
        simp [Ne.symm same]

/-- A cell is flipped, and it is kept in mind whether it was lit. -/
def flipNoting (state : Array Bool × Bool) (place : Nat) : Array Bool × Bool :=
  (flip state.1 place, state.2 || state.1.getD place false)

theorem foldl_flipNoting
    {places : List Nat} (nodup : places.Nodup) (cells : Array Bool) (noted : Bool) :
    places.foldl flipNoting (cells, noted) =
      (places.foldl flip cells, noted || places.any fun place => cells.getD place false) := by
  induction places generalizing cells noted with
  | nil => simp
  | cons first rest inductionHypothesis =>
      obtain ⟨fresh, nodupRest⟩ := List.nodup_cons.mp nodup
      have unflipped : (rest.any fun place => (flip cells first).getD place false) =
          rest.any fun place => cells.getD place false := by
        rw [Bool.eq_iff_iff, List.any_eq_true, List.any_eq_true]
        refine exists_congr fun place => and_congr_right fun membership => ?_
        rw [getD_flip, if_neg]
        rintro ⟨rfl, -⟩
        exact fresh membership
      rw [List.foldl_cons, flipNoting, inductionHypothesis nodupRest, unflipped, List.any_cons,
        Bool.or_assoc]
      rfl

/-- The collision may as well be looked for cell by cell, while the sprite is being drawn. -/
theorem draw_eq_foldl_flipNoting (display : Display) (x y : Int) (rows : List Int) :
    ((display.draw x y rows).1.cells, (display.draw x y rows).2) =
      (display.spritePlaces x y rows).foldl flipNoting (display.cells, false) := by
  rw [foldl_flipNoting nodup_spritePlaces, Bool.false_or]
  rfl

theorem isLit_draw (place : Nat) :
    (display.draw x y rows).1.isLit place =
      (display.isLit place ^^ decide (place ∈ display.spritePlaces x y rows)) :=
  getD_flips nodup_spritePlaces (fun _ covered => lt_size_of_mem_spritePlaces covered) place

theorem rowMajor_mem_spritePlaces
    {column row : Nat} (inside : column < display.width) (below : row < display.height) :
    row * display.width + column ∈ display.spritePlaces x y rows ↔
      display.spriteBit x y rows column row = true := by
  rw [mem_spritePlaces]
  constructor
  · rintro ⟨otherColumn, otherRow, otherInside, -, set, same⟩
    obtain ⟨rfl, rfl⟩ := rowMajor_inj inside otherInside same
    exact set
  · intro set
    exact ⟨column, row, inside, below, set, rfl⟩

theorem litAt_draw
    {column row : Nat} (inside : column < display.width) (below : row < display.height) :
    (display.draw x y rows).1.litAt column row =
      (display.litAt column row ^^ display.spriteBit x y rows column row) := by
  rw [litAt, width_draw, isLit_draw, litAt]
  simp only [rowMajor_mem_spritePlaces inside below, Bool.decide_eq_true]

/-- A sprite collides when it has a set bit at a lit pixel. -/
theorem collides_iff :
    (display.draw x y rows).2 = true ↔
      ∃ column row, column < display.width ∧ row < display.height ∧
        display.litAt column row = true ∧ display.spriteBit x y rows column row = true := by
  simp only [draw, List.any_eq_true, mem_spritePlaces]
  constructor
  · rintro ⟨_, ⟨column, row, inside, below, set, rfl⟩, lit⟩
    exact ⟨column, row, inside, below, lit, set⟩
  · rintro ⟨column, row, inside, below, lit, set⟩
    exact ⟨_, ⟨column, row, inside, below, set, rfl⟩, lit⟩

/-- A screen with a sprite drawn on it, and whether the sprite has met a lit pixel. -/
structure Drawn (before : Display) (x y : Int) (rows : List Int) (after : Display)
    (collided : Bool) : Prop where
  width : after.width = before.width
  height : after.height = before.height
  /-- There is one cell for each pixel, and no other. -/
  size : after.cells.size = before.width * before.height
  cells : ∀ place < after.cells.size, ∃ column row, column < before.width ∧
    row < before.height ∧ place = row * before.width + column
  /-- A pixel is what it was, flipped where the sprite has a set bit. -/
  pixels : ∀ column row : Nat, column < before.width → row < before.height →
    ∃ lit, before.pixel column row = .ok lit ∧
      after.pixel column row = .ok (lit ^^ before.spriteBit x y rows column row)
  collision : collided = true ↔ ∃ column row : Nat, before.pixel column row = .ok true ∧
    before.spriteBit x y rows column row = true

theorem drawn_draw (display : Display) (x y : Int) (rows : List Int) :
    display.Drawn x y rows (display.draw x y rows).1 (display.draw x y rows).2 where
  width := rfl
  height := rfl
  size := (display.draw x y rows).1.size_eq
  cells _ inside := (display.draw x y rows).1.exists_rowMajor inside
  pixels := by
    intro column row inside below
    refine ⟨_, pixel_eq_ok display inside below, ?_⟩
    rw [pixel_eq_ok (display.draw x y rows).1 inside below, litAt_draw inside below]
  collision := by
    rw [collides_iff]
    simp only [pixel_eq_ok_iff, and_assoc]

end Display

end Chip8
