import Chip8.Proofs.Display.Sprite
import Mathlib
/-!
Sprites drawn over one another.  Drawing adds the bits of a sprite to the
pixels modulo two, so that the order of sprites makes no difference and two
equal ones cancel each other, wherever they stand among the others.  The number
of lit pixels grows by the set bits of the sprite, less two for each collision.
-/

namespace Chip8

/-- A sprite and the place where it is drawn. -/
structure PlacedSprite where
  x : Int
  y : Int
  rows : List Int
  deriving DecidableEq, Repr

namespace Display

/-- Two screens of one size are the same if the same cells are lit. -/
theorem eq_of_isLit
    {left right : Display} (askedWidth : left.askedWidth = right.askedWidth)
    (askedHeight : left.askedHeight = right.askedHeight)
    (lit : ∀ place, left.isLit place = right.isLit place) : left = right := by
  have cells : left.cells = right.cells := by
    apply Array.ext
    · rw [left.size_eq, right.size_eq, askedWidth, askedHeight]
    · intro place inside otherInside
      have same := lit place
      rw [isLit, isLit, ← Array.getElem_eq_getD, ← Array.getElem_eq_getD] at same
      exact same
  cases left
  cases right
  cases askedWidth
  cases askedHeight
  cases cells
  rfl

/-- The screen with a sprite drawn on it. -/
def drawSprite (display : Display) (sprite : PlacedSprite) : Display :=
  (display.draw sprite.x sprite.y sprite.rows).1

/-- The screen with sprites drawn on it, one after another. -/
def drawAll (display : Display) (sprites : List PlacedSprite) : Display :=
  sprites.foldl drawSprite display

theorem drawAll_append (display : Display) (sprites further : List PlacedSprite) :
    display.drawAll (sprites ++ further) = (display.drawAll sprites).drawAll further :=
  List.foldl_append

/-- Drawing does not change the size of the screen. -/
theorem askedSize_drawAll (display : Display) (sprites : List PlacedSprite) :
    (display.drawAll sprites).askedWidth = display.askedWidth ∧
      (display.drawAll sprites).askedHeight = display.askedHeight := by
  induction sprites generalizing display with
  | nil => exact ⟨rfl, rfl⟩
  | cons sprite rest inductionHypothesis => exact inductionHypothesis (display.drawSprite sprite)

/-- The origin of a sprite only counts modulo the size of the screen. -/
theorem drawSprite_congr
    (display : Display) {first second : PlacedSprite}
    (columns : first.x % display.width = second.x % display.width)
    (lines : first.y % display.height = second.y % display.height)
    (rows : first.rows = second.rows) :
    display.drawSprite first = display.drawSprite second := by
  have places : display.spritePlaces first.x first.y first.rows =
      display.spritePlaces second.x second.y second.rows := by
    simp only [spritePlaces, columns, lines, rows]
  refine eq_of_isLit rfl rfl fun place => ?_
  rw [drawSprite, drawSprite, isLit_draw, isLit_draw, places]

theorem drawSprite_comm (display : Display) (first second : PlacedSprite) :
    (display.drawSprite first).drawSprite second =
      (display.drawSprite second).drawSprite first := by
  refine eq_of_isLit rfl rfl fun place => ?_
  simp only [drawSprite, isLit_draw]
  exact Bool.xor_right_comm _ _ _

theorem drawSprite_drawSprite (display : Display) (sprite : PlacedSprite) :
    (display.drawSprite sprite).drawSprite sprite = display := by
  refine eq_of_isLit rfl rfl fun place => ?_
  have places : (display.drawSprite sprite).spritePlaces sprite.x sprite.y sprite.rows =
      display.spritePlaces sprite.x sprite.y sprite.rows := rfl
  rw [drawSprite, isLit_draw, places, drawSprite, isLit_draw, Bool.xor_assoc, Bool.xor_self,
    Bool.xor_false]

/-- The order in which sprites are drawn makes no difference. -/
theorem drawAll_perm
    (display : Display) {sprites others : List PlacedSprite} (permuted : sprites.Perm others) :
    display.drawAll sprites = display.drawAll others := by
  have : RightCommutative drawSprite := ⟨drawSprite_comm⟩
  exact permuted.foldl_eq display

/-- A pair of equal sprites at equal places can be left out. -/
theorem drawAll_cancel
    (display : Display) (before between after : List PlacedSprite) {first second : PlacedSprite}
    (columns : first.x % display.width = second.x % display.width)
    (lines : first.y % display.height = second.y % display.height)
    (rows : first.rows = second.rows) :
    display.drawAll (before ++ first :: (between ++ second :: after)) =
      display.drawAll (before ++ (between ++ after)) := by
  obtain ⟨width, height⟩ := display.askedSize_drawAll (before ++ (between ++ after))
  have columnsThen : second.x % (display.drawAll (before ++ (between ++ after))).width =
      first.x % (display.drawAll (before ++ (between ++ after))).width := by
    rw [Display.width, width]
    exact columns.symm
  have linesThen : second.y % (display.drawAll (before ++ (between ++ after))).height =
      first.y % (display.drawAll (before ++ (between ++ after))).height := by
    rw [Display.height, height]
    exact lines.symm
  -- both are drawn at the end instead, the second one over the first one
  have permuted : (before ++ first :: (between ++ second :: after)).Perm
      (before ++ (between ++ after) ++ [first, second]) := by
    have secondLast : (between ++ second :: after).Perm (between ++ after ++ [second]) := by
      rw [List.append_assoc]
      exact (List.perm_append_singleton second after).symm.append_left between
    have bothLast := (secondLast.cons first).trans List.perm_middle.symm
    rw [List.append_assoc]
    exact bothLast.append_left before
  rw [display.drawAll_perm permuted, drawAll_append]
  change ((display.drawAll (before ++ (between ++ after))).drawSprite first).drawSprite second = _
  rw [drawSprite_comm, drawSprite_congr _ columnsThen linesThen rows.symm, drawSprite_drawSprite]

/-- The columns and rows of all pixels. -/
def pixels (display : Display) : Finset (Nat × Nat) :=
  Finset.range display.width ×ˢ Finset.range display.height

/-- The number of lit pixels. -/
def litCount (display : Display) : Nat :=
  (display.pixels.filter fun pixel => display.litAt pixel.1 pixel.2).card

/-- Whether a placed sprite has a set bit at a pixel. -/
def covers (display : Display) (sprite : PlacedSprite) (pixel : Nat × Nat) : Bool :=
  display.spriteBit sprite.x sprite.y sprite.rows pixel.1 pixel.2

/-- The number of set bits of a sprite that fall on the screen. -/
def coveredCount (display : Display) (sprite : PlacedSprite) : Nat :=
  (display.pixels.filter fun pixel => display.covers sprite pixel).card

/-- The number of set bits of a sprite that hit a lit pixel. -/
def hitCount (display : Display) (sprite : PlacedSprite) : Nat :=
  (display.pixels.filter fun pixel =>
    display.litAt pixel.1 pixel.2 && display.covers sprite pixel).card

/-- A covered pixel is gained if it was dark and lost if it was lit. -/
theorem litCount_drawSprite (display : Display) (sprite : PlacedSprite) :
    (display.drawSprite sprite).litCount + 2 * display.hitCount sprite =
      display.litCount + display.coveredCount sprite := by
  have same : (display.drawSprite sprite).pixels = display.pixels := rfl
  simp only [litCount, coveredCount, hitCount, same, Finset.card_filter, Finset.mul_sum,
    ← Finset.sum_add_distrib]
  apply Finset.sum_congr rfl
  rintro ⟨column, row⟩ onScreen
  obtain ⟨inside, below⟩ := Finset.mem_product.mp onScreen
  have drawn : (display.drawSprite sprite).litAt column row =
      (display.litAt column row ^^ display.covers sprite (column, row)) :=
    litAt_draw (Finset.mem_range.mp inside) (Finset.mem_range.mp below)
  simp only [drawn]
  cases display.litAt column row <;> cases display.covers sprite (column, row) <;> rfl

theorem collides_iff_hitCount (display : Display) (sprite : PlacedSprite) :
    (display.draw sprite.x sprite.y sprite.rows).2 = true ↔ 0 < display.hitCount sprite := by
  rw [collides_iff, hitCount, Finset.card_pos]
  constructor
  · rintro ⟨column, row, inside, below, lit, set⟩
    refine ⟨(column, row), Finset.mem_filter.mpr ⟨?_, Bool.and_eq_true_iff.mpr ⟨lit, set⟩⟩⟩
    exact Finset.mem_product.mpr ⟨Finset.mem_range.mpr inside, Finset.mem_range.mpr below⟩
  · rintro ⟨⟨column, row⟩, hit⟩
    obtain ⟨onScreen, both⟩ := Finset.mem_filter.mp hit
    obtain ⟨inside, below⟩ := Finset.mem_product.mp onScreen
    obtain ⟨lit, set⟩ := Bool.and_eq_true_iff.mp both
    exact ⟨column, row, Finset.mem_range.mp inside, Finset.mem_range.mp below, lit, set⟩

/-- How sprites that are drawn on a screen add up. -/
structure Superposition (display : Display) : Prop where
  order : ∀ sprites others : List PlacedSprite, sprites.Perm others →
    display.drawAll sprites = display.drawAll others
  /-- Two equal sprites whose origins agree modulo the size of the screen cancel each other. -/
  cancel : ∀ (before between after : List PlacedSprite) (first second : PlacedSprite),
    first.x % display.width = second.x % display.width →
    first.y % display.height = second.y % display.height → first.rows = second.rows →
    display.drawAll (before ++ first :: (between ++ second :: after)) =
      display.drawAll (before ++ (between ++ after))
  twice : ∀ sprite, display.drawAll [sprite, sprite] = display
  count : ∀ sprite, ((display.drawSprite sprite).litCount : Int) =
    display.litCount + display.coveredCount sprite - 2 * display.hitCount sprite
  collides : ∀ sprite, (display.draw sprite.x sprite.y sprite.rows).2 = true ↔
    0 < display.hitCount sprite
  /-- A sprite collides when it lights fewer pixels than it covers. -/
  grows : ∀ sprite, (display.draw sprite.x sprite.y sprite.rows).2 = true ↔
    (display.drawSprite sprite).litCount < display.litCount + display.coveredCount sprite

theorem superposition (display : Display) : display.Superposition where
  order _ _ permuted := display.drawAll_perm permuted
  cancel before between after _ _ columns lines rows :=
    display.drawAll_cancel before between after columns lines rows
  twice sprite := display.drawSprite_drawSprite sprite
  count sprite := by
    have counted := display.litCount_drawSprite sprite
    omega
  collides sprite := display.collides_iff_hitCount sprite
  grows sprite := by
    have counted := display.litCount_drawSprite sprite
    rw [collides_iff_hitCount]
    omega

end Display

end Chip8
