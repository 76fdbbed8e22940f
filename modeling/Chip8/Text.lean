/-!
Texts of code points.  A document can name any code point by its number, also
a surrogate, which is no character; so a text is a list of code points, and
the strings are the texts without surrogates.
-/

namespace Chip8

/-- A text, as the numbers of its code points. -/
structure Text where
  points : List Nat
  deriving DecidableEq, Inhabited, Repr

namespace Text

def ofString (string : String) : Text :=
  ⟨string.toList.map Char.toNat⟩

instance : Coe String Text := ⟨ofString⟩

instance : Append Text := ⟨fun left right => ⟨left.points ++ right.points⟩⟩

def join (separator : Text) (texts : List Text) : Text :=
  ⟨separator.points.intercalate (texts.map points)⟩

/-- The character of a code point; a surrogate has none. -/
def character? (point : Nat) : Option Char :=
  if point.isValidChar then some (Char.ofNat point) else none

/-- The string of the same code points; a text with surrogates has none. -/
def toString? (text : Text) : Option String :=
  (text.points.mapM character?).map String.ofList

theorem character?_toNat (character : Char) : character? character.toNat = some character := by
  simp [character?, show character.toNat.isValidChar from character.valid]

@[simp]
theorem toString?_ofString (string : String) : (ofString string).toString? = some string := by
  have characters (list : List Char) : (list.map Char.toNat).mapM character? = some list := by
    induction list with
    | nil => rfl
    | cons first rest inductionHypothesis =>
        simp [character?_toNat, inductionHypothesis]
  simp [toString?, ofString, characters]

@[simp]
theorem ofString_inj {left right : String} : ofString left = ofString right ↔ left = right := by
  constructor
  · intro same
    have strings := congrArg toString? same
    simpa using strings
  · exact congrArg ofString

end Text

end Chip8
