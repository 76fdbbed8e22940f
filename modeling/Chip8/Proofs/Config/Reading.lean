import Chip8.Config.Reading
import Chip8.Proofs.Text.Numeral
import Mathlib
/-!
The mappings that are configurations.  Their mode, their section of overrides and
their seed are described here without the reader; the reader takes exactly the
mappings that are described so, gives the configuration that they describe, and
refuses every other one with an error about a value.
-/

namespace Chip8

theorem Text.toNat_of_character? {point : Nat} {character : Char}
    (read : character? point = some character) : character.toNat = point := by
  unfold character? at read
  split at read
  next valid =>
    cases read
    simp [Char.ofNat, valid, Char.toNat, Char.ofNatAux]
  next => cases read

theorem Text.map_toNat_of_mapM_character? {points : List Nat} {characters : List Char}
    (read : points.mapM character? = some characters) : characters.map Char.toNat = points := by
  induction points generalizing characters with
  | nil =>
      cases read
      rfl
  | cons point rest inductionHypothesis =>
      rw [List.mapM_cons] at read
      obtain ⟨first, head, others⟩ := Option.bind_eq_some_iff.mp read
      obtain ⟨further, tail, same⟩ := Option.bind_eq_some_iff.mp others
      cases same
      rw [List.map_cons, toNat_of_character? head, inductionHypothesis tail]

theorem Text.toString?_eq_some_iff {text : Text} {string : String} :
    text.toString? = some string ↔ text = ofString string := by
  constructor
  · intro read
    obtain ⟨characters, found, rfl⟩ := Option.map_eq_some_iff.mp read
    rw [ofString, String.toList_ofList, map_toNat_of_mapM_character? found]
  · rintro rfl
    exact toString?_ofString string

theorem Mode.ofName?_eq_some_iff {name : Text} {mode : Mode} :
    ofName? name = some mode ↔ name = Text.ofString mode.name := by
  constructor
  · intro found
    have same := List.find?_some found
    exact (of_decide_eq_true same).symm
  · rintro rfl
    exact ofName?_name mode

namespace Config

theorem Setting.ofKey?_eq_some_iff {key : Scalar} {setting : Setting} :
    ofKey? key = some setting ↔ key = .text setting.name := by
  constructor
  · intro found
    cases key with
    | text name =>
        have same := List.find?_some found
        rw [← of_decide_eq_true same]
    | null | truth | integer | float | date | moment => cases found
  · rintro rfl
    exact ofName?_name setting

/-- A value that stands for an integer: a number that is no truth value, or a text of one. -/
inductive Value.StandsFor : Value → Int → Prop where
  | number (value : Int) : StandsFor (.scalar (.integer value)) value
  | text {string : String} {value : Int} :
      Text.Writes string value → StandsFor (.scalar (.text string)) value

/-- The values that count as false: nothing, zero, and what is empty. -/
inductive Value.Falsy : Value → Prop where
  | null : Falsy (.scalar .null)
  | false : Falsy (.scalar (.truth false))
  | zero : Falsy (.scalar (.integer 0))
  | floatZero (negative exponent) : Falsy (.scalar (.float (.finite negative 0 exponent)))
  | emptyText : Falsy (.scalar (.text ""))
  | emptyList : Falsy (.list [])
  | emptyMapping : Falsy (.mapping [])

theorem Scalar.falsy_of_isTruthy {value : Scalar} (untrue : value.isTruthy = false) :
    Value.Falsy (.scalar value) := by
  cases value with
  | null => exact .null
  | truth value =>
      cases untrue
      exact .false
  | integer value =>
      obtain rfl : value = 0 := by simpa [isTruthy] using untrue
      exact .zero
  | float value =>
      cases value with
      | nan | infinity => cases untrue
      | finite negative significand exponent =>
          obtain rfl : significand = 0 := by simpa [isTruthy] using untrue
          exact .floatZero negative exponent
  | text value =>
      obtain ⟨points⟩ := value
      obtain rfl : points = [] := by simpa [isTruthy] using untrue
      exact .emptyText
  | date | moment => cases untrue

theorem Value.isTruthy_eq_false_iff {value : Value} : value.isTruthy = false ↔ value.Falsy := by
  constructor
  · intro untrue
    cases value with
    | scalar value => exact Scalar.falsy_of_isTruthy untrue
    | list items =>
        obtain rfl : items = [] := by simpa [isTruthy] using untrue
        exact .emptyList
    | mapping entries =>
        obtain rfl : entries = [] := by simpa [isTruthy] using untrue
        exact .emptyMapping
  · intro falsy
    cases falsy <;> rfl

section Steps

variable {Given Result : Type} {result : Except Error Given} {next : Given → Except Error Result}

theorem bind_eq_ok_iff {value : Result} :
    result >>= next = .ok value ↔ ∃ given, result = .ok given ∧ next given = .ok value := by
  cases result with
  | ok given =>
      constructor
      · intro read
        exact ⟨given, rfl, read⟩
      · rintro ⟨_, ⟨⟩, read⟩
        exact read
  | error error =>
      constructor
      · nofun
      · rintro ⟨_, ⟨⟩, _⟩

theorem map_eq_ok_iff {change : Given → Result} {value : Result} :
    result.map change = .ok value ↔ ∃ given, result = .ok given ∧ change given = value := by
  cases result <;> simp [Except.map]

end Steps

theorem integerOf_eq_ok_iff {value : Value} {number : Int} :
    integerOf value = .ok number ↔ value.StandsFor number := by
  constructor
  · intro read
    unfold integerOf at read
    split at read
    next given =>
      cases read
      exact .number _
    next text =>
      split at read
      next given found =>
        cases read
        obtain ⟨string, same, integer⟩ := Option.bind_eq_some_iff.mp found
        rw [Text.toString?_eq_some_iff] at same
        subst same
        exact .text (Text.readInteger?_eq_some_iff.mp integer)
      next => cases read
    next => cases read
  · intro stands
    cases stands with
    | number => rfl
    | text writes =>
        simp only [integerOf, Text.toString?_ofString, Option.bind_some,
          Text.readInteger?_eq_some_iff.mpr writes]

theorem flagOf_eq_ok_iff {value : Value} {flag : Bool} :
    flagOf value = .ok flag ↔ value = .scalar (.truth flag) := by
  constructor
  · intro read
    unfold flagOf at read
    split at read
    next => cases read; rfl
    next => cases read
  · rintro rfl
    rfl

/-- The mode that an entry names in any letters; without the entry it is the modern one. -/
inductive NamesMode : Option Value → Mode → Prop where
  | absent : NamesMode none .modern
  | named {value : Value} {mode : Mode} :
      value.plain.lowerCase = Text.ofString mode.name → NamesMode (some value) mode

/-- The overrides that are given by an entry. -/
inductive HoldsOverrides : Option Value → List (Scalar × Value) → Prop where
  | absent : HoldsOverrides none []
  | falsy {value : Value} : value.Falsy → HoldsOverrides (some value) []
  | mapping (given : List (Scalar × Value)) : HoldsOverrides (some (.mapping given)) given

/-- The key of a length of the screen. -/
def IsLengthKey (key : Scalar) : Prop :=
  key = .text "display_width" ∨ key = .text "display_height"

/-- The override that a given one is read as, under the same key. -/
inductive ReadsAs : Scalar × Value → Scalar × Value → Prop where
  | length {key : Scalar} {value : Value} {number : Int} :
      IsLengthKey key → value.StandsFor number →
      ReadsAs (key, value) (key, .scalar (.integer number))
  | flag {key : Scalar} (flag : Bool) :
      ¬ IsLengthKey key →
      ReadsAs (key, .scalar (.truth flag)) (key, .scalar (.truth flag))

/-- The seed that is given by an entry. -/
inductive SeedsWith : Option Value → Option Int → Prop where
  | absent : SeedsWith none none
  | null : SeedsWith (some (.scalar .null)) none
  | integer {value : Value} {number : Int} :
      value.StandsFor number → SeedsWith (some value) (some number)

/-- The entries of a mapping describe a configuration. -/
structure Describes (entries : List (Scalar × Value)) (config : Config) : Prop where
  mode : NamesMode (Value.lookUp? entries "mode") config.mode
  /-- The overrides keep their keys and their order. -/
  overrides : ∃ given, HoldsOverrides (Value.lookUp? entries "quirks") given ∧
    List.Forall₂ ReadsAs given config.overrides
  seed : SeedsWith (Value.lookUp? entries "rng_seed") config.seed

theorem modeOf_eq_ok_iff {entry : Option Value} {mode : Mode} :
    modeOf entry = .ok mode ↔ NamesMode entry mode := by
  constructor
  · intro read
    cases entry with
    | none =>
        cases read
        exact .absent
    | some value =>
        simp only [modeOf] at read
        split at read
        next found =>
          cases read
          exact .named (Mode.ofName?_eq_some_iff.mp found)
        next => cases read
  · intro named
    cases named with
    | absent => rfl
    | named same => simp only [modeOf, Mode.ofName?_eq_some_iff.mpr same]

theorem sectionOf_eq_ok_iff {entry : Option Value} {given : List (Scalar × Value)} :
    sectionOf entry = .ok given ↔ HoldsOverrides entry given := by
  constructor
  · intro read
    unfold sectionOf at read
    split at read
    next =>
      cases read
      exact .absent
    next =>
      cases read
      exact .mapping _
    next value _ =>
      split at read
      next => cases read
      next untrue =>
        cases read
        exact .falsy (Value.isTruthy_eq_false_iff.mp (Bool.eq_false_iff.mpr untrue))
  · intro holds
    cases holds with
    | absent => rfl
    | mapping => rfl
    | falsy falsy => cases falsy <;> rfl

theorem isLength_ofKey?_iff {key : Scalar} :
    (Setting.ofKey? key).map Setting.isLength = some true ↔ IsLengthKey key := by
  rw [Option.map_eq_some_iff]
  constructor
  · rintro ⟨setting, found, length⟩
    rw [Setting.ofKey?_eq_some_iff] at found
    cases setting with
    | displayWidth => exact .inl found
    | displayHeight => exact .inr found
    | _ => cases length
  · rintro (rfl | rfl)
    · exact ⟨.displayWidth, Setting.ofKey?_eq_some_iff.mpr rfl, rfl⟩
    · exact ⟨.displayHeight, Setting.ofKey?_eq_some_iff.mpr rfl, rfl⟩

theorem overrideOf_of_length {key : Scalar} (length : IsLengthKey key) (value : Value) :
    overrideOf key value = (integerOf value).map fun number => .scalar (.integer number) := by
  rw [overrideOf, isLength_ofKey?_iff.mpr length]

theorem overrideOf_of_flag {key : Scalar} (flag : ¬ IsLengthKey key) (value : Value) :
    overrideOf key value = (flagOf value).map fun flag => .scalar (.truth flag) := by
  unfold overrideOf
  split
  next length => exact absurd (isLength_ofKey?_iff.mp length) flag
  next => rfl

theorem overrideOf_eq_ok_iff {key : Scalar} {value read : Value} :
    overrideOf key value = .ok read ↔ ReadsAs (key, value) (key, read) := by
  by_cases length : IsLengthKey key
  · rw [overrideOf_of_length length, map_eq_ok_iff]
    constructor
    · rintro ⟨number, found, rfl⟩
      exact .length length (integerOf_eq_ok_iff.mp found)
    · intro reads
      cases reads with
      | length _ stands => exact ⟨_, integerOf_eq_ok_iff.mpr stands, rfl⟩
      | flag _ other => exact absurd length other
  · rw [overrideOf_of_flag length, map_eq_ok_iff]
    constructor
    · rintro ⟨flag, found, rfl⟩
      rw [flagOf_eq_ok_iff.mp found]
      exact .flag flag length
    · intro reads
      cases reads with
      | length other => exact absurd other length
      | flag flag => exact ⟨flag, rfl, rfl⟩

theorem overridesOf_eq_ok_iff {given read : List (Scalar × Value)} :
    overridesOf given = .ok read ↔ List.Forall₂ ReadsAs given read := by
  induction given generalizing read with
  | nil =>
      constructor
      · rintro ⟨⟩
        exact .nil
      · rintro ⟨⟩
        rfl
  | cons entry rest inductionHypothesis =>
      obtain ⟨key, value⟩ := entry
      simp only [overridesOf, bind_eq_ok_iff]
      constructor
      · rintro ⟨first, found, others, tail, same⟩
        cases same
        exact .cons (overrideOf_eq_ok_iff.mp found) (inductionHypothesis.mp tail)
      · intro reads
        cases reads with
        | @cons _ first _ others head tail =>
            obtain ⟨keptKey, changed⟩ := first
            obtain rfl : keptKey = key := by cases head <;> rfl
            exact ⟨changed, overrideOf_eq_ok_iff.mpr head, others, inductionHypothesis.mpr tail,
              rfl⟩

theorem optionalIntegerOf_eq_ok_iff {entry : Option Value} {seed : Option Int} :
    optionalIntegerOf entry = .ok seed ↔ SeedsWith entry seed := by
  constructor
  · intro read
    unfold optionalIntegerOf at read
    split at read
    next =>
      cases read
      exact .absent
    next =>
      cases read
      exact .null
    next value _ =>
      obtain ⟨number, found, rfl⟩ := map_eq_ok_iff.mp read
      exact .integer (integerOf_eq_ok_iff.mp found)
  · intro seeds
    cases seeds with
    | absent => rfl
    | null => rfl
    | integer stands =>
        have found := integerOf_eq_ok_iff.mpr stands
        cases stands with
        | number => rfl
        | text => exact map_eq_ok_iff.mpr ⟨_, found, rfl⟩

variable {entries : List (Scalar × Value)} {config : Config}

theorem ofEntries_eq_ok_iff : ofEntries entries = .ok config ↔ Describes entries config := by
  simp only [ofEntries, bind_eq_ok_iff]
  constructor
  · rintro ⟨mode, named, given, held, overrides, read, seed, seeded, same⟩
    cases same
    exact ⟨modeOf_eq_ok_iff.mp named,
      ⟨given, sectionOf_eq_ok_iff.mp held, overridesOf_eq_ok_iff.mp read⟩,
      optionalIntegerOf_eq_ok_iff.mp seeded⟩
  · rintro ⟨named, ⟨given, held, read⟩, seeded⟩
    exact ⟨_, modeOf_eq_ok_iff.mpr named, given, sectionOf_eq_ok_iff.mpr held, _,
      overridesOf_eq_ok_iff.mpr read, _, optionalIntegerOf_eq_ok_iff.mpr seeded, rfl⟩

end Config

end Chip8
