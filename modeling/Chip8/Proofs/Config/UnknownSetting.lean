import Chip8.Proofs.Config.Building
import Mathlib
/-!
An override that is no setting's, on its way from the mapping to the machine.  The
builder passes over it with a warning, whatever its value is.  The reader does not
tell it from a flag, so it gets as far as the builder with a truth value only.
-/

namespace Chip8.Config

open Numeric (Binary64)

theorem Scalar.same_text_iff {scalar : Scalar} {name : Text} :
    scalar.same (.text name) = true ↔ scalar = .text name := by
  unfold same
  cases whole : scalar.whole? with
  | some number =>
      have other : scalar ≠ .text name := by
        rintro rfl
        cases whole
      simp [whole?, other]
  | none => cases scalar <;> simp [whole?]

namespace Value

theorem lookUp?_eq_none_iff {entries : List (Scalar × Value)} {name : Text} :
    lookUp? entries name = none ↔ ∀ entry ∈ entries, entry.1 ≠ .text name := by
  simp [lookUp?]

theorem lookUp?_append (entries rest : List (Scalar × Value)) (name : Text) :
    lookUp? (entries ++ rest) name = (lookUp? entries name).or (lookUp? rest name) := by
  simp only [lookUp?, List.find?_append, Option.map_or]

theorem lookUp?_replace (entries : List (Scalar × Value)) (name other : Text) (value : Value) :
    lookUp? (entries.map fun entry =>
        if entry.1 = .text name then (entry.1, value) else entry) other =
      (lookUp? entries other).map fun held => if other = name then value else held := by
  have kept : ((fun entry : Scalar × Value => decide (entry.1 = .text other)) ∘ fun entry =>
      if entry.1 = .text name then (entry.1, value) else entry) =
        fun entry => decide (entry.1 = .text other) := by
    funext entry
    dsimp only [Function.comp]
    split <;> rfl
  rw [lookUp?, lookUp?, List.find?_map, kept, Option.map_map, Option.map_map]
  refine Option.map_congr fun entry found => ?_
  have key : entry.1 = .text other := by simpa using List.find?_some found
  by_cases same : other = name <;> simp [key, same]

theorem lookUp?_insert (entries : List (Scalar × Value)) (name other : Text) (value : Value) :
    lookUp? (insert entries (.text name) value) other =
      if other = name then some value else lookUp? entries other := by
  simp only [insert, Scalar.same_text_iff, List.any_eq_true]
  split
  next present =>
    rw [lookUp?_replace]
    split
    next same =>
      subst same
      obtain ⟨entry, member, key⟩ := present
      obtain ⟨held, found⟩ := Option.ne_none_iff_exists'.mp fun missing =>
        lookUp?_eq_none_iff.mp missing entry member key
      rw [found]
      rfl
    next => exact Option.map_id' ..
  next absent =>
    rw [lookUp?_append]
    split
    next same =>
      subst same
      rw [lookUp?_eq_none_iff.mpr fun entry member key => absent ⟨entry, member, key⟩]
      simp [lookUp?]
    next other => simp [lookUp?, Ne.symm other]

end Value

/-- A mapping with another section of overrides. -/
def withOverrides (entries given : List (Scalar × Value)) : List (Scalar × Value) :=
  Value.insert entries (.text "quirks") (.mapping given)

variable {config : Config} {entries before after : List (Scalar × Value)} {key : Scalar}

theorem ofEntries_withOverrides
    (read : ofEntries entries = .ok config) (given : List (Scalar × Value)) :
    ofEntries (withOverrides entries given) =
      (overridesOf given).map fun overrides => { config with overrides } := by
  obtain ⟨named, -, seeded⟩ := ofEntries_eq_ok_iff.mp read
  have mode : modeOf (Value.lookUp? (withOverrides entries given) "mode") = .ok config.mode := by
    rw [withOverrides, Value.lookUp?_insert, if_neg (by decide)]
    exact modeOf_eq_ok_iff.mpr named
  have changes : sectionOf (Value.lookUp? (withOverrides entries given) "quirks") = .ok given := by
    rw [withOverrides, Value.lookUp?_insert, if_pos rfl]
    rfl
  have seed : optionalIntegerOf (Value.lookUp? (withOverrides entries given) "rng_seed") =
      .ok config.seed := by
    rw [withOverrides, Value.lookUp?_insert, if_neg (by decide)]
    exact optionalIntegerOf_eq_ok_iff.mpr seeded
  rw [ofEntries, mode, changes, seed]
  change (overridesOf given >>= fun overrides => .ok { config with overrides }) = _
  cases overridesOf given <;> rfl

theorem overridesOf_append (front back : List (Scalar × Value)) :
    overridesOf (front ++ back) = do
      let first ← overridesOf front
      let rest ← overridesOf back
      return first ++ rest := by
  induction front with
  | nil => exact (bind_pure _).symm
  | cons entry front inductionHypothesis =>
      simp only [List.cons_append, overridesOf, inductionHypothesis, bind_assoc, pure_bind]

theorem overrideOf_of_unknown
    (unknown : ∀ setting : Setting, key ≠ .text setting.name) (value : Value) :
    overrideOf key value = (flagOf value).map fun flag => .scalar (.truth flag) := by
  refine overrideOf_of_flag ?_ value
  rintro (width | height)
  · exact unknown .displayWidth width
  · exact unknown .displayHeight height

/-- An unknown override is read like a flag, and leaves all others as they were read. -/
theorem exists_ofEntries_insert
    (read : ofEntries entries = .ok config)
    (held : HoldsOverrides (Value.lookUp? entries "quirks") (before ++ after))
    (unknown : ∀ setting : Setting, key ≠ .text setting.name) :
    ∃ front back, config.overrides = front ++ back ∧ ∀ value,
      ofEntries (withOverrides entries (before ++ (key, value) :: after)) =
        (flagOf value).map fun flag =>
          { config with overrides := front ++ (key, .scalar (.truth flag)) :: back } := by
  obtain ⟨-, ⟨given, same, reads⟩, -⟩ := ofEntries_eq_ok_iff.mp read
  obtain rfl : given = before ++ after := by
    rw [← sectionOf_eq_ok_iff] at same held
    exact Except.ok.inj (same.symm.trans held)
  have split := overridesOf_eq_ok_iff.mpr reads
  simp only [overridesOf_append, bind_eq_ok_iff] at split
  obtain ⟨front, first, back, last, joined⟩ := split
  refine ⟨front, back, (Except.ok.inj joined).symm, fun value => ?_⟩
  rw [ofEntries_withOverrides read, overridesOf_append, overridesOf, first, last,
    overrideOf_of_unknown unknown]
  cases flagOf value <;> rfl

theorem flagOf_eq_error {value : Value} (other : ∀ flag, value ≠ .scalar (.truth flag)) :
    flagOf value = .error (.flagFormat value) := by
  unfold flagOf
  split
  next flag => exact absurd rfl (other flag)
  next => rfl

section Builder

variable {front back : List (Scalar × Value)} {unseeded : Random.Source} {now : Binary64}

theorem keysShowable_insert_iff {value : Value} (split : config.overrides = front ++ back) :
    { config with overrides := front ++ (key, value) :: back }.KeysShowable ↔
      key.isShowable = true ∧ config.KeysShowable := by
  simp only [KeysShowable, split, List.forall_mem_append, List.forall_mem_cons]
  exact and_left_comm

theorem settings_insert
    (split : config.overrides = front ++ back)
    (unknown : ∀ setting : Setting, key ≠ .text setting.name) (value : Value) :
    { config with overrides := front ++ (key, value) :: back }.settings = config.settings := by
  have absent := Option.isNone_iff_eq_none.mp (isNone_ofKey?_iff.mpr unknown)
  simp only [settings, override, split, List.foldl_append, List.foldl_cons, absent]

/-- A configuration with the settings, the mode and the seed of another, and one warning more. -/
structure AddsWarning (config wider : Config) (key : Scalar) : Prop where
  mode : wider.mode = config.mode
  seed : wider.seed = config.seed
  resolved : ∃ (settings : Settings) (earlier later : List Text),
    config.resolve = .ok (settings, earlier ++ later) ∧
    wider.resolve = .ok (settings,
      earlier ++ (("Unknown quirk '" : Text) ++ key.plain ++ "' for mode " ++ config.mode.name ++
        ", ignoring") :: later)

theorem addsWarning_insert
    (split : config.overrides = front ++ back) (showable : config.KeysShowable)
    (unknown : ∀ setting : Setting, key ≠ .text setting.name) (shown : key.isShowable = true)
    (value : Value) :
    config.AddsWarning { config with overrides := front ++ (key, value) :: back } key := by
  refine ⟨rfl, rfl, config.settings, { config with overrides := front }.warnings,
    { config with overrides := back }.warnings, ?_, ?_⟩
  · rw [resolve_of_showable showable]
    simp only [warnings, split, List.filter_append, List.map_append]
  · rw [resolve_of_showable ((keysShowable_insert_iff split).mpr ⟨shown, showable⟩),
      settings_insert split unknown]
    simp only [warnings, List.filter_append, List.filter_cons, isNone_ofKey?_iff.mpr unknown,
      if_true, List.map_append, List.map_cons]
    rfl

theorem build_insert
    (split : config.overrides = front ++ back) (showable : config.KeysShowable)
    (unknown : ∀ setting : Setting, key ≠ .text setting.name) (shown : key.isShowable = true)
    (value : Value) :
    { config with overrides := front ++ (key, value) :: back }.build unseeded now =
      config.build unseeded now := by
  rw [build_of_showable ((keysShowable_insert_iff split).mpr ⟨shown, showable⟩),
    build_of_showable showable, settings_insert split unknown]
  rfl

theorem build_insert_of_hidden (hidden : key.isShowable = false) (value : Value) :
    { config with overrides := front ++ (key, value) :: back }.build unseeded now =
      .error .integerText := by
  refine build_of_hidden fun showable => ?_
  have shown := showable (key, value) (List.mem_append_right _ List.mem_cons_self)
  cases hidden.symm.trans shown

end Builder

/-- What a key that is no setting's does to a mapping from which a machine is built. -/
structure UnknownOverrideLaw
    (config : Config) (entries before after : List (Scalar × Value)) (key : Scalar)
    (unseeded : Random.Source) (now : Binary64) (machine : Machine) : Prop where
  /-- The same machine is built exactly if the value is a flag and the key can be shown. -/
  tolerated : ∀ value,
    (∃ wider, ofValue (.mapping (withOverrides entries (before ++ (key, value) :: after))) =
        .ok wider ∧ wider.build unseeded now = .ok machine ∧ config.AddsWarning wider key) ↔
      (∃ flag, value = .scalar (.truth flag)) ∧ key.isShowable = true
  refused : ∀ value, (∀ flag, value ≠ .scalar (.truth flag)) →
    ofValue (.mapping (withOverrides entries (before ++ (key, value) :: after))) =
      .error (.flagFormat value)
  hidden : key.isShowable = false → ∀ flag, ∃ wider,
    ofValue (.mapping (withOverrides entries
      (before ++ (key, .scalar (.truth flag)) :: after))) = .ok wider ∧
    wider.build unseeded now = .error .integerText
  /-- The builder alone passes over the key whatever its value is. -/
  passedOver : key.isShowable = true → ∀ front back value, config.overrides = front ++ back →
    config.AddsWarning { config with overrides := front ++ (key, value) :: back } key ∧
    { config with overrides := front ++ (key, value) :: back }.build unseeded now = .ok machine

theorem unknownOverrideLaw
    {unseeded : Random.Source} {now : Binary64} {machine : Machine}
    (read : ofValue (.mapping entries) = .ok config)
    (built : config.build unseeded now = .ok machine)
    (held : HoldsOverrides (Value.lookUp? entries "quirks") (before ++ after))
    (unknown : ∀ setting : Setting, key ≠ .text setting.name) :
    config.UnknownOverrideLaw entries before after key unseeded now machine := by
  have showable : config.KeysShowable := by
    by_contra hidden
    cases built.symm.trans (build_of_hidden hidden)
  obtain ⟨front, back, split, inserted⟩ := exists_ofEntries_insert read held unknown
  refine
    { tolerated := fun value => ⟨?_, ?_⟩
      refused := fun value other => (inserted value).trans (congrArg _ (flagOf_eq_error other))
      hidden := fun hidden flag => ⟨_, inserted _, build_insert_of_hidden hidden _⟩
      passedOver := fun shown front back value split =>
        ⟨addsWarning_insert split showable unknown shown value,
          (build_insert split showable unknown shown value).trans built⟩ }
  · rintro ⟨wider, found, made, -⟩
    obtain ⟨flag, isFlag, rfl⟩ := map_eq_ok_iff.mp ((inserted value).symm.trans found)
    refine ⟨⟨flag, flagOf_eq_ok_iff.mp isFlag⟩, ?_⟩
    by_contra hidden
    rw [Bool.not_eq_true] at hidden
    cases made.symm.trans (build_insert_of_hidden hidden _)
  · rintro ⟨⟨flag, rfl⟩, shown⟩
    exact ⟨_, inserted _, (build_insert split showable unknown shown _).trans built,
      addsWarning_insert split showable unknown shown _⟩

theorem unknownOverrideLaw_amidstClassic :
    let given : List (Scalar × Value) :=
      [(.text "shift_uses_vy", .scalar (.truth false)),
        (.text "display_width", .scalar (.text "0x20"))]
    let entries : List (Scalar × Value) :=
      [(.text "quirks", .mapping given), (.text "mode", .scalar (.text "Classic"))]
    let config : Config :=
      { mode := .classic
        overrides := [(.text "shift_uses_vy", .scalar (.truth false)),
          (.text "display_width", .scalar (.integer 0x20))] }
    ∃ machine, config.build (.scripted []) .zero = .ok machine ∧
      config.UnknownOverrideLaw entries (given.take 1) (given.drop 1) (.text "wrap_sprites")
        (.scripted []) .zero machine := by
  intro given entries config
  obtain ⟨machine, built⟩ : ∃ machine, config.build (.scripted []) .zero = .ok machine := ⟨_, rfl⟩
  refine ⟨machine, built, unknownOverrideLaw rfl built (.mapping given) fun setting => ?_⟩
  cases setting <;> decide

/-- An integer under a key that is no setting's stops a mapping that is fine without it. -/
theorem unknownOverride_refused :
    ofValue (.mapping []) = .ok {} ∧
      (∃ machine, build {} (.scripted []) .zero = .ok machine) ∧
      (∀ setting : Setting, Scalar.text "wrap_sprites" ≠ .text setting.name) ∧
      ¬ ∃ wider, ofValue (.mapping
        (withOverrides [] [(.text "wrap_sprites", .scalar (.integer 1))])) = .ok wider := by
  refine ⟨rfl, ⟨_, rfl⟩, fun setting => ?_, ?_⟩
  · cases setting <;> decide
  · rintro ⟨wider, ⟨⟩⟩

end Chip8.Config
