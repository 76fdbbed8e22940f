import Chip8.Config.Build
import Chip8.Proofs.Config.Reading
import Chip8.Proofs.Machine.Rebirth
import Mathlib
/-!
From a configuration to a machine.  Overrides under different keys change one
setting each, so their order does not matter, nor does a key that is no setting's.
A configuration that was read gives integers for the lengths and truth values for
the flags.  So a machine is refused for the size of its screen or for a key that
cannot be shown in its warning, and for nothing else.
-/

namespace Chip8

open Numeric (Binary64)

/-- A screen of a positive size exists if there is memory for its cells. -/
theorem Display.exists_create
    {width height : Length} (wide : 0 < width.value) (high : 0 < height.value)
    (room : width.value * height.value ≤ Length.assumedMemory) :
    ∃ display, create width height = .ok display := by
  have checked : checkCells (width.value * height.value) = .ok () := by
    have few : width.value * height.value ≤ Length.greatest := room.trans (by decide)
    rw [checkCells, if_neg (Int.not_lt.mpr few), if_neg (Int.not_lt.mpr room)]
  simp only [create, wide, high, and_self, dite_true, checked]
  exact ⟨_, rfl⟩

theorem Display.cells_of_create
    {width height : Length} {display : Display} (made : create width height = .ok display) :
    display.cells = Array.replicate (width.count * height.count) false := by
  obtain ⟨rfl, rfl⟩ := askedSize_of_create made
  exact congrArg cells (clear_of_create made).symm

theorem Machine.exists_create
    {dialect : Dialect} {random : Random.Source} {now : Binary64}
    (screen : ∃ display, Display.create dialect.displayWidth dialect.displayHeight = .ok display) :
    ∃ machine, create dialect random now = .ok machine := by
  obtain ⟨display, made⟩ := screen
  rw [create, made]
  exact ⟨_, rfl⟩

namespace Config

section Overriding

variable {settings : Settings} {overrides : List (Scalar × Value)} {setting : Setting}
  {value : Value}

/-- The first override changes the setting of its name, and the others go on from there. -/
theorem exists_override_cons (settings : Settings) (key : Scalar) (value : Value)
    (rest : List (Scalar × Value)) :
    ∃ changed, override settings ((key, value) :: rest) = override changed rest ∧
      ∀ setting : Setting, changed.get setting =
        if key = .text setting.name then value else settings.get setting := by
  cases found : Setting.ofKey? key with
  | some named =>
      refine ⟨settings.set named value, by simp only [override, List.foldl_cons, found], ?_⟩
      intro setting
      have same : setting = named ↔ key = .text setting.name := by
        rw [← Setting.ofKey?_eq_some_iff, found, Option.some.injEq, eq_comm]
      simp only [Settings.set, same]
  | none =>
      refine ⟨settings, by simp only [override, List.foldl_cons, found], ?_⟩
      intro setting
      have other : key ≠ .text setting.name := by
        intro same
        rw [Setting.ofKey?_eq_some_iff.mpr same] at found
        cases found
      rw [if_neg other]

theorem get_override_of_absent (absent : .text setting.name ∉ overrides.map (·.1)) :
    (override settings overrides).get setting = settings.get setting := by
  induction overrides generalizing settings with
  | nil => rfl
  | cons entry rest inductionHypothesis =>
      obtain ⟨key, value⟩ := entry
      obtain ⟨changed, step, get⟩ := exists_override_cons settings key value rest
      rw [List.map_cons, List.mem_cons, not_or] at absent
      rw [step, inductionHypothesis absent.2, get, if_neg (Ne.symm absent.1)]

theorem get_override_of_mem
    (distinct : (overrides.map (·.1)).Nodup) (present : (.text setting.name, value) ∈ overrides) :
    (override settings overrides).get setting = value := by
  induction overrides generalizing settings with
  | nil => cases present
  | cons entry rest inductionHypothesis =>
      obtain ⟨key, given⟩ := entry
      obtain ⟨changed, step, get⟩ := exists_override_cons settings key given rest
      rw [List.map_cons, List.nodup_cons] at distinct
      rw [step]
      cases present with
      | head => rw [get_override_of_absent distinct.1, get, if_pos rfl]
      | tail _ present => exact inductionHypothesis distinct.2 present

/-- Two lists of overrides that change the same settings alike have the same effect. -/
theorem override_congr
    {others : List (Scalar × Value)} (distinct : (overrides.map (·.1)).Nodup)
    (othersDistinct : (others.map (·.1)).Nodup)
    (same : ∀ (setting : Setting) (value : Value),
      (.text setting.name, value) ∈ others ↔ (.text setting.name, value) ∈ overrides) :
    override settings others = override settings overrides := by
  have get (setting : Setting) :
      (override settings others).get setting = (override settings overrides).get setting := by
    by_cases present : ∃ value, (.text setting.name, value) ∈ overrides
    · obtain ⟨value, present⟩ := present
      rw [get_override_of_mem distinct present,
        get_override_of_mem othersDistinct ((same setting value).mpr present)]
    · have absent : .text setting.name ∉ overrides.map (·.1) := by
        simpa using present
      have othersAbsent : .text setting.name ∉ others.map (·.1) := by
        simpa [same] using present
      rw [get_override_of_absent absent, get_override_of_absent othersAbsent]
  exact congrArg Settings.mk (funext get)

end Overriding

variable {config : Config}

/-- Each key can be shown, as every key can but an integer of too many digits. -/
def KeysShowable (config : Config) : Prop :=
  ∀ entry ∈ config.overrides, entry.1.isShowable = true

instance (config : Config) : Decidable config.KeysShowable :=
  inferInstanceAs (Decidable (∀ entry ∈ _, _))

theorem isShowable_integer_eq_false_iff {value : Int} :
    (Scalar.integer value).isShowable = false ↔
      Nat.pow 10 Text.decimalDigitLimit ≤ value.natAbs := by
  simp only [Scalar.isShowable, Text.canShow, decide_eq_false_iff_not, not_lt]

theorem resolve_of_showable (showable : config.KeysShowable) :
    config.resolve = .ok (config.settings, config.warnings) := by
  refine if_pos (List.all_eq_true.mpr fun entry member => ?_)
  rw [showable entry member, Bool.or_true]

theorem resolve_of_hidden (hidden : ¬ config.KeysShowable) :
    config.resolve = .error .integerText := by
  refine if_neg fun resolved => hidden fun entry member => ?_
  have passed := List.all_eq_true.mp resolved entry member
  obtain ⟨key, value⟩ := entry
  cases key with
  | text => rfl
  | _ => simpa only [Setting.ofKey?, Option.isSome_none, Bool.false_or] using passed

section Build

variable {unseeded : Random.Source} {now : Binary64}

theorem build_of_showable (showable : config.KeysShowable) :
    config.build unseeded now =
      machineOf config.settings (config.randomSource unseeded) now := by
  rw [build, resolve_of_showable showable]
  rfl

theorem build_of_hidden (hidden : ¬ config.KeysShowable) :
    config.build unseeded now = .error .integerText := by
  rw [build, resolve_of_hidden hidden]
  rfl

end Build

/-- How overrides under different keys act on the settings of a mode. -/
structure Resolution (config : Config) : Prop where
  resolved : config.resolve = .ok (config.settings, config.warnings)
  overridden : ∀ (setting : Setting) (value : Value),
    (.text setting.name, value) ∈ config.overrides → config.settings.get setting = value
  preset : ∀ setting : Setting, .text setting.name ∉ config.overrides.map (·.1) →
    config.settings.get setting = .scalar (setting.valueIn config.mode.dialect)
  /-- There is one warning for each key that is no setting's, in the order of the keys. -/
  warned : ∃ keys : List Scalar, keys.Sublist (config.overrides.map (·.1)) ∧ keys.Nodup ∧
    (∀ key, key ∈ keys ↔
      key ∈ config.overrides.map (·.1) ∧ ∀ setting : Setting, key ≠ .text setting.name) ∧
    config.warnings = keys.map fun key =>
      ("Unknown quirk '" : Text) ++ key.plain ++ "' for mode " ++ config.mode.name ++ ", ignoring"
  permuted : ∀ overrides : List (Scalar × Value), overrides.Perm config.overrides →
    { config with overrides }.resolve =
      .ok (config.settings, { config with overrides }.warnings)
  /-- Overrides can be left out if they are no setting's. -/
  deleted : ∀ kept : List (Scalar × Value), kept.Sublist config.overrides →
    (∀ entry ∈ config.overrides,
      entry ∈ kept ∨ ∀ setting : Setting, entry.1 ≠ .text setting.name) →
    { config with overrides := kept }.resolve =
      .ok (config.settings, { config with overrides := kept }.warnings)

theorem isNone_ofKey?_iff {key : Scalar} :
    (Setting.ofKey? key).isNone ↔ ∀ setting : Setting, key ≠ .text setting.name := by
  simp only [Option.isNone_iff_eq_none, Option.eq_none_iff_forall_ne_some, ne_eq,
    Setting.ofKey?_eq_some_iff]

theorem resolution_of_distinct
    (showable : config.KeysShowable) (distinct : (config.overrides.map (·.1)).Nodup) :
    config.Resolution where
  resolved := resolve_of_showable showable
  overridden setting value present := get_override_of_mem distinct present
  preset setting absent := get_override_of_absent absent
  warned := by
    refine ⟨(config.overrides.map (·.1)).filter fun key => (Setting.ofKey? key).isNone,
      List.filter_sublist, distinct.filter _, ?_, ?_⟩
    · intro key
      rw [List.mem_filter, isNone_ofKey?_iff]
    · rw [List.filter_map, List.map_map]
      rfl
  permuted overrides permutation := by
    have alsoShowable : { config with overrides }.KeysShowable := fun entry member =>
      showable entry (permutation.mem_iff.mp member)
    have alsoDistinct := (permutation.map (·.1)).nodup_iff.mpr distinct
    have same : { config with overrides }.settings = config.settings :=
      override_congr distinct alsoDistinct fun _ _ => permutation.mem_iff
    rw [resolve_of_showable alsoShowable, same]
  deleted kept within complete := by
    have alsoShowable : { config with overrides := kept }.KeysShowable := fun entry member =>
      showable entry (within.mem member)
    have alsoDistinct := distinct.sublist (within.map (·.1))
    have same : { config with overrides := kept }.settings = config.settings := by
      refine override_congr distinct alsoDistinct fun setting value => ⟨(within.mem ·), ?_⟩
      intro present
      exact (complete _ present).resolve_right fun unknown => unknown setting rfl
    rw [resolve_of_showable alsoShowable, same]

example :
    let config : Config :=
      { mode := .classic
        overrides := [(.text "wrap_sprites", .scalar (.truth true)),
          (.text "shift_uses_vy", .scalar (.truth false))] }
    config.warnings = ["Unknown quirk 'wrap_sprites' for mode classic, ignoring"] ∧
      config.settings.get .shiftsY = .scalar (.truth false) :=
  ⟨by decide +kernel, rfl⟩

/-- A setting has a value of its kind. -/
inductive Setting.Suits (setting : Setting) : Value → Prop where
  | length (number : Int) : setting.isLength = true → Suits setting (.scalar (.integer number))
  | flag (flag : Bool) : setting.isLength = false → Suits setting (.scalar (.truth flag))

/-- All settings have values of their kinds. -/
def Settings.Suitable (settings : Settings) : Prop :=
  ∀ setting : Setting, setting.Suits (settings.get setting)

theorem suitable_ofMode (mode : Mode) : (Settings.ofMode mode).Suitable := by
  intro setting
  cases mode <;> cases setting <;> constructor <;> rfl

theorem suitable_override
    {settings : Settings} {overrides : List (Scalar × Value)} (suitable : settings.Suitable)
    (suits : ∀ entry ∈ overrides, ∀ setting : Setting, entry.1 = .text setting.name →
      setting.Suits entry.2) :
    (override settings overrides).Suitable := by
  induction overrides generalizing settings with
  | nil => exact suitable
  | cons entry rest inductionHypothesis =>
      obtain ⟨key, value⟩ := entry
      obtain ⟨changed, step, get⟩ := exists_override_cons settings key value rest
      rw [List.forall_mem_cons] at suits
      rw [step]
      refine inductionHypothesis (fun setting => ?_) suits.2
      rw [get]
      split
      next same => exact suits.1 setting same
      next => exact suitable setting

theorem suits_of_readsAs
    {given read : Scalar × Value} (reads : ReadsAs given read) {setting : Setting}
    (same : read.1 = .text setting.name) : setting.Suits read.2 := by
  have found : Setting.ofKey? read.1 = some setting := Setting.ofKey?_eq_some_iff.mpr same
  cases reads with
  | length length =>
      rw [← isLength_ofKey?_iff, found] at length
      exact .length _ (Option.some.inj length)
  | flag flag other =>
      rw [← isLength_ofKey?_iff, found] at other
      exact .flag flag (by simpa using other)

/-- A configuration that was read has suitable settings, whatever its overrides are. -/
theorem Describes.suitable {entries : List (Scalar × Value)}
    (describes : Describes entries config) : config.settings.Suitable := by
  obtain ⟨given, -, reads⟩ := describes.overrides
  refine suitable_override (suitable_ofMode config.mode) ?_
  generalize config.overrides = overrides at reads
  induction reads with
  | nil => simp
  | cons head _ inductionHypothesis =>
      exact List.forall_mem_cons.mpr ⟨fun _ => suits_of_readsAs head, inductionHypothesis⟩

namespace Settings

variable {settings : Settings} {width height : Int}

theorem Suitable.exists_size (suitable : settings.Suitable) :
    ∃ width height : Int, settings.get .displayWidth = .scalar (.integer width) ∧
      settings.get .displayHeight = .scalar (.integer height) := by
  have across := suitable .displayWidth
  have down := suitable .displayHeight
  generalize settings.get .displayWidth = first at across
  generalize settings.get .displayHeight = second at down
  cases across with
  | flag _ flag => cases flag
  | length width =>
      cases down with
      | flag _ flag => cases flag
      | length height => exact ⟨width, height, rfl, rfl⟩

theorem Suitable.get_flag
    (suitable : settings.Suitable) {setting : Setting} (flag : setting.isLength = false) :
    settings.get setting = .scalar (.truth (settings.get setting).isTruthy) := by
  have suits := suitable setting
  generalize settings.get setting = value at suits
  cases suits with
  | length _ length => cases flag.symm.trans length
  | flag => rfl

theorem lengthsOf?_integer (width height : Int) :
    lengthsOf? (.scalar (.integer width)) (.scalar (.integer height)) =
      if width ≤ 0 ∨ height ≤ 0 then
        .error (.displaySize (.scalar (.integer width)) (.scalar (.integer height)))
      else
        .ok (.number width, .number height) := by
  by_cases narrow : width ≤ 0 <;> by_cases low : height ≤ 0 <;>
    simp [lengthsOf?, isTooSmall?, Scalar.isNonpositive?, Value.length?, Scalar.length?, narrow,
      low] <;> rfl

theorem dialect?_of_small
    (across : settings.get .displayWidth = .scalar (.integer width))
    (down : settings.get .displayHeight = .scalar (.integer height))
    (small : width ≤ 0 ∨ height ≤ 0) :
    settings.dialect? =
      .error (.displaySize (.scalar (.integer width)) (.scalar (.integer height))) := by
  rw [dialect?, across, down, lengthsOf?_integer, if_pos small]
  rfl

/-- Suitable settings are those of a dialect, if the screen has a size. -/
theorem Suitable.exists_dialect?
    (suitable : settings.Suitable) (across : settings.get .displayWidth = .scalar (.integer width))
    (down : settings.get .displayHeight = .scalar (.integer height))
    (large : ¬ (width ≤ 0 ∨ height ≤ 0)) :
    ∃ dialect, settings.dialect? = .ok dialect ∧ ofDialect dialect = settings ∧
      dialect.displayWidth = .number width ∧ dialect.displayHeight = .number height := by
  rw [dialect?, across, down, lengthsOf?_integer, if_neg large]
  refine ⟨_, rfl, congrArg mk (funext fun setting => ?_), rfl, rfl⟩
  cases setting with
  | displayWidth => exact across.symm
  | displayHeight => exact down.symm
  | _ => exact (suitable.get_flag rfl).symm

end Settings

section Machine

variable {settings : Settings} {random unseeded : Random.Source} {now : Binary64}
  {width height : Int}

/-- A machine as it is built with these settings, whose screen has this size. -/
structure BuiltFrom
    (machine : Machine) (settings : Settings) (random : Random.Source) (now : Binary64)
    (width height : Int) : Prop where
  /-- The machine has these settings, and no others. -/
  dialect : Settings.ofDialect machine.core.dialect = settings
  size : machine.core.display.width = width ∧ machine.core.display.height = height
  blank : machine.core.display.cells = Array.replicate (width * height).toNat false
  fresh : machine.Fresh now
  random : machine.core.random = random

theorem builtFrom_of_create
    {dialect : Dialect} {machine : Machine} (same : Settings.ofDialect dialect = settings)
    (across : dialect.displayWidth = .number width) (down : dialect.displayHeight = .number height)
    (wide : 0 < width) (high : 0 < height)
    (created : Machine.create dialect random now = .ok machine) :
    BuiltFrom machine settings random now width height := by
  have fresh := Machine.fresh_of_create created
  obtain ⟨display, made, rfl⟩ := Machine.exists_of_create created
  rw [across, down] at made
  obtain ⟨askedWidth, askedHeight⟩ := Display.askedSize_of_create made
  refine ⟨same, ⟨?_, ?_⟩, ?_, fresh, rfl⟩
  · change (display.askedWidth.count : Int) = width
    rw [askedWidth]
    exact Int.toNat_of_nonneg wide.le
  · change (display.askedHeight.count : Int) = height
    rw [askedHeight]
    exact Int.toNat_of_nonneg high.le
  · rw [Int.toNat_mul wide.le high.le]
    exact Display.cells_of_create made

theorem machineOf_of_small
    (across : settings.get .displayWidth = .scalar (.integer width))
    (down : settings.get .displayHeight = .scalar (.integer height))
    (small : width ≤ 0 ∨ height ≤ 0) :
    machineOf settings random now =
      .error (.displaySize (.scalar (.integer width)) (.scalar (.integer height))) := by
  rw [machineOf, Settings.dialect?_of_small across down small]
  rfl

theorem exists_machineOf
    (suitable : settings.Suitable)
    (across : settings.get .displayWidth = .scalar (.integer width))
    (down : settings.get .displayHeight = .scalar (.integer height))
    (wide : 0 < width) (high : 0 < height) (room : width * height ≤ Length.assumedMemory) :
    ∃ machine, machineOf settings random now = .ok machine ∧
      BuiltFrom machine settings random now width height := by
  obtain ⟨dialect, read, same, first, second⟩ :=
    suitable.exists_dialect? across down (by omega)
  obtain ⟨machine, created⟩ : ∃ machine, Machine.create dialect random now = .ok machine := by
    apply Machine.exists_create
    rw [first, second]
    exact Display.exists_create wide high room
  refine ⟨machine, ?_, builtFrom_of_create same first second wide high created⟩
  rw [machineOf, read]
  exact congrArg ofMachine created

/-- What can come of building a machine from a configuration with a screen of this size. -/
structure Buildable
    (config : Config) (unseeded : Random.Source) (now : Binary64) (width height : Int) : Prop where
  built : ∀ machine, config.build unseeded now = .ok machine →
    BuiltFrom machine config.settings (config.randomSource unseeded) now width height
  refused : ∀ error, config.build unseeded now = .error error → error.kind = .value
  refused_iff : (∃ error, config.build unseeded now = .error error) ↔
    (width ≤ 0 ∨ height ≤ 0) ∨ ¬ config.KeysShowable

theorem buildable_of_refused
    {error : Error} (refused : config.build unseeded now = .error error)
    (kind : error.kind = .value)
    (cause : (width ≤ 0 ∨ height ≤ 0) ∨ ¬ config.KeysShowable) :
    config.Buildable unseeded now width height where
  built machine made := by cases refused.symm.trans made
  refused other same := by
    cases refused.symm.trans same
    exact kind
  refused_iff := ⟨fun _ => cause, fun _ => ⟨error, refused⟩⟩

theorem buildable_of_built
    {machine : Machine} (made : config.build unseeded now = .ok machine)
    (builtFrom :
      BuiltFrom machine config.settings (config.randomSource unseeded) now width height)
    (wide : 0 < width) (high : 0 < height) (showable : config.KeysShowable) :
    config.Buildable unseeded now width height where
  built other same := by
    cases made.symm.trans same
    exact builtFrom
  refused error same := by cases made.symm.trans same
  refused_iff := by
    constructor
    · rintro ⟨error, same⟩
      cases made.symm.trans same
    · rintro (small | hidden)
      · omega
      · exact absurd showable hidden

theorem buildable_of_suitable
    (suitable : config.settings.Suitable)
    (across : config.settings.get .displayWidth = .scalar (.integer width))
    (down : config.settings.get .displayHeight = .scalar (.integer height))
    (room : 0 < width → 0 < height → width * height ≤ Length.assumedMemory) :
    config.Buildable unseeded now width height := by
  by_cases showable : config.KeysShowable
  · have step : config.build unseeded now =
        machineOf config.settings (config.randomSource unseeded) now :=
      build_of_showable showable
    by_cases small : width ≤ 0 ∨ height ≤ 0
    · exact buildable_of_refused (step.trans (machineOf_of_small across down small)) rfl
        (.inl small)
    · rw [not_or, not_le, not_le] at small
      obtain ⟨wide, high⟩ := small
      obtain ⟨machine, made, builtFrom⟩ :=
        exists_machineOf suitable across down wide high (room wide high)
      exact buildable_of_built (step.trans made) builtFrom wide high showable
  · exact buildable_of_refused (build_of_hidden showable) rfl (.inr showable)

end Machine

/-- What building a machine from a configuration does. -/
structure BuildingLaw (config : Config) (unseeded : Random.Source) (now : Binary64) : Prop where
  resolved : config.KeysShowable → (config.overrides.map (·.1)).Nodup → config.Resolution
  /-- A key that cannot be shown is no setting's, and cannot be named in its warning. -/
  hidden : ¬ config.KeysShowable → ∃ error, config.resolve = .error error ∧ error.kind = .value
  /-- A configuration that was read names a size; it is assumed that there is memory for it. -/
  buildable : ∀ data, ofValue data = .ok config → ∃ width height : Int,
    config.settings.get .displayWidth = .scalar (.integer width) ∧
    config.settings.get .displayHeight = .scalar (.integer height) ∧
    ((0 < width → 0 < height → width * height ≤ Length.assumedMemory) →
      config.Buildable unseeded now width height)

theorem buildingLaw (config : Config) (unseeded : Random.Source) (now : Binary64) :
    config.BuildingLaw unseeded now := by
  refine ⟨resolution_of_distinct, fun hidden => ⟨_, resolve_of_hidden hidden, rfl⟩, ?_⟩
  intro data read
  cases data with
  | mapping entries =>
      have suitable := (ofEntries_eq_ok_iff.mp read).suitable
      obtain ⟨width, height, across, down⟩ := suitable.exists_size
      exact ⟨width, height, across, down, buildable_of_suitable suitable across down⟩
  | scalar | list => cases read

/-- A narrow screen that is asked for in hexadecimal, beside a key that is no setting's. -/
theorem buildingLaw_narrowClassic :
    let config : Config :=
      { mode := .classic
        overrides := [(.text "wrap_sprites", .scalar (.truth true)),
          (.text "display_width", .scalar (.integer 0x20))]
        seed := some 7 }
    config.Resolution ∧ config.Buildable (.scripted []) .zero 0x20 0x20 := by
  intro config
  have law := buildingLaw config (.scripted []) .zero
  have read : ofValue (.mapping
      [(.text "mode", .scalar (.text "Classic")),
        (.text "quirks", .mapping [(.text "wrap_sprites", .scalar (.truth true)),
          (.text "display_width", .scalar (.text "0x20"))]),
        (.text "rng_seed", .scalar (.integer 7))]) = .ok config := rfl
  obtain ⟨width, height, across, down, buildable⟩ := law.buildable _ read
  obtain rfl : width = 0x20 := by
    cases across
    rfl
  obtain rfl : height = 0x20 := by
    cases down
    rfl
  exact ⟨law.resolved (by decide) (by decide), buildable fun _ _ => by decide⟩

/-- A key of one digit too many stops a machine whose screen has a size. -/
theorem hiddenKey_refused :
    let key : Scalar := .integer (Nat.pow 10 Text.decimalDigitLimit)
    let config : Config := { overrides := [(key, .scalar (.truth true))] }
    ofValue (.mapping [(.text "quirks", .mapping [(key, .scalar (.truth true))])]) = .ok config ∧
      (config.overrides.map (·.1)).Nodup ∧
      (config.settings.get .displayWidth = .scalar (.integer 64) ∧
        config.settings.get .displayHeight = .scalar (.integer 32)) ∧
      config.resolve = .error .integerText ∧
      config.build (.scripted []) .zero = .error .integerText := by
  intro key config
  have long : key.isShowable = false :=
    isShowable_integer_eq_false_iff.mpr (Int.natAbs_natCast _).ge
  have hidden : ¬ config.KeysShowable := fun showable =>
    Bool.false_ne_true (long.symm.trans (showable (key, .scalar (.truth true)) List.mem_cons_self))
  -- the key is read without a look at its size
  have read (number : Int) : ofValue (.mapping
      [(.text "quirks", .mapping [(.integer number, .scalar (.truth true))])]) =
      .ok { overrides := [(.integer number, .scalar (.truth true))] } := rfl
  exact ⟨read _, List.nodup_singleton _, ⟨rfl, rfl⟩, resolve_of_hidden hidden,
    build_of_hidden hidden⟩

end Config

end Chip8
