import Chip8.Config.Settings
/-!
Reading a configuration from a mapping.  The mode, the section of overrides
and the seed are checked in this order, and the first error ends the reading.
-/

namespace Chip8

/-- A configuration: a mode, changes to its settings in order, and a seed. -/
structure Config where
  mode : Mode := .modern
  overrides : List (Config.Scalar × Config.Value) := []
  seed : Option Int := none
  deriving Repr

namespace Config

/-- A flag must be a truth value. -/
def flagOf : Value → Except Error Bool
  | .scalar (.truth value) => .ok value
  | value => .error (.flagFormat value)

/-- An integer may be given as a number, or as text in base ten or, after `0x`, sixteen. -/
def integerOf : Value → Except Error Int
  | .scalar (.integer value) => .ok value
  | .scalar (.text text) =>
      match text.toString?.bind Text.readInteger? with
      | some value => .ok value
      | none => .error .integerText
  | value => .error (.integerFormat value)

def optionalIntegerOf : Option Value → Except Error (Option Int)
  | none | some (.scalar .null) => .ok none
  | some value => (integerOf value).map some

/-- The mode of a name that must be one. -/
def modeNamed (name : Text) : Except Error Mode :=
  match Mode.ofName? name with
  | some mode => .ok mode
  | none => .error .unknownMode

/-- The mode that a value names in any mixture of capital and small letters. -/
def modeOf : Option Value → Except Error Mode
  | none => .ok .modern
  | some value =>
      match Mode.ofName? value.plain.lowerCase with
      | some mode => .ok mode
      | none => .error (.unsupportedMode value)

/-- The entries of the section of overrides; a value that counts as false is an empty one. -/
def sectionOf : Option Value → Except Error (List (Scalar × Value))
  | none => .ok []
  | some (.mapping entries) => .ok entries
  | some value => if value.isTruthy then .error (.settingsSection value) else .ok []

/-- The value of an override: an integer for a length of the screen, and a flag otherwise. -/
def overrideOf (key : Scalar) (value : Value) : Except Error Value :=
  match (Setting.ofKey? key).map Setting.isLength with
  | some true => (integerOf value).map fun number => .scalar (.integer number)
  | _ => (flagOf value).map fun flag => .scalar (.truth flag)

def overridesOf : List (Scalar × Value) → Except Error (List (Scalar × Value))
  | [] => .ok []
  | (key, value) :: rest => do
      let value ← overrideOf key value
      let rest ← overridesOf rest
      return (key, value) :: rest

def ofEntries (entries : List (Scalar × Value)) : Except Error Config := do
  let mode ← modeOf (Value.lookUp? entries "mode")
  let changes ← sectionOf (Value.lookUp? entries "quirks")
  let overrides ← overridesOf changes
  let seed ← optionalIntegerOf (Value.lookUp? entries "rng_seed")
  return { mode, overrides, seed }

def ofValue : Value → Except Error Config
  | .mapping entries => ofEntries entries
  | _ => .error .notAMapping

/-- The configuration that a document describes; one that counts as false is an empty mapping. -/
def ofDocument (document : Value) : Except Error Config :=
  if document.isTruthy then ofValue document else ofEntries []

/-- The names under which the overrides are known to a host; all of them must be showable. -/
def shownOverrides (config : Config) : Except Error (List (Text × Value)) :=
  if config.overrides.all fun entry => entry.1.isShowable then
    .ok (config.overrides.map fun entry => (entry.1.plain, entry.2))
  else
    .error .integerText

end Config

end Chip8
