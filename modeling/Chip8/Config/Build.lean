import Chip8.Config.Reading
import Chip8.Machine
/-!
From a configuration to a machine.  Overrides are applied to the settings of
the mode; a name that is no setting's is passed over with a warning.
-/

namespace Chip8.Config

open Numeric (Binary64)

def unknownSettingWarning (mode : Mode) (key : Scalar) : Text :=
  "Unknown quirk '" ++ key.plain ++ "' for mode " ++ mode.name ++ ", ignoring"

def override (settings : Settings) (overrides : List (Scalar × Value)) : Settings :=
  overrides.foldl (fun settings (key, value) =>
    match Setting.ofKey? key with
    | some setting => settings.set setting value
    | none => settings) settings

def settings (config : Config) : Settings :=
  override (Settings.ofMode config.mode) config.overrides

/-- The warnings for the overrides that are no settings, in order. -/
def warnings (config : Config) : List Text :=
  (config.overrides.filter fun entry => (Setting.ofKey? entry.1).isNone).map fun entry =>
    unknownSettingWarning config.mode entry.1

/-- The settings and the warnings; a key that is no setting's must be one that can be shown. -/
def resolve (config : Config) : Except Error (Settings × List Text) :=
  if config.overrides.all fun entry =>
      (Setting.ofKey? entry.1).isSome || entry.1.isShowable then
    .ok (config.settings, config.warnings)
  else
    .error .integerText

/-- The source of random bytes: the seeded one, or another if there is no seed. -/
def randomSource (config : Config) (unseeded : Random.Source) : Random.Source :=
  match config.seed with
  | some seed => .seeded seed
  | none => unseeded

def ofMachine {Result : Type} (result : Except Fault Result) : Except Error Result :=
  result.mapError .machine

def displayOf (width height : Value) : Except Error Display := do
  let (width, height) ← Settings.lengthsOf? width height
  ofMachine (Display.create width height)

def machineOf (settings : Settings) (random : Random.Source) (now : Binary64) :
    Except Error Machine := do
  let dialect ← settings.dialect?
  ofMachine (Machine.create dialect random now)

def build (config : Config) (unseeded : Random.Source) (now : Binary64) :
    Except Error Machine := do
  let (settings, _) ← config.resolve
  machineOf settings (config.randomSource unseeded) now

end Chip8.Config
