import Chip8.Config.Value
import Chip8.Fault
import Chip8.Text.LowerCase
/-!
The errors of reading a configuration and of building a machine from it.
-/

namespace Chip8.Config

/-- Why a configuration was refused. -/
inductive Error where
  | unsupportedMode (value : Value)
  | settingsSection (value : Value)
  | flagFormat (value : Value)
  | integerFormat (value : Value)
  | integerText
  | numberTooLarge
  | notAMapping
  | unknownMode
  | unknownSetting
  | displaySize (width height : Value)
  | displayType
  | missingFile
  | document
  | machine (fault : Fault)
  deriving Repr

namespace Error

/-- A message that shows values, which there is only if all of them can be shown. -/
def showing (values : List Value) (message : Text) : Option Text :=
  if values.all Value.isShowable then some message else none

/-- The message for a host; misuses that the reader does not name have none. -/
def message : Error → Option Text
  | unsupportedMode value =>
      showing [value] ("Unsupported compatibility mode: " ++ value.plain.lowerCase)
  | settingsSection value => showing [value] ("Invalid quirks section: " ++ value.quoted)
  | flagFormat value => showing [value] ("Invalid boolean format: " ++ value.plain)
  | integerFormat value => showing [value] ("Invalid integer format: " ++ value.plain)
  | displaySize width height =>
      showing [width, height]
        ("Invalid display size " ++ width.plain ++ "x" ++ height.plain ++ ".")
  | machine fault => fault.message
  | integerText | numberTooLarge | notAMapping | unknownMode | unknownSetting | displayType
  | missingFile | document => none

def kind : Error → FaultKind
  | unsupportedMode _ | settingsSection _ | flagFormat _ | integerFormat _ | integerText
  | unknownMode | displaySize .. => .value
  | numberTooLarge => .overflow
  | notAMapping => .attribute
  | unknownSetting | displayType => .type
  | missingFile => .missingFile
  | document => .document
  | machine fault => fault.kind

end Error

end Chip8.Config
