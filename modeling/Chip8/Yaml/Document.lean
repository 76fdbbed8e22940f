import Chip8.Config.Reading
import Chip8.Yaml.Draft
/-!
Configurations in documents.  A document without content counts as one that
says nothing.
-/

namespace Chip8.Yaml

/-- The value of a document; one without content has none. -/
def read (text : String) : Except Error Config.Value := do
  match ← Node.ofTokens (tokens text) with
  | some node => node.draft.complete
  | none => return .scalar .null

def Error.toConfig : Error → Config.Error
  | malformed => .document
  | noValue => .integerText
  | tooLarge => .numberTooLarge

end Chip8.Yaml

namespace Chip8.Config

/-- The configuration in a document; nothing stands for a file that is not there. -/
def load : Option String → Except Error Config
  | none => .error .missingFile
  | some text =>
      match Yaml.read text with
      | .ok document => ofDocument document
      | .error error => .error error.toConfig

end Chip8.Config
