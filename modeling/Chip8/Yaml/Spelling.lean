import Chip8.Config.Value
import Chip8.Yaml.Number
import Chip8.Yaml.Timestamp
/-!
What a plain scalar stands for, by its spelling: nothing, a truth value, a
number, a day or a moment; everything else is text.
-/

namespace Chip8.Yaml

open Config (Scalar)

/-- The spellings of nothing. -/
def nullWords : List String := ["", "~", "null", "Null", "NULL"]

def trueWords : List String :=
  ["yes", "Yes", "YES", "true", "True", "TRUE", "on", "On", "ON"]
def falseWords : List String :=
  ["no", "No", "NO", "false", "False", "FALSE", "off", "Off", "OFF"]

/-- The key whose value is merged into the mapping around it. -/
def mergeWord : String := "<<"

def valueWord : String := "="

def ofTimestamp : Timestamp → Scalar
  | .date value => .date value
  | .moment value => .moment value

def plainValue (text : String) : Except Error Scalar :=
  if nullWords.contains text then .ok .null
  else if trueWords.contains text then .ok (.truth true)
  else if falseWords.contains text then .ok (.truth false)
  else if text = mergeWord || text = valueWord then .error .malformed
  else
    match floatOf? text.toList, integerOf? text.toList, Timestamp.of? text.toList with
    | some value, _, _ => value.map .float
    | _, some value, _ => value.map .integer
    | _, _, some value => value.map ofTimestamp
    | none, none, none => .ok (.text text)

def plainKey (text : String) : Except Error Scalar :=
  if text = valueWord then .ok (.text text) else plainValue text

end Chip8.Yaml
