import Chip8.Config.Error
import Chip8.Dialect
/-!
The settings of a dialect by name.  A setting holds any value until a machine
is built; then the flags count by whether they are true, and the size of the
screen must be two whole positive numbers.
-/

namespace Chip8.Config

/-- The settings that a configuration can change. -/
inductive Setting where
  | shiftsY
  | jumpsByX
  | masksGlyph
  | flagsIndex
  | movesIndex
  | logicClearsFlag
  | displayWidth
  | displayHeight
  deriving DecidableEq, Repr

namespace Setting

def all : List Setting :=
  [shiftsY, jumpsByX, masksGlyph, flagsIndex, movesIndex, logicClearsFlag, displayWidth,
   displayHeight]

def name : Setting → String
  | shiftsY => "shift_uses_vy"
  | jumpsByX => "jump_uses_vx"
  | masksGlyph => "font_masks_low_nibble"
  | flagsIndex => "index_overflow_flag"
  | movesIndex => "load_store_increments_i"
  | logicClearsFlag => "logic_resets_vf"
  | displayWidth => "display_width"
  | displayHeight => "display_height"

/-- Whether a setting is a length of the screen, and not a flag. -/
def isLength : Setting → Bool
  | displayWidth | displayHeight => true
  | _ => false

def ofName? (name : Text) : Option Setting :=
  all.find? fun setting => Text.ofString setting.name = name

def ofKey? : Scalar → Option Setting
  | .text name => ofName? name
  | _ => none

def valueIn (dialect : Dialect) : Setting → Scalar
  | shiftsY => .truth dialect.shiftsY
  | jumpsByX => .truth dialect.jumpsByX
  | masksGlyph => .truth dialect.masksGlyph
  | flagsIndex => .truth dialect.flagsIndex
  | movesIndex => .truth dialect.movesIndex
  | logicClearsFlag => .truth dialect.logicClearsFlag
  | displayWidth => .ofLength dialect.displayWidth
  | displayHeight => .ofLength dialect.displayHeight

@[simp]
theorem ofName?_name (setting : Setting) : ofName? setting.name = some setting := by
  cases setting <;> simp [ofName?, all, name]

end Setting

/-- A value for every setting. -/
structure Settings where
  get : Setting → Value

namespace Settings

def ofDialect (dialect : Dialect) : Settings :=
  ⟨fun setting => .scalar (setting.valueIn dialect)⟩

def ofMode (mode : Mode) : Settings :=
  ofDialect mode.dialect

def set (settings : Settings) (setting : Setting) (value : Value) : Settings :=
  ⟨fun other => if other = setting then value else settings.get other⟩

/-- The settings with the named values replaced; every name must be a setting's. -/
def replace (settings : Settings) : List (Scalar × Value) → Except Error Settings
  | [] => .ok settings
  | (key, value) :: rest => do
      match Setting.ofKey? key with
      | some setting => (settings.set setting value).replace rest
      | none => .error .unknownSetting

/-- Whether two values of a setting are equal; one of them is a scalar. -/
def sameValue : Value → Value → Bool
  | .scalar left, .scalar right => left.same right
  | _, _ => false

def agreesWith (settings : Settings) (mode : Mode) : Bool :=
  Setting.all.all fun setting =>
    sameValue ((ofMode mode).get setting) (settings.get setting)

def isTooSmall? : Value → Except Error Bool
  | .scalar value =>
      match value.isNonpositive? with
      | some small => .ok small
      | none => .error .displayType
  | _ => .error .displayType

/--
The size of the screen that two values ask for.  The width is looked at before
the height, and both are checked to be large enough before they are checked to
be whole.  An integer too large to be multiplied with what is not whole is an
error of its own.
-/
def lengthsOf? (width height : Value) : Except Error (Length × Length) := do
  if ← isTooSmall? width then throw (.displaySize width height)
  if ← isTooSmall? height then throw (.displaySize width height)
  match width.length?, height.length? with
  | some width, some height => return (width, height)
  | _, _ =>
      if width.exceedsFloats || height.exceedsFloats then throw .numberTooLarge
      else throw .displayType

def dialect? (settings : Settings) : Except Error Dialect := do
  let (displayWidth, displayHeight) ←
    lengthsOf? (settings.get .displayWidth) (settings.get .displayHeight)
  return {
    shiftsY := (settings.get .shiftsY).isTruthy
    jumpsByX := (settings.get .jumpsByX).isTruthy
    masksGlyph := (settings.get .masksGlyph).isTruthy
    flagsIndex := (settings.get .flagsIndex).isTruthy
    movesIndex := (settings.get .movesIndex).isTruthy
    logicClearsFlag := (settings.get .logicClearsFlag).isTruthy
    displayWidth
    displayHeight }

end Settings

end Chip8.Config
