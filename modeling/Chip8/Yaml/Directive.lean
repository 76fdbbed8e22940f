import Chip8.Yaml.Digits
/-!
The lines for the reader itself, which start with `%` and stand before a
document.  One tells the version of the form, others give short names to tags;
lines with any other name are passed over.
-/

namespace Chip8.Yaml

/-- A line for the reader itself. -/
inductive Directive where
  /-- The version of the form, by the number before its point. -/
  | version (major : Nat)
  | handle (name : List Char)
  | other
  deriving DecidableEq, Repr

namespace Directive

/-- Whether a character may stand in the name of a directive or a handle. -/
def isNameCharacter (character : Char) : Bool :=
  character.isAlphanum || character = '-' || character = '_'

/-- Whether a word ends here: before a space or at the end of the line. -/
def endsWord (line : List Char) : Bool :=
  line.isEmpty || line.head? = some ' '

/-- A line behind the spaces at its front. -/
def dropSpaces (line : List Char) : List Char :=
  line.dropWhile (· = ' ')

/--
A word of the characters that `isPart` allows, and what follows it.  The word
must not be empty, and it must end where `isEnd` says.
-/
def wordThen (isEnd : List Char → Bool) (isPart : Char → Bool) (line : List Char) :
    Except Error (List Char × List Char) :=
  let word := line.takeWhile isPart
  let rest := line.dropWhile isPart
  if word.isEmpty || !isEnd rest then .error .malformed else .ok (word, rest)

/-- A version, two numbers with a point between them, and what follows it. -/
def readVersion (line : List Char) : Except Error (Directive × List Char) := do
  let (major, rest) ← wordThen (fun _ => true) Char.isDigit line
  let major ← wholeValue major
  match rest with
  | '.' :: rest => do
      let (minor, rest) ← wordThen (fun _ => true) Char.isDigit rest
      let _ ← wholeValue minor
      if endsWord rest then return (.version major, rest) else throw .malformed
  | _ => throw .malformed

/-- A handle, which is one exclamation mark, or two with a name between them. -/
def readHandle : List Char → Except Error (List Char × List Char)
  | '!' :: ' ' :: rest => .ok (['!'], ' ' :: rest)
  | '!' :: rest =>
      match rest.takeWhile isNameCharacter, rest.dropWhile isNameCharacter with
      | name, '!' :: ' ' :: rest => .ok ('!' :: name ++ ['!'], ' ' :: rest)
      | _, _ => .error .malformed
  | _ => .error .malformed

/-- Whether a character may stand in the tag that a handle is short for. -/
def isTagCharacter (character : Char) : Bool :=
  isNameCharacter character || ";/?:@&=+$,.!~*'()[]%".toList.contains character

/-- The bytes that percent signs with two digits each stand for, and what follows them. -/
def escapedBytes : List Char → Except Error (List UInt8 × List Char)
  | '%' :: high :: low :: rest =>
      match digitsValue? 16 [high, low] with
      | some byte => (escapedBytes rest).map fun (bytes, rest) => (byte.toUInt8 :: bytes, rest)
      | none => .error .malformed
  | '%' :: _ => .error .malformed
  | line => .ok ([], line)

/-- Whether every run of escaped bytes in a tag is text; `fuel` bounds its length. -/
def hasTextEscapes : (fuel : Nat) → List Char → Bool
  | 0, _ => true
  | fuel + 1, tag =>
      match tag.dropWhile (· != '%') with
      | [] => true
      | escaped =>
          match escapedBytes escaped with
          | .ok (bytes, rest) =>
              ByteArray.validateUTF8 ⟨bytes.toArray⟩ && hasTextEscapes fuel rest
          | .error _ => false

/-- A handle and the tag that it is short for, and what follows them. -/
def readTag (line : List Char) : Except Error (Directive × List Char) := do
  let (name, rest) ← readHandle line
  let (tag, rest) ← wordThen endsWord isTagCharacter (dropSpaces rest)
  if hasTextEscapes (tag.length + 1) tag then return (.handle name, rest) else throw .malformed

/-- The directive of a line without its percent sign.  Only a comment may follow it. -/
def read (line : List Char) : Except Error Directive := do
  let (name, rest) ← wordThen endsWord isNameCharacter line
  let (directive, rest) ←
    if name = "YAML".toList then readVersion (dropSpaces rest)
    else if name = "TAG".toList then readTag (dropSpaces rest)
    else pure (other, [])
  match dropSpaces rest with
  | [] | '#' :: _ => return directive
  | _ => throw .malformed

end Directive

end Chip8.Yaml
