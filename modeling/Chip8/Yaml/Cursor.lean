/-!
Positions in a document: the characters still to be read, and how many
characters and lines came before them.
-/

namespace Chip8.Yaml

/-- Why a document cannot be read. -/
inductive Error where
  /-- The text is not a document of the accepted form. -/
  | malformed
  /-- A number, a date or a character code has the form of one but no value. -/
  | noValue
  /-- A number is too large. -/
  | tooLarge
  deriving DecidableEq, Repr

def isBreak (character : Char) : Bool :=
  character = '\n' || character = '\u0085' || character = '\u2028' || character = '\u2029'

def normalBreak (character : Char) : Char :=
  if character = '\u0085' then '\n' else character

def isSpaceOrTab (character : Char) : Bool :=
  character = ' ' || character = '\t'

/-- Whether the next character, or the end of the document, ends an indicator. -/
def endsIndicator : List Char → Bool
  | [] => true
  | character :: _ => isSpaceOrTab character || isBreak character

def startsWithSeparator : List Char → Bool
  | '-' :: '-' :: '-' :: rest => endsIndicator rest
  | '.' :: '.' :: '.' :: rest => endsIndicator rest
  | _ => false

def isAllowed (character : Char) : Bool :=
  let code := character.toNat
  code = 0x9 || code = 0xA || code = 0xD || (0x20 ≤ code && code ≤ 0x7E) || code = 0x85 ||
    (0xA0 ≤ code && code ≤ 0xFFFD) || 0x10000 ≤ code

def unifyLineEnds : List Char → List Char
  | [] => []
  | '\r' :: '\n' :: rest => '\n' :: unifyLineEnds rest
  | '\r' :: rest => '\n' :: unifyLineEnds rest
  | character :: rest => character :: unifyLineEnds rest

/-- A position in a document. -/
structure Cursor where
  rest : List Char
  index : Nat := 0
  line : Nat := 0
  column : Nat := 0

namespace Cursor

/-- The position behind the next character. -/
def next (cursor : Cursor) : Cursor :=
  match cursor.rest with
  | [] => cursor
  | character :: rest =>
      if isBreak character then ⟨rest, cursor.index + 1, cursor.line + 1, 0⟩
      else if character = '\uFEFF' then ⟨rest, cursor.index + 1, cursor.line, cursor.column⟩
      else ⟨rest, cursor.index + 1, cursor.line, cursor.column + 1⟩

/-- The position behind the next `count` characters. -/
def skip : (count : Nat) → Cursor → Cursor
  | 0, cursor => cursor
  | count + 1, cursor => skip count cursor.next

/-- The position at which `rest` is what remains. -/
def moveTo (cursor : Cursor) (rest : List Char) : Cursor :=
  cursor.skip (cursor.rest.length - rest.length)

end Cursor

end Chip8.Yaml
