import Chip8.Yaml.Digits
/-!
Scalars in quotes.  A line end inside quotes becomes a space, and further ones
line ends of the text; the blanks around them are dropped.  Between double
quotes a backslash starts an escape.
-/

namespace Chip8.Yaml

/-- What stands between two words of a scalar. -/
inductive Gap where
  | nothing
  | blanks (characters : List Char)
  /-- Line ends: the first one, if it counts, and those after it. -/
  | lines (first : Option Char) (more : List Char)

namespace Gap

def text : Gap → List Char
  | nothing => []
  | blanks characters => characters
  | lines none more => more
  | lines (some first) more =>
      if first != '\n' then first :: more else if more.isEmpty then [' '] else more

def points (gap : Gap) : List Nat :=
  gap.text.map Char.toNat

/-- A gap followed by a blank; blanks at the end of a line are dropped. -/
def addBlank (gap : Gap) (character : Char) : Gap :=
  match gap with
  | nothing => blanks [character]
  | blanks characters => blanks (characters ++ [character])
  | lines first more => lines first more

def addBreak (gap : Gap) (character : Char) : Gap :=
  match gap with
  | lines first more => lines first (more ++ [normalBreak character])
  | _ => lines (normalBreak character) []

end Gap

/-- The characters that single letters stand for after a backslash. -/
def escapes : List (Char × Char) :=
  [('0', '\x00'), ('a', '\x07'), ('b', '\x08'), ('t', '\t'), ('\t', '\t'), ('n', '\n'),
   ('v', '\x0b'), ('f', '\x0c'), ('r', '\r'), ('e', '\x1b'), (' ', ' '), ('"', '"'),
   ('\\', '\\'), ('/', '/'), ('N', '\u0085'), ('_', '\u00a0'), ('L', '\u2028'),
   ('P', '\u2029')]

def codeLength? : Char → Option Nat
  | 'x' => some 2
  | 'u' => some 4
  | 'U' => some 8
  | _ => none

/-- The code point that a character code names; the codes end at `0x10FFFF`. -/
def codePoint (digits : List Char) : Except Error Nat :=
  match digitsValue? 16 digits with
  | none => .error .malformed
  | some code =>
      if code ≤ 0x10FFFF then .ok code
      else if code < 0x80000000 then .error .noValue
      else .error .tooLarge

/-- An escape: what it stands for and the number of characters after the backslash. -/
def escapeOf? : List Char → Except Error (Nat × Nat)
  | [] => .error .malformed
  | letter :: rest =>
      match escapes.lookup letter, codeLength? letter with
      | some character, _ => .ok (character.toNat, 1)
      | none, some length =>
          if length ≤ rest.length then do
            let point ← codePoint (rest.take length)
            return (point, length + 1)
          else
            .error .malformed
      | none, none => .error .malformed

/-- Code points in front of the rest of a scalar, once that has been read. -/
def addFront (front : List Nat) (scalar : List Nat × List Char) : List Nat × List Char :=
  (front ++ scalar.1, scalar.2)

/--
The code points of a scalar behind its opening quote, and what follows the
closing one.  `fuel` bounds the number of characters.
-/
def quotedPoints (double : Bool) : (fuel : Nat) → Gap → List Char →
    Except Error (List Nat × List Char)
  | 0, _, _ | _, _, [] => .error .malformed
  | fuel + 1, gap, character :: rest =>
      if isBreak character then
        if startsWithSeparator rest then .error .malformed
        else quotedPoints double fuel (gap.addBreak character) rest
      else if isSpaceOrTab character then
        quotedPoints double fuel (gap.addBlank character) rest
      else if character = '"' ∧ double then
        .ok (gap.points, rest)
      else if character = '\'' ∧ !double then
        match rest with
        | '\'' :: after =>
            (quotedPoints double fuel .nothing after).map (addFront (gap.points ++ ['\''.toNat]))
        | _ => .ok (gap.points, rest)
      else if character = '\\' ∧ double then
        if (rest.head?.map isBreak).getD false then
          if startsWithSeparator rest.tail then .error .malformed
          else
            (quotedPoints double fuel (.lines none []) rest.tail).map (addFront gap.points)
        else do
          let (point, length) ← escapeOf? rest
          (quotedPoints double fuel .nothing (rest.drop length)).map
            (addFront (gap.points ++ [point]))
      else
        (quotedPoints double fuel .nothing rest).map
          (addFront (gap.points ++ [character.toNat]))

end Chip8.Yaml
