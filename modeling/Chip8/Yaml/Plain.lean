import Chip8.Yaml.Quoted
/-!
Scalars without quotes.  They end before a comment, before a colon that ends a
key, before the indicators of a flow collection, and where a line is indented
too little.
-/

namespace Chip8.Yaml

/-- Characters that end a plain scalar inside a flow collection. -/
def flowIndicators : List Char := [',', '?', '[', ']', '\x7b', '\x7d']

def endsKey (inFlow : Bool) (rest : List Char) : Bool :=
  endsIndicator rest ||
    (inFlow && match rest with
      | character :: _ => [',', '[', ']', '\x7b', '\x7d'].contains character
      | [] => false)

def plainWord (inFlow : Bool) : List Char → List Char × List Char
  | [] => ([], [])
  | character :: rest =>
      if isSpaceOrTab character || isBreak character ||
          (character = ':' && endsKey inFlow rest) ||
          (inFlow && flowIndicators.contains character) then
        ([], character :: rest)
      else
        let (word, rest) := plainWord inFlow rest
        (character :: word, rest)

/-- The gap after a word: how it ended, and where the next word would start. -/
structure PlainGap where
  gap : Gap
  /-- Whether a document separator was met. -/
  separated : Bool
  /-- The number of spaces since the last line end. -/
  column : Nat
  rest : List Char

def plainGap (gap : Gap) (column : Nat) : List Char → PlainGap
  | [] => ⟨gap, false, column, []⟩
  | character :: rest =>
      if character = ' ' then plainGap (gap.addBlank ' ') (column + 1) rest
      else if isBreak character then
        if startsWithSeparator rest then ⟨gap.addBreak character, true, 0, rest⟩
        else plainGap (gap.addBreak character) 0 rest
      else ⟨gap, false, column, character :: rest⟩

/-- A plain scalar that has been read. -/
structure PlainText where
  text : List Char
  /-- Whether the scalar ended behind a line end. -/
  brokeLine : Bool
  rest : List Char

/--
A plain scalar from its first word on, or from a word behind the gap `before`.
`indent` is the least column of its further lines outside flow collections.
-/
def plainText (inFlow : Bool) (indent : Int) : (fuel : Nat) → (before : List Char) →
    (brokeLine : Bool) → List Char → PlainText
  | 0, _, brokeLine, characters => ⟨[], brokeLine, characters⟩
  | fuel + 1, before, brokeLine, characters =>
      if characters.head? = some '#' then ⟨[], brokeLine, characters⟩
      else
        let (word, rest) := plainWord inFlow characters
        if word.isEmpty then ⟨[], brokeLine, characters⟩
        else
          let after := plainGap .nothing 0 rest
          let (isEmpty, broke) := match after.gap with
            | .nothing => (true, false)
            | .blanks _ => (false, false)
            | .lines .. => (false, true)
          if isEmpty || after.separated || after.rest.head? = some '#' ||
              (!inFlow && broke && decide ((after.column : Int) < indent)) then
            ⟨before ++ word, broke, after.rest⟩
          else
            let more := plainText inFlow indent fuel after.gap.text broke after.rest
            { more with text := before ++ word ++ more.text }

end Chip8.Yaml
