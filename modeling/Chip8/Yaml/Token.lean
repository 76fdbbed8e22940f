import Chip8.Text
import Chip8.Yaml.Directive
import Chip8.Yaml.Plain
/-!
The tokens of a document.  Blocks have no brackets; their starts and ends are
told from the columns, and the start of a mapping is known only when the colon
after its first key is met.  So a place where a key could have started is kept
until the colon comes or the line ends, and the tokens are put in there.  A
token behind such a place is held back until then.
-/

namespace Chip8.Yaml

/-- A token of a document. -/
inductive Token where
  | directive (directive : Directive)
  | documentStart
  | documentEnd
  | blockSequenceStart
  | blockMappingStart
  | blockEnd
  | flowSequenceStart
  | flowSequenceEnd
  | flowMappingStart
  | flowMappingEnd
  | flowEntry
  | blockEntry
  | key
  | value
  | plain (text : String)
  | quoted (text : Text)
  /-- The place where the tokens end, because the text that follows is none. -/
  | failure (error : Error)
  deriving DecidableEq, Repr

/-- A place where a key may have started. -/
structure KeyPlace where
  /-- The flow collections around it. -/
  level : Nat
  /-- The number of tokens before it. -/
  position : Nat
  /-- Whether nothing but a key can stand there. -/
  required : Bool
  index : Nat
  line : Nat
  column : Nat

/-- The greatest distance between the start of a key and its colon. -/
def keyLimit : Nat := 1024

/-- A reader in the middle of a document. -/
structure Scanner where
  cursor : Cursor
  tokens : Array Token := #[]
  /-- The number of open flow collections. -/
  level : Nat := 0
  /-- The column of the current block, and of those around it. -/
  indent : Int := -1
  indents : List Int := []
  /-- Whether a key may start here. -/
  keyAllowed : Bool := true
  places : List KeyPlace := []

namespace Scanner

def emit (scanner : Scanner) (token : Token) : Scanner :=
  { scanner with tokens := scanner.tokens.push token }

def skip (scanner : Scanner) (count : Nat) : Scanner :=
  { scanner with cursor := scanner.cursor.skip count }

def closeBlocks (column : Int) (scanner : Scanner) : Scanner :=
  if scanner.level = 0 then close scanner.indents scanner else scanner
where
  close : List Int → Scanner → Scanner
    | outer :: rest, scanner =>
        if column < scanner.indent then
          close rest { scanner.emit .blockEnd with indent := outer, indents := rest }
        else
          scanner
    | [], scanner => scanner

/-- Start a block at a column, unless the current one is there already. -/
def openBlock? (scanner : Scanner) (column : Nat) : Option Scanner :=
  if scanner.indent < column then
    some { scanner with
      indents := scanner.indent :: scanner.indents
      indent := column }
  else
    none

/-- Give up the places for keys that are too far back; a required one must not be. -/
def dropStale (scanner : Scanner) : Except Error Scanner :=
  let isStale (place : KeyPlace) :=
    place.line != scanner.cursor.line || decide (keyLimit < scanner.cursor.index - place.index)
  if scanner.places.any fun place => isStale place && place.required then .error .malformed
  else .ok { scanner with places := scanner.places.filter (!isStale ·) }

/-- Give up the place for a key at the current level; it must not be a required one. -/
def dropPlace (scanner : Scanner) : Except Error Scanner :=
  if scanner.places.any fun place => place.level = scanner.level && place.required then
    .error .malformed
  else
    .ok { scanner with places := scanner.places.filter (·.level != scanner.level) }

def keepPlace (scanner : Scanner) : Except Error Scanner :=
  if scanner.keyAllowed then do
    let required := scanner.level = 0 && decide (scanner.indent = scanner.cursor.column)
    let scanner ← scanner.dropPlace
    let place : KeyPlace :=
      ⟨scanner.level, scanner.tokens.size, required, scanner.cursor.index,
        scanner.cursor.line, scanner.cursor.column⟩
    return { scanner with places := place :: scanner.places }
  else
    .ok scanner

/-- Skip spaces, comments and line ends; a new line of a block may start a key. -/
def skipBlanks : (fuel : Nat) → Scanner → Scanner
  | 0, scanner => scanner
  | fuel + 1, scanner =>
      let rest := scanner.cursor.rest.dropWhile (· = ' ')
      let rest := if rest.head? = some '#' then rest.dropWhile (!isBreak ·) else rest
      let scanner := { scanner with cursor := scanner.cursor.moveTo rest }
      match rest with
      | character :: _ =>
          if isBreak character then
            let scanner := scanner.skip 1
            skipBlanks fuel
              { scanner with keyAllowed := scanner.keyAllowed || scanner.level = 0 }
          else
            scanner
      | [] => scanner

def endBlocks (scanner : Scanner) : Except Error Scanner := do
  let scanner ← (scanner.closeBlocks (-1)).dropPlace
  return { scanner with keyAllowed := false }

/-- A line that starts with `%`, with the end of the line. -/
def fetchDirective (scanner : Scanner) : Except Error Scanner := do
  let scanner ← scanner.endBlocks
  let line := scanner.cursor.rest.takeWhile (!isBreak ·)
  let directive ← Directive.read line.tail
  return (scanner.emit (.directive directive)).skip (line.length + 1)

def fetchSeparator (scanner : Scanner) (token : Token) : Except Error Scanner := do
  let scanner ← scanner.endBlocks
  return (scanner.emit token).skip 3

/-- The opening bracket of a flow collection. -/
def fetchFlowStart (scanner : Scanner) (token : Token) : Except Error Scanner := do
  let scanner ← scanner.keepPlace
  return { (scanner.emit token).skip 1 with level := scanner.level + 1, keyAllowed := true }

/-- The closing bracket of a flow collection. -/
def fetchFlowEnd (scanner : Scanner) (token : Token) : Except Error Scanner := do
  let scanner ← scanner.dropPlace
  if scanner.level = 0 then throw .malformed
  return { (scanner.emit token).skip 1 with level := scanner.level - 1, keyAllowed := false }

/-- The comma in a flow collection. -/
def fetchFlowEntry (scanner : Scanner) : Except Error Scanner := do
  let scanner ← scanner.dropPlace
  return { (scanner.emit .flowEntry).skip 1 with keyAllowed := true }

/-- An indicator that starts a block at its own column, if it is not in one. -/
def startBlock (scanner : Scanner) (token : Token) : Except Error Scanner :=
  if scanner.level != 0 then .ok scanner
  else if !scanner.keyAllowed then .error .malformed
  else
    match scanner.openBlock? scanner.cursor.column with
    | some opened => .ok (opened.emit token)
    | none => .ok scanner

/-- The dash before an item. -/
def fetchBlockEntry (scanner : Scanner) : Except Error Scanner := do
  let scanner ← (← scanner.startBlock .blockSequenceStart).dropPlace
  return { (scanner.emit .blockEntry).skip 1 with keyAllowed := true }

/-- The question mark before a key. -/
def fetchKey (scanner : Scanner) : Except Error Scanner := do
  let scanner ← (← scanner.startBlock .blockMappingStart).dropPlace
  return { (scanner.emit .key).skip 1 with keyAllowed := scanner.level = 0 }

def emitAt (scanner : Scanner) (position : Nat) (token : Token) : Scanner :=
  { scanner with tokens := scanner.tokens.insertIdxIfInBounds position token }

/-- The colon before a value; it makes a key of the scalar or collection before it. -/
def fetchValue (scanner : Scanner) : Except Error Scanner := do
  match scanner.places.find? (·.level = scanner.level) with
  | some place =>
      let scanner := { scanner with
        places := scanner.places.filter (·.level != scanner.level)
        keyAllowed := false }
      let scanner := scanner.emitAt place.position .key
      let scanner :=
        if scanner.level != 0 then scanner
        else
          match scanner.openBlock? place.column with
          | some opened => opened.emitAt place.position .blockMappingStart
          | none => scanner
      return (scanner.emit .value).skip 1
  | none =>
      let scanner ← scanner.startBlock .blockMappingStart
      let scanner ← { scanner with keyAllowed := scanner.level = 0 }.dropPlace
      return (scanner.emit .value).skip 1

def fetchQuoted (scanner : Scanner) (double : Bool) : Except Error Scanner := do
  let scanner ← scanner.keepPlace
  let rest := scanner.cursor.rest.tail
  let (points, rest) ← quotedPoints double (rest.length + 1) .nothing rest
  return { scanner.emit (.quoted ⟨points⟩) with
    cursor := scanner.cursor.moveTo rest
    keyAllowed := false }

/-- A scalar without quotes. -/
def fetchPlain (scanner : Scanner) : Except Error Scanner := do
  let scanner ← scanner.keepPlace
  let characters := scanner.cursor.rest
  let plain := plainText (scanner.level != 0) (scanner.indent + 1) (characters.length + 1)
    [] false characters
  return { scanner.emit (.plain (String.ofList plain.text)) with
    cursor := scanner.cursor.moveTo plain.rest
    keyAllowed := plain.brokeLine }

/-- Characters that cannot start a plain scalar, whatever follows them. -/
def indicators : List Char :=
  [',', '[', ']', '\x7b', '\x7d', '#', '&', '*', '!', '|', '>', '\'', '"', '%', '@', '\x60', '\t']

/-- Whether a plain scalar can start with a character and what follows it. -/
def startsPlain (inFlow : Bool) (character : Char) (rest : List Char) : Bool :=
  if ['-', '?', ':'].contains character then
    !endsIndicator rest && (character = '-' || !inFlow)
  else
    !indicators.contains character

def fetch (scanner : Scanner) (character : Char) (rest : List Char) :
    Except Error Scanner :=
  let inFlow := scanner.level != 0
  let atStart := scanner.cursor.column = 0
  let separates := atStart && startsWithSeparator (character :: rest)
  if character = '%' ∧ atStart then scanner.fetchDirective
  else if character = '-' ∧ separates then scanner.fetchSeparator .documentStart
  else if character = '.' ∧ separates then scanner.fetchSeparator .documentEnd
  else if character = '[' then scanner.fetchFlowStart .flowSequenceStart
  else if character = '\x7b' then scanner.fetchFlowStart .flowMappingStart
  else if character = ']' then scanner.fetchFlowEnd .flowSequenceEnd
  else if character = '\x7d' then scanner.fetchFlowEnd .flowMappingEnd
  else if character = ',' then scanner.fetchFlowEntry
  else if character = '-' ∧ endsIndicator rest then scanner.fetchBlockEntry
  else if character = '?' ∧ (inFlow ∨ endsIndicator rest) then scanner.fetchKey
  else if character = ':' ∧ (inFlow ∨ endsIndicator rest) then scanner.fetchValue
  else if character = '\'' then scanner.fetchQuoted false
  else if character = '"' then scanner.fetchQuoted true
  else if startsPlain inFlow character rest then scanner.fetchPlain
  else .error .malformed

/-- Read on by one token; the flag tells whether the document ends there. -/
def advance (scanner : Scanner) : Except Error (Scanner × Bool) := do
  let scanner ← (scanner.skipBlanks (scanner.cursor.rest.length + 1)).dropStale
  let scanner := scanner.closeBlocks scanner.cursor.column
  match scanner.cursor.rest with
  | [] => return (← scanner.endBlocks, true)
  | character :: rest => return (← scanner.fetch character rest, false)

/-- The tokens that are not held back, and the failure behind them. -/
def failed (scanner : Scanner) (error : Error) : List Token :=
  let released := (scanner.places.map (·.position)).foldl min scanner.tokens.size
  scanner.tokens.toList.take released ++ [.failure error]

/--
All tokens; a failure stands behind those that are given out before it is
met.  `fuel` bounds their number; every one takes a character at least.
-/
def run : (fuel : Nat) → Scanner → List Token
  | 0, scanner => scanner.failed .malformed
  | fuel + 1, scanner =>
      match scanner.dropStale with
      | .error error => scanner.failed error
      | .ok scanner =>
          match scanner.advance with
          | .error error => scanner.failed error
          | .ok (scanner, true) => scanner.tokens.toList
          | .ok (scanner, false) => run fuel scanner

end Scanner

/-- The number of characters that are read at a time; the first time it is twice as many. -/
def chunkSize : Nat := 4096

/-- The number of characters in front of the chunk that holds the character at an index. -/
def chunkStart (index : Nat) : Nat :=
  if index < 2 * chunkSize then 0 else index / chunkSize * chunkSize

/-- The tokens of characters; one mark of byte order at their start is passed over. -/
def tokensOf (characters : List Char) : List Token :=
  let rest := if characters.head? = some '\uFEFF' then characters.tail else characters
  Scanner.run (rest.length + 1) { cursor := { rest } }

/--
The tokens of a document.  A character that it may not contain is met when its
chunk is read, so it hides all failures behind the start of that chunk.
-/
def tokens (text : String) : List Token :=
  let characters := unifyLineEnds text.toList
  match characters.findIdx? (!isAllowed ·) with
  | none => tokensOf characters
  | some index =>
      let tokens := tokensOf (characters.take (chunkStart index))
      if tokens.any (· matches .failure _) then tokens else tokens ++ [.failure .malformed]

end Chip8.Yaml
