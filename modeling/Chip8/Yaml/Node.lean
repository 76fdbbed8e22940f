import Chip8.Yaml.Token
/-!
The tree of a document, built from its tokens.  Whatever may be left out — an
item, a key or a value — is an empty plain scalar.  A document is one tree;
only end marks may follow it.  The tokens are taken one by one, so a failure
among them counts only if everything before it fits.
-/

namespace Chip8.Yaml

/-- A node of a document. -/
inductive Node where
  | plain (text : String)
  | quoted (text : Text)
  | sequence (items : List Node)
  | mapping (entries : List (Node × Node))
  deriving Repr

namespace Node

def empty : Node := .plain ""

/-- A node and the tokens behind it. -/
abbrev Parsed := Except Error (Node × List Token)

/-- The error of a token that does not fit; a failure is an error of its own. -/
def unexpected {Result : Type} : List Token → Except Error Result
  | .failure error :: _ => .error error
  | _ => .error .malformed

/-- Whether the next token is one of the given ones, or there is none. -/
def endsAt (ends : List Token) : List Token → Bool
  | [] => true
  | token :: _ => ends.contains token

mutual

/--
A node.  `inBlock` allows blocks, and `bare` a sequence whose dashes are not
indented more than the key before it.
-/
def parse (inBlock bare : Bool) : (fuel : Nat) → List Token → Parsed
  | 0, _ => .error .malformed
  | fuel + 1, tokens =>
      match tokens with
      | .plain text :: rest => .ok (.plain text, rest)
      | .quoted text :: rest => .ok (.quoted text, rest)
      | .flowSequenceStart :: rest => do
          let (items, rest) ← parseFlowItems true fuel rest
          return (.sequence items, rest)
      | .flowMappingStart :: rest => do
          let (entries, rest) ← parseFlowEntries true fuel rest
          return (.mapping entries, rest)
      | .blockSequenceStart :: rest =>
          if inBlock then do
            let (items, rest) ← parseItems false fuel rest
            return (.sequence items, rest)
          else unexpected tokens
      | .blockMappingStart :: rest =>
          if inBlock then do
            let (entries, rest) ← parseEntries fuel rest
            return (.mapping entries, rest)
          else unexpected tokens
      | .blockEntry :: _ =>
          if bare then do
            let (items, rest) ← parseItems true fuel tokens
            return (.sequence items, rest)
          else unexpected tokens
      | _ => unexpected tokens

/-- A node, or an empty one where one of the given tokens comes next. -/
def parseUnless (ends : List Token) (inBlock bare : Bool) : (fuel : Nat) → List Token → Parsed
  | 0, _ => .error .malformed
  | fuel + 1, tokens =>
      if endsAt ends tokens then .ok (empty, tokens) else parse inBlock bare fuel tokens

/-- The items of a sequence in a block, bare or with an end of its own. -/
def parseItems (bare : Bool) : (fuel : Nat) → List Token →
    Except Error (List Node × List Token)
  | 0, _ => .error .malformed
  | fuel + 1, tokens =>
      match tokens with
      | .blockEntry :: rest => do
          let ends : List Token :=
            if bare then [.blockEntry, .key, .value, .blockEnd] else [.blockEntry, .blockEnd]
          let (item, rest) ← parseUnless ends true false fuel rest
          let (items, rest) ← parseItems bare fuel rest
          return (item :: items, rest)
      | .blockEnd :: rest => .ok ([], if bare then tokens else rest)
      | _ => if bare then .ok ([], tokens) else unexpected tokens

def parseEntries : (fuel : Nat) → List Token →
    Except Error (List (Node × Node) × List Token)
  | 0, _ => .error .malformed
  | fuel + 1, tokens =>
      match tokens with
      | .key :: rest => do
          let (key, rest) ← parseUnless [.key, .value, .blockEnd] true true fuel rest
          let (value, rest) ← parseValue [.key, .value, .blockEnd] true fuel rest
          let (entries, rest) ← parseEntries fuel rest
          return ((key, value) :: entries, rest)
      | .blockEnd :: rest => .ok ([], rest)
      | _ => unexpected tokens

/-- The value after a key; without a colon it is an empty one. -/
def parseValue (ends : List Token) (inBlock : Bool) : (fuel : Nat) → List Token → Parsed
  | 0, _ => .error .malformed
  | fuel + 1, tokens =>
      match tokens with
      | .value :: rest => parseUnless ends inBlock inBlock fuel rest
      | _ => .ok (empty, tokens)

/-- The items of a sequence in brackets; an item may be a mapping with one entry. -/
def parseFlowItems (first : Bool) : (fuel : Nat) → List Token →
    Except Error (List Node × List Token)
  | 0, _ => .error .malformed
  | fuel + 1, tokens =>
      match first, tokens with
      | _, .flowSequenceEnd :: rest => .ok ([], rest)
      | false, .flowEntry :: rest => parseFlowItems true fuel rest
      | false, _ => unexpected tokens
      | true, .key :: rest => do
          let ends := [.flowEntry, .flowSequenceEnd]
          let (key, rest) ← parseUnless (.value :: ends) false false fuel rest
          let (value, rest) ← parseValue ends false fuel rest
          let (items, rest) ← parseFlowItems false fuel rest
          return (.mapping [(key, value)] :: items, rest)
      | true, _ => do
          let (item, rest) ← parse false false fuel tokens
          let (items, rest) ← parseFlowItems false fuel rest
          return (item :: items, rest)

def parseFlowEntries (first : Bool) : (fuel : Nat) → List Token →
    Except Error (List (Node × Node) × List Token)
  | 0, _ => .error .malformed
  | fuel + 1, tokens =>
      match first, tokens with
      | _, .flowMappingEnd :: rest => .ok ([], rest)
      | false, .flowEntry :: rest => parseFlowEntries true fuel rest
      | false, _ => unexpected tokens
      | true, .key :: rest => do
          let ends := [.flowEntry, .flowMappingEnd]
          let (key, rest) ← parseUnless (.value :: ends) false false fuel rest
          let (value, rest) ← parseValue ends false fuel rest
          let (entries, rest) ← parseFlowEntries false fuel rest
          return ((key, value) :: entries, rest)
      | true, _ => do
          let (key, rest) ← parse false false fuel tokens
          let (entries, rest) ← parseFlowEntries false fuel rest
          return ((key, empty) :: entries, rest)

end

/--
Tokens behind the lines for the reader itself.  A version may be told once and
must be the first; a handle may be explained once.
-/
def dropDirectives (known : List Directive) : List Token → Except Error (List Token)
  | .directive directive :: rest =>
      let isKnown := match directive with
        | .version _ => known.any (· matches .version _)
        | .handle _ => known.contains directive
        | .other => false
      if isKnown || (directive matches .version _ && directive != .version 1) then
        .error .malformed
      else
        dropDirectives (directive :: known) rest
  | tokens => .ok tokens

/-- The tree of a document's content, which may be missing after a start mark. -/
def parseContent (fuel : Nat) (tokens : List Token) : Parsed :=
  match tokens with
  | .directive .. :: _ | .documentStart :: _ => do
      match ← dropDirectives [] tokens with
      | .documentStart :: rest =>
          match rest with
          | .directive .. :: _ => return (empty, rest)
          | _ => parseUnless [.documentStart, .documentEnd] true false fuel rest
      | tokens => unexpected tokens
  | _ => parse true false fuel tokens

/-- Nothing but end marks may stand behind a document. -/
def checkEnd (tokens : List Token) : Except Error Unit :=
  match tokens.dropWhile (· = .documentEnd) with
  | [] => .ok ()
  | rest => do unexpected (← dropDirectives [] rest)

/-- The tree of a whole document; nothing if there is no document at all. -/
def ofTokens (tokens : List Token) : Except Error (Option Node) := do
  if tokens.isEmpty then return none
  let (node, rest) ← parseContent (4 * tokens.length + 4) tokens
  checkEnd rest
  return some node

end Node

end Chip8.Yaml
