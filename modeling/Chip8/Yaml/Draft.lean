import Chip8.Yaml.Node
import Chip8.Yaml.Spelling
/-!
A document whose scalars have been read and whose merged mappings have been
put in, with the errors still at their places.  The document is completed
level by level, so the error that counts is the first one of the least depth.
-/

namespace Chip8.Yaml

open Config (Scalar Value)

/-- A document with the errors of its scalars at their places. -/
inductive Draft where
  | scalar (value : Except Error Scalar)
  | list (items : List Draft)
  | mapping (entries : List (Except Error Scalar × Draft))
  /-- A mapping that what is no mapping should be merged into. -/
  | broken

/-- An entry of a mapping before the merged mappings are put in. -/
inductive DraftEntry where
  | merge (value : Draft)
  | own (key : Except Error Scalar) (value : Draft)

namespace DraftEntry

def merged? : DraftEntry → Option Draft
  | merge value => some value
  | own .. => none

def own? : DraftEntry → Option (Except Error Scalar × Draft)
  | own key value => some (key, value)
  | merge _ => none

end DraftEntry

namespace Draft

def entries? : Draft → Option (List (Except Error Scalar × Draft))
  | mapping entries => some entries
  | _ => none

/-- The entries that are merged in: those of a mapping, or of a list of them from its end on. -/
def mergedEntries? : Draft → Option (List (Except Error Scalar × Draft))
  | list items => (items.mapM entries?).map fun parts => parts.reverse.flatten
  | draft => draft.entries?

def ofEntries (entries : List DraftEntry) : Draft :=
  match (entries.filterMap DraftEntry.merged?).mapM mergedEntries? with
  | some merged => .mapping (merged.flatten ++ entries.filterMap DraftEntry.own?)
  | none => .broken

def errorOf? {Result : Type} : Except Error Result → Option Error
  | .error error => some error
  | .ok _ => none

def scalarError? : Draft → Option Error
  | scalar value => errorOf? value
  | _ => none

/-- The first error among the parts of a draft that are no collections. -/
def ownError? : Draft → Option Error
  | scalar value => errorOf? value
  | list items => items.findSome? scalarError?
  | mapping entries =>
      entries.findSome? fun (key, value) => (errorOf? key).or value.scalarError?
  | broken => some .malformed

/-- The first own error at a level below a draft. -/
def errorAt? : (level : Nat) → Draft → Option Error
  | 0, draft => draft.ownError?
  | level + 1, list items => items.findSome? (errorAt? level)
  | level + 1, mapping entries => entries.findSome? fun entry => errorAt? level entry.2
  | _ + 1, _ => none

mutual

def depth : Draft → Nat
  | list items => depthOfItems items + 1
  | mapping entries => depthOfEntries entries + 1
  | scalar _ | broken => 1

def depthOfItems : List Draft → Nat
  | [] => 0
  | item :: rest => max item.depth (depthOfItems rest)

def depthOfEntries : List (Except Error Scalar × Draft) → Nat
  | [] => 0
  | (_, value) :: rest => max value.depth (depthOfEntries rest)

end

/-- The error that counts: the first one of the least depth. -/
def firstError? (draft : Draft) : Option Error :=
  (List.range draft.depth).findSome? (errorAt? · draft)

mutual

/-- The value of a draft without errors. -/
def value : Draft → Except Error Value
  | scalar value => value.map .scalar
  | list items => (values items).map .list
  | mapping entries => (entriesOnto [] entries).map .mapping
  | broken => .error .malformed

def values : List Draft → Except Error (List Value)
  | [] => .ok []
  | item :: rest => do
      let item ← item.value
      let rest ← values rest
      return item :: rest

/-- Entries with further ones; a repeated key keeps its first place and takes its last value. -/
def entriesOnto (known : List (Scalar × Value)) :
    List (Except Error Scalar × Draft) → Except Error (List (Scalar × Value))
  | [] => .ok known
  | (key, value) :: rest => do
      let key ← key
      let value ← value.value
      entriesOnto (Value.insert known key value) rest

end

def complete (draft : Draft) : Except Error Value :=
  match draft.firstError? with
  | some error => .error error
  | none => draft.value

end Draft

namespace Node

/-- A key must be a scalar. -/
def key : Node → Except Error Scalar
  | plain text => plainKey text
  | quoted text => .ok (.text text)
  | sequence _ | mapping _ => .error .malformed

def isMerge : Node → Bool
  | plain text => text = mergeWord
  | _ => false

mutual

def draft : Node → Draft
  | plain text => .scalar (plainValue text)
  | quoted text => .scalar (.ok (.text text))
  | sequence items => .list (drafts items)
  | mapping entries => .ofEntries (draftEntries entries)

def drafts : List Node → List Draft
  | [] => []
  | item :: rest => item.draft :: drafts rest

def draftEntries : List (Node × Node) → List DraftEntry
  | [] => []
  | (key, value) :: rest =>
      (if key.isMerge then .merge value.draft else .own key.key value.draft) ::
        draftEntries rest

end

end Node

end Chip8.Yaml
