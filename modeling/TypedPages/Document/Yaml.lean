import TypedPages.Document.Yaml.Meaning
import TypedPages.Document.Yaml.Tokens
import TypedPages.Document.Yaml.Tree
import TypedPages.Text.Case
import TypedPages.Text.Lines

/-!
# Indented documents

Documents as texts whose structure is told by indentation or by brackets. A mapping may merge the
entries of others into its own; apart from that no key is given twice. Keys are read as texts.
-/

namespace TypedPages

namespace Yaml

/-- Whether a node of some kind is one of the common kind `name`, which it is without a tag. -/
def isOfKind (name : String) : Kind → Bool
  | none | some "!" => true
  | some kind => kind == commonKinds ++ name

/-- The truth value of a scalar that is said to be one. -/
def taggedFlag? (s : String) : Option Bool :=
  let s := Text.lower s
  if ["yes", "y", "true", "on"].contains s then some true
  else if ["no", "n", "false", "off"].contains s then some false
  else none

/-- The number of a scalar that is said to be whole or real. -/
def taggedNumber? (isReal : Bool) (s : String) : Option Document :=
  let (negative, digits) := splitSign s.toList
  if !isReal then if isWhole digits then whole? negative digits else none
  else if infinityWords.contains (.ofList digits) then some (.real (.infinity negative))
  else if nanWords.contains (.ofList digits) then some (.real .nan)
  else real? negative digits

/-- The document of a scalar. -/
def scalar? (kind : Kind) (s : String) (plain : Bool) : Option Document :=
  if kind = some "!" ∨ kind = none ∧ plain then
    match meaning s with
    | .document d => some d
    | .nothing => none
    | .itself => some (.text s)
  else if isOfKind "str" kind then some (.text s)
  else if isOfKind "int" kind then taggedNumber? false s
  else if isOfKind "float" kind then taggedNumber? true s
  else if isOfKind "bool" kind then (taggedFlag? s).map .flag
  else if isOfKind "null" kind then some .null
  else if isOfKind "timestamp" kind then (moment? s.toList).bind validMoment?
  else none

/-- Whether a key is the word `s`, which has a meaning as a key. -/
def Node.isKeyWord (s : String) : Node → Bool
  | .scalar kind text plain => (kind == some "!" || kind == none && plain) && text == s
  | _ => false

/-- Keys with their values. -/
abbrev Pairs := List (Document × Document)

/-- The pairs of a mapping: those that it merges from other mappings, and its own. -/
structure Parts where
  mergesAny : Bool
  merged : Pairs
  own : Pairs

namespace Parts

/-- All pairs; the own ones come last. -/
def all (p : Parts) : Pairs :=
  p.merged ++ p.own

/-- Adds merged pairs in front of those that follow. After pairs are merged no others may be. -/
def merge? (merged : Pairs) (p : Parts) : Option Parts :=
  if merged.isEmpty then some { p with mergesAny := true }
  else if p.mergesAny then none
  else some { p with mergesAny := true, merged := merged }

end Parts

namespace Pairs

/-- Sets the value of a key: in its old place, or at the end if the key is new. -/
def insert (key value : Document) : Pairs → Pairs
  | [] => [(key, value)]
  | (k, v) :: rest => if k.agrees key then (k, value) :: rest else (k, v) :: insert key value rest

/-- Whether no key comes twice. -/
def isDistinct : Pairs → Bool
  | [] => true
  | (key, _) :: rest => !(rest.any fun e => e.1.agrees key) && isDistinct rest

/-- The text of a key. -/
def keyText : Document → String
  | .text s => s
  | .null => "none"
  | .moment m => .ofList (m.text.map fun c => if c = 'T' then ' ' else c)
  | .list items => Text.lower (Cell.tuple (Document.toCells items)).literal
  | d => Text.lower d.literal

/-- The entries that pairs give: under the texts of their keys, where the last value counts. -/
def entries (pairs : Pairs) : Entries :=
  pairs.foldl (fun entries (key, value) => Entries.insert (keyText key) value entries) []

end Pairs

/-- The mapping of its parts. Only where pairs are merged can a key come twice. -/
def Parts.mapping? (p : Parts) : Option Document :=
  if !p.merged.isEmpty then
    let pairs : Pairs := p.all.foldl (fun pairs (key, value) => Pairs.insert key value pairs) []
    some (.mapping (Pairs.entries pairs))
  else if Pairs.isDistinct p.own then some (.mapping (Pairs.entries p.own))
  else none

/-- A key is no mapping, and no list with parts that are not scalars. -/
def canBeKey : Document → Bool
  | .mapping _ => false
  | .list items => items.all fun
    | .mapping _ | .list _ => false
    | _ => true
  | _ => true

mutual

/-- The document of a node. -/
def Node.document? : Node → Option Document
  | .scalar kind text plain => scalar? kind text plain
  | .sequence kind items => if isOfKind "seq" kind then (documents? items).map .list else none
  | .mapping kind entries =>
    if isOfKind "map" kind then (parts? entries).bind Parts.mapping? else none
  | .cyclic => none

/-- The documents of nodes. -/
def documents? : List Node → Option (List Document)
  | [] => some []
  | node :: nodes => do
    let d ← node.document?
    let ds ← documents? nodes
    return d :: ds

/-- The parts of a mapping. -/
def parts? : List (Node × Node) → Option Parts
  | [] => some ⟨false, [], []⟩
  | (key, value) :: entries => do
    let later ← parts? entries
    if key.isKeyWord "<<" then
      let merged ← merged? value
      later.merge? merged
    else
      let k ← if key.isKeyWord "=" then some (.text "=") else key.document?
      let v ← value.document?
      if canBeKey k then return { later with own := (k, v) :: later.own } else none

/-- The pairs that are merged from a mapping, or from several of which the first counts most. -/
def merged? : Node → Option Pairs
  | .mapping _ entries => (parts? entries).map Parts.all
  | .sequence _ items => mergedItems? items
  | _ => none

/-- The pairs that are merged from mappings; those of the last one come first. -/
def mergedItems? : List Node → Option Pairs
  | [] => some []
  | .mapping _ entries :: nodes => do
    let parts ← parts? entries
    let later ← mergedItems? nodes
    return later ++ parts.all
  | _ :: _ => none

end

/-- Reads a text that is one document; an empty text is null. -/
def read (s : String) : Except Fault Document :=
  let cs := Text.unifyLineEnds s.toList
  if !cs.all isAllowed then .error .meaningless
  else do
    match ← node? (tokens cs) with
    | none => return .null
    | some node =>
      match node.document? with
      | some d => return d
      | none => throw .meaningless

end Yaml

end TypedPages
