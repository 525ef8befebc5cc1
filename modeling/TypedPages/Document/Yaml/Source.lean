import TypedPages.Document.Yaml.Node

/-!
# Sources of nodes

The tokens from which nodes are still to be read, together with the nodes that have names, and what
stands in front of a node: its name and its kind.
-/

namespace TypedPages

namespace Yaml

/-- Tokens that are still to be read, and the nodes that have names. A node that is not complete
yet has its name already. -/
structure Source where
  tokens : List Token
  anchors : List (String × Node)
  deriving Inhabited

namespace Source

/-- The next token. -/
def next? (s : Source) : Option Token :=
  s.tokens.head?

/-- Whether the next token is one of some. -/
def isAt (ts : List Token) (s : Source) : Bool :=
  s.next?.any ts.contains

/-- The tokens behind the next. -/
def skip (s : Source) : Source :=
  { s with tokens := s.tokens.drop 1 }

/-- Gives a node a name, or none. Of nodes with one name the one that began last is meant. -/
def define (anchor : Option String) (node : Node) (s : Source) : Source :=
  match anchor with
  | some name => { s with anchors := (name, node) :: s.anchors }
  | none => s

/-- The named nodes with a node in the last place where its name stands for a node that is not
complete. -/
def fillIn (name : String) (node : Node) : List (String × Node) → List (String × Node)
  | [] => []
  | (n, .cyclic) :: rest =>
    if n = name then (n, node) :: rest else (n, .cyclic) :: fillIn name node rest
  | entry :: rest => entry :: fillIn name node rest

/-- Lets the name of a node mean the node now that it is complete. -/
def complete (anchor : Option String) (node : Node) (s : Source) : Source :=
  match anchor with
  | some name => { s with anchors := fillIn name node s.anchors }
  | none => s

/-- The fault of a token that cannot stand where it does. -/
def fault (s : Source) : Fault :=
  match s.next? with
  | some (.stop fault) => fault
  | _ => .malformed

/-- The tokens behind the next, which has to be a given one. -/
def expect (t : Token) (s : Source) : Except Fault Source :=
  if s.next? = some t then .ok s.skip else .error s.fault

end Source

/-- What can stand in front of a node. -/
structure Properties where
  anchor : Option String
  kind : Kind
  deriving DecidableEq, Repr, Inhabited

namespace Properties

/-- Whether nothing stands in front of a node. -/
def isEmpty (p : Properties) : Bool :=
  p.anchor.isNone && p.kind.isNone

/-- Reads an anchor. -/
def readAnchor (s : Source) : Option String × Source :=
  match s.next? with
  | some (.anchor name) => (some name, s.skip)
  | _ => (none, s)

/-- Reads a tag. -/
def readKind (s : Source) : Except Fault (Kind × Source) :=
  match s.next? with
  | some (.tag t) =>
    match t.kind? with
    | some kind => .ok (some kind, s.skip)
    | none => .error .malformed
  | _ => .ok (none, s)

/-- Reads an anchor and a tag, in either order. -/
def read (s : Source) : Except Fault (Properties × Source) := do
  let (anchor, s) := readAnchor s
  let (kind, s) ← readKind s
  let (anchor, s) := if anchor.isSome then (anchor, s) else readAnchor s
  return (⟨anchor, kind⟩, s)

end Properties

end Yaml

end TypedPages
