import TypedPages.Document.Yaml.Token

/-!
# Nodes

The tree of a document before its scalars have a meaning: scalars, sequences and mappings, some of
them with the name of their kind.
-/

namespace TypedPages

namespace Yaml

/-- The name of a kind, if a tag gives one. -/
abbrev Kind := Option String

/-- What stands in front of the names of kinds that every document knows. -/
def commonKinds : String := "tag:yaml.org,2002:"

/-- The kind that a tag names. There are two handles. -/
def Tag.kind? : Tag → Option String
  | full name => some name
  | short "!" name => some ("!" ++ name)
  | short "!!" name => some (commonKinds ++ name)
  | short _ _ => none

/-- A node. An alias of a node that lies around it is cyclic. -/
inductive Node where
  | scalar (kind : Kind) (text : String) (plain : Bool)
  | sequence (kind : Kind) (items : List Node)
  | mapping (kind : Kind) (entries : List (Node × Node))
  | cyclic
  deriving Inhabited

/-- The node that stands where nothing is written. -/
def Node.blank : Node :=
  .scalar none "" true

end Yaml

end TypedPages
