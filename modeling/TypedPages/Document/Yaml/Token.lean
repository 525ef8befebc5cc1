/-!
# Tokens

The parts of an indented document: the brackets of its collections, written or implied by
indentation, the marks of entries, keys and values, the names of nodes, and its scalars.
-/

namespace TypedPages

namespace Yaml

/-- Why a document cannot be had from a text: the text breaks the grammar, or it says nothing that
a document can hold. -/
inductive Fault where
  | malformed
  | meaningless
  deriving DecidableEq, Repr, Inhabited

/-- What tells the kind of a node: a name in full, or a name behind a handle that stands for its
beginning. -/
inductive Tag where
  | full (name : String)
  | short (handle name : String)
  deriving DecidableEq, Repr, Inhabited

/-- A part of an indented document. Only plain scalars have a meaning beside their text. The last
token is the end of the text, or the fault at which reading it stops. -/
inductive Token where
  | directive
  | documentStart
  | documentEnd
  | sequenceBlock
  | mappingBlock
  | blockEnd
  | openList
  | closeList
  | openMapping
  | closeMapping
  | comma
  | entry
  | key
  | value
  | aliasOf (name : String)
  | anchor (name : String)
  | tag (t : Tag)
  | scalar (text : String) (plain : Bool)
  | finish
  | stop (fault : Fault)
  deriving DecidableEq, Repr, Inhabited

/-- Tokens do not go on after the end of the text or a fault. -/
def Token.isLast : Token → Bool
  | finish | stop _ => true
  | _ => false

end Yaml

end TypedPages
