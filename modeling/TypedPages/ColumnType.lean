import TypedPages.Text.Blank

/-!
# Column types

The closed set of types that a column can have, and the spellings under which a column spec may
name them.
-/

namespace TypedPages

/-- The type of every cell of a column that is not null. -/
inductive ColumnType where
  | boolean
  | long
  | double
  | string
  | timestamp
  | json
  deriving DecidableEq, Repr, Inhabited

/-- A text that spells no column type. -/
structure UnknownType where
  name : String
  deriving DecidableEq, Repr, Inhabited

namespace ColumnType

/-- The canonical name, under which specs are written. -/
def name : ColumnType → String
  | boolean => "boolean"
  | long => "long"
  | double => "double"
  | string => "string"
  | timestamp => "timestamp"
  | json => "json"

/-- All spellings in alphabetical order: the canonical names and their aliases. -/
def spellings : List (String × ColumnType) := [
  ("bool", boolean), ("boolean", boolean), ("double", double), ("float", double), ("int", long),
  ("integer", long), ("json", json), ("long", long), ("str", string), ("string", string),
  ("text", string), ("timestamp", timestamp)]

/-- Resolves a spelling in any letter case, with blanks around it. Only the letters of ASCII
matter: no other character has a lower case that occurs in a spelling. -/
def ofName (name : String) : Except UnknownType ColumnType :=
  match spellings.lookup (.ofList ((Text.strip name.toList).map Char.toLower)) with
  | some type => .ok type
  | none => .error ⟨name⟩

end ColumnType

/-- Lists the spellings that would have been accepted. -/
def UnknownType.message (e : UnknownType) : String :=
  let supported := ", ".intercalate (ColumnType.spellings.map (·.1))
  s!"Unknown type '{e.name}'. Supported types: {supported}"

end TypedPages
