import TypedPages.ColumnType
import TypedPages.Text.Quoted

/-!
# Columns and column specs

A field is a named and typed place in a record; a column is a field at a position. A column spec
is the text `name: type`, where the name is everything before the last colon.
-/

namespace TypedPages

/-- A name and the type of the cells that are stored under it. -/
structure Field where
  name : String
  type : ColumnType
  deriving DecidableEq, Repr, Inhabited

/-- A field together with the position that it states. Nothing ties a column to a schema: callers
may ask for any. -/
structure Column where
  name : String
  index : Int
  type : ColumnType
  deriving DecidableEq, Repr, Inhabited

/-- Why a list of columns or column specs is no schema, or has no such column. -/
inductive SchemaError where
  | malformedSpec (spec : String)
  | unnamedSpec (spec : String)
  | untypedSpec (spec : String) (cause : UnknownType)
  | misplaced (name : String) (index : Int) (position : Nat)
  | repeated (name : String)
  | missing (name : String)
  deriving DecidableEq, Repr, Inhabited

/-- The wording of a schema error. -/
def SchemaError.message : SchemaError → String
  | malformedSpec spec => s!"Invalid column spec '{spec}'. Expected format: 'column_name: type'"
  | unnamedSpec spec => s!"Invalid column spec '{spec}': column name cannot be empty"
  | untypedSpec spec cause => s!"Invalid column spec '{spec}': {cause.message}"
  | misplaced name index position =>
    s!"Column '{name}' has index {index} but is at position {position}"
  | repeated name => s!"Duplicate column name '{name}' in schema"
  | missing name => s!"Column '{name}' is not found"

namespace Field

/-- The canonical spec of a field. -/
def spec (f : Field) : String :=
  s!"{f.name}: {f.type.name}"

/-- Splits a text at its last colon. -/
def splitLastColon? (cs : List Char) : Option (List Char × List Char) :=
  let reversed := cs.reverse
  match reversed.dropWhile (· ≠ ':') with
  | [] => none
  | _ :: front => some (front.reverse, (reversed.takeWhile (· ≠ ':')).reverse)

/-- The name part and the type part of a spec without blanks around it. The name part is not
empty and stays on one line; the type part is a word of ASCII letters after any blanks. -/
def splitSpec? (cs : List Char) : Option (List Char × List Char) :=
  match splitLastColon? cs with
  | none => none
  | some (front, back) =>
    let word := back.dropWhile Text.isBlank
    if front.isEmpty || front.contains '\n' || word.isEmpty || !word.all Char.isAlpha then none
    else some (front, word)

/-- Reads a column spec. -/
def ofSpec (spec : String) : Except SchemaError Field :=
  match splitSpec? (Text.strip spec.toList) with
  | none => .error (.malformedSpec spec)
  | some (front, word) =>
    let name := Text.strip front
    if name.isEmpty then .error (.unnamedSpec spec)
    else match ColumnType.ofName (.ofList word) with
      | .ok type => .ok ⟨.ofList name, type⟩
      | .error cause => .error (.untypedSpec spec cause)

end Field

namespace Column

/-- A field at a position. -/
def ofField (f : Field) (index : Int) : Column :=
  ⟨f.name, index, f.type⟩

/-- The field that a column places. -/
def field (c : Column) : Field :=
  ⟨c.name, c.type⟩

/-- Reads a column spec for a given position. -/
def ofSpec (spec : String) (index : Int) : Except SchemaError Column :=
  (Field.ofSpec spec).map (ofField · index)

/-- The canonical spec of a column; its position is not part of it. -/
def spec (c : Column) : String :=
  c.field.spec

/-- The literal by which messages show a column. -/
def literal (c : Column) : String :=
  let type := c.type.name
  s!"Column(name={String.ofList (Text.quoted c.name)}, index={c.index}, " ++
    s!"value_type=<ValueType.{type.toUpper}: '{type}'>)"

end Column

end TypedPages
