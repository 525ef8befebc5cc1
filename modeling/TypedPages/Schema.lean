import TypedPages.Error

/-!
# Schemas

An ordered list of fields with distinct names. The position of a column is its place in the list,
so positions are dense and start at zero.
-/

namespace TypedPages

/-- The columns of a table, in order. -/
structure Schema where
  fields : List Field
  nodup : (fields.map Field.name).Nodup

namespace Schema

theorem eq_of_fields {s t : Schema} (h : s.fields = t.fields) : s = t := by
  cases s
  cases t
  simpa using h

instance : DecidableEq Schema := fun s t =>
  if h : s.fields = t.fields then isTrue (eq_of_fields h)
  else isFalse (fun e => h (e ▸ rfl))

/-- The schema without columns. -/
def empty : Schema where
  fields := []
  nodup := .nil

instance : Inhabited Schema := ⟨empty⟩

/-- The number of columns. -/
def size (s : Schema) : Nat :=
  s.fields.length

/-- The names in order. -/
def names (s : Schema) : List String :=
  s.fields.map Field.name

/-- The fields at their positions. -/
def columns (s : Schema) : List Column :=
  s.fields.zipIdx.map fun (f, i) => .ofField f i

@[simp] theorem length_names (s : Schema) : s.names.length = s.size := by
  simp [names, size]

@[simp] theorem length_columns (s : Schema) : s.columns.length = s.size := by
  simp [columns, size]

theorem getElem?_columns (s : Schema) (i : Nat) :
    s.columns[i]? = s.fields[i]?.map fun f => .ofField f i := by
  simp [columns, List.getElem?_zipIdx, Function.comp_def]

/-- Whether some column has the name. -/
def has (s : Schema) (name : String) : Bool :=
  s.names.contains name

@[simp] theorem has_iff {s : Schema} {name : String} : s.has name = true ↔ name ∈ s.names := by
  simp [has]

/-- The column of the given name; letter case matters. -/
def find (s : Schema) (name : String) : Except SchemaError Column :=
  match s.columns.find? (·.name == name) with
  | some c => .ok c
  | none => .error (.missing name)

/-- The column at a position, where negative positions count from the end. -/
def columnAt? (s : Schema) (position : Int) : Option Column :=
  if 0 ≤ position then s.columns[position.toNat]?
  else if -position ≤ s.size then s.columns[(s.size + position).toNat]?
  else none

@[simp] theorem columnAt?_natCast (s : Schema) (i : Nat) : s.columnAt? i = s.columns[i]? := by
  simp [columnAt?]

/-- The canonical specs in order. -/
def specs (s : Schema) : List String :=
  s.fields.map Field.spec

/-- The literal by which messages show a schema. -/
def literal (s : Schema) : String :=
  "Schema(columns=" ++
    .ofList (Text.parenthesized (s.columns.map (·.literal.toList)) ++ [')'])

/-- Appends a field. Its name has to be new. -/
def append (s : Schema) (f : Field) : Except SchemaError Schema :=
  if h : f.name ∈ s.names then .error (.repeated f.name)
  else .ok {
    fields := s.fields ++ [f]
    nodup := by
      simp only [List.map_append, List.map_cons, List.map_nil]
      exact List.nodup_append.2 ⟨s.nodup, by simp, by
        rintro a ha b hb rfl
        exact h (List.mem_singleton.1 hb ▸ ha : f.name ∈ s.names)⟩ }

/-- Builds a schema from fields, which are placed in the order given. -/
def ofFields (fields : List Field) : Except SchemaError Schema :=
  fields.foldlM append empty

section

variable [Host]

/-- Appends a column. Its index has to be its position, and its name has to be new. -/
def extend (s : Schema) (c : Column) : Except Error Schema :=
  if c.index ≠ s.size then .error (Error.schema (.misplaced c.name c.index s.size)).raised
  else (s.append c.field).mapError .schema

/-- Builds a schema from columns that state their own positions; the first offender is reported. -/
def ofColumns (columns : List Column) : Except Error Schema :=
  columns.foldlM extend empty

end

/-- Builds a schema from column specs. Every spec is read before names are compared. -/
def ofSpecs (specs : List String) : Except SchemaError Schema :=
  specs.mapM Field.ofSpec >>= ofFields

end Schema

end TypedPages
