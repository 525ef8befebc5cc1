import TypedPages.Schema
import TypedPages.Selection

/-!
# Projections

A selection resolved against a schema: the schema that is left, and for each column of the input
its place in the output. The output keeps the order, the names and the types of the input, and
naming a column twice makes no difference.
-/

namespace TypedPages

/-- For each input column the index of its output column, or none if it is dropped. -/
abbrev LookupTable := List (Option Nat)

/-- What a selection comes to against one schema. -/
structure Projection where
  choice : Choice
  output : Schema
  lookup : LookupTable
  unmatched : List String
  deriving Inhabited

namespace Schema

/-- Splits names into those that the schema has and the others, each once and in order of first
mention. The first name that no column has is an error unless such names are accepted. -/
def matchNames (s : Schema) (acceptUnmatched : Bool) :
    List String → Except SelectionError (List String × List String)
  | names => names.foldlM
    (fun (hits, misses) name =>
      if s.has name then .ok (if hits.contains name then hits else hits ++ [name], misses)
      else if !acceptUnmatched then .error (.unmatched name)
      else .ok (hits, if misses.contains name then misses else misses ++ [name]))
    ([], [])

/-- Whether an output column takes its cells from the input column of its name: there has to be
one, of the same type. -/
def checkOutputColumn (input : Schema) (c : Column) : Except Error Unit :=
  match input.find c.name with
  | .error _ => .error (.violation (.strangerColumn c.name))
  | .ok own =>
    if own.type = c.type then .ok ()
    else .error (.violation (.retypedColumn c.name c.type own.type))

/-- The lookup table from an input schema to an output schema in any column order. -/
def lookupTable (input output : Schema) : Except Error LookupTable := do
  output.columns.forM input.checkOutputColumn
  return input.columns.map fun c => output.columns.findIdx? (·.name == c.name)

/-- The columns that a list of names leaves. -/
def select (s : Schema) (choice : Choice) (names : List String) : List Field :=
  s.fields.filter fun f => names.contains f.name == (choice == .keep)

end Schema

namespace Projection

/-- Resolves a selection against a schema. -/
def resolve (input : Schema) (s : Selection) : Except Error Projection := do
  let (choice, names) ← s.names.mapError .selection
  let (hits, unmatched) ← (input.matchNames s.acceptUnmatched names).mapError .selection
  let output ← (Schema.ofFields (input.select choice hits)).mapError .schema
  let lookup ← input.lookupTable output
  return { choice, output, lookup, unmatched }

/-- The number of input columns that are left out. -/
def dropped (p : Projection) : Nat :=
  p.lookup.count none

end Projection

end TypedPages
