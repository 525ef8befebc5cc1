import TypedPages.Error
import TypedPages.Schema

/-!
# Cursors

A cursor walks over the records of one page at a time and gives out cells of the current record.
It is bound to a schema: whoever asks for a column that the schema does not have, or for another
type than the column's, works from another schema and is refused.
-/

namespace TypedPages

/-- A position in a page: the records still ahead, how often the cursor was advanced since the
page was bound, and the record that it stands on, which is as wide as the schema. -/
structure Cursor where
  schema : Schema
  ahead : List Record
  advances : Nat
  current : Option Record
  width : ∀ record ∈ current, record.length = schema.size

namespace Cursor

/-- A cursor without a page. -/
def ofSchema (schema : Schema) : Cursor where
  schema := schema
  ahead := []
  advances := 0
  current := none
  width := by simp

instance : Inhabited Cursor := ⟨ofSchema .empty⟩

/-- Binds a page; the cursor stands before its first record. -/
def bind (c : Cursor) (page : Page) : Cursor :=
  { c with ahead := page, advances := 0, current := none, width := by simp }

/-- Lets go of the page. -/
def close (c : Cursor) : Cursor :=
  { c with ahead := [], current := none, width := by simp }

@[simp] theorem schema_bind (c : Cursor) (page : Page) : (c.bind page).schema = c.schema := rfl

@[simp] theorem schema_close (c : Cursor) : c.close.schema = c.schema := rfl

/-- Moves to the next record and tells whether there was one. A record of the wrong width is
refused and passed over, and the cursor keeps the record it stood on before. -/
def advance (c : Cursor) : Except Error Bool × Cursor :=
  match c.ahead with
  | [] => (.ok false, { c with advances := c.advances + 1, current := none, width := by simp })
  | record :: ahead =>
    if h : record.length = c.schema.size then
      (.ok true, { c with
        ahead, advances := c.advances + 1, current := some record, width := by simpa using h })
    else
      (.error (.violation (.wrongWidth c.advances record.length c.schema.size)),
        { c with ahead, advances := c.advances + 1 })

@[simp] theorem schema_advance (c : Cursor) : c.advance.2.schema = c.schema := by
  unfold advance
  split
  · rfl
  · split <;> rfl

section

variable [Host]

/-- The cell of a column in the current record. The column has to be the one that the schema has
at the column's position. -/
def cell (c : Cursor) (column : Column) : Except Error Cell :=
  match c.current with
  | none => .error (.violation .noRecord)
  | some record =>
    if (c.schema.size : Int) ≤ column.index then
      .error (Violation.foreignColumn column).raised
    else match c.schema.columnAt? column.index with
      | none => .error (.beyondColumns column.index)
      | some own =>
        if own = column then
          match record[column.index.toNat]? with
          | some cell => .ok cell
          | none => .error (.beyondColumns column.index)
        else .error (Violation.foreignColumn column).raised

/-- Whether the cell of a column is null. -/
def isNull (c : Cursor) (column : Column) : Except Error Bool :=
  (c.cell column).map Cell.isNull

theorem cell_of_not_current {c : Cursor} (h : c.current = none) (column : Column) :
    c.cell column = .error (.violation .noRecord) := by
  simp [cell, h]

/-- A value that is stored under a column has to be one of the column's type. -/
def checkValue (column : String) (type : ColumnType) (cell : Cell) : Except Error Unit :=
  if cell.isNull then .error (.violation (.nullCell column))
  else if cell.fits type then .ok ()
  else .error (Violation.wrongClass column type cell).raised

/-- The cell of a column that is read as a value of the given type. -/
def read (c : Cursor) (type : ColumnType) (column : Column) : Except Error Cell :=
  if column.type ≠ type then .error (.violation (.readAs column.name column.type type))
  else do
    let cell ← c.cell column
    checkValue column.name type cell
    return cell

end

end Cursor

end TypedPages
