import Mathlib.Data.List.Nodup
import TypedPages.Cursor
import TypedPages.Proofs.Record
import TypedPages.Proofs.Schema

/-!
# What a cursor gives out

Cells are given out under the schema's own columns alone: a column of another schema, with another
name, position or type, finds none. Almost all other requests are refused as violations. Those that
are not are for a position too far before the first column, which no check of the cursor covers, and
those whose refusal would have to show a position or a value that the host cannot write.
-/

namespace TypedPages

namespace Schema

variable {s : Schema} {column : Column}

/-- The record has the cell under the column: the column is one of the schema's own, and the cell
stands at its position. -/
structure CellOf (s : Schema) (column : Column) (record : Record) (cell : Cell) : Prop where
  own : column ∈ s.columns
  stands : ∃ i : Nat, column.index = i ∧ record[i]? = some cell

/-- Positions that count from the end find a column, but none that states such a position. -/
theorem columnAt?_index_iff : s.columnAt? column.index = some column ↔ column ∈ s.columns := by
  constructor
  · intro found
    rw [columnAt?] at found
    split at found
    · exact List.mem_of_getElem? found
    · split at found
      · exact List.mem_of_getElem? found
      · cases found
  · intro own
    obtain ⟨i, f, hf, rfl⟩ := mem_columns_iff.mp own
    exact columnAt?_of_field hf

/-- No column is found behind the last one, nor further before it than there are columns. -/
theorem columnAt?_eq_none_iff {position : Int} : s.columnAt? position = none ↔
    (s.size : Int) ≤ position ∨ position < -(s.size : Int) := by
  rw [columnAt?]
  split
  · rw [List.getElem?_eq_none_iff, length_columns]
    omega
  · split
    · rw [List.getElem?_eq_none_iff, length_columns]
      omega
    · simp only [true_iff]
      omega

end Schema

namespace Cursor

variable {c : Cursor} {column : Column} {record : Record} {cell : Cell} {type : ColumnType}
variable {later : List Record}

theorem width_some (width : record.length = c.schema.size) :
    ∀ current ∈ some record, current.length = c.schema.size := by
  rintro current ⟨⟩
  exact width

/-- The cursor one record further. -/
def moved (c : Cursor) {record : Record} (later : List Record)
    (width : record.length = c.schema.size) : Cursor where
  schema := c.schema
  ahead := later
  advances := c.advances + 1
  current := some record
  width := width_some width

theorem advance_of_width (ahead : c.ahead = record :: later)
    (width : record.length = c.schema.size) : c.advance = (.ok true, c.moved later width) := by
  rw [advance]
  simp [ahead, width, moved]

theorem advance_of_end (ahead : c.ahead = []) : c.advance =
    (.ok false, { c with advances := c.advances + 1, current := none, width := by simp }) := by
  rw [advance]
  simp [ahead]

theorem advance_of_misfit (ahead : c.ahead = record :: later)
    (misfit : record.length ≠ c.schema.size) :
    c.advance = (.error (.violation (.wrongWidth c.advances record.length c.schema.size)),
      { c with ahead := later, advances := c.advances + 1 }) := by
  rw [advance]
  simp [ahead, misfit]

theorem cell_of_field [Host] {f : Field} {i : Nat} (current : c.current = some record)
    (hf : c.schema.fields[i]? = some f) (hcell : record[i]? = some cell) :
    c.cell (.ofField f i) = .ok cell := by
  have inside : ¬ (c.schema.size : Int) ≤ (Column.ofField f i).index := by
    have := Schema.lt_size hf
    rw [Column.index_ofField]
    omega
  simp only [Cursor.cell, current]
  rw [if_neg inside, Column.index_ofField, Schema.columnAt?_of_field hf]
  simp only [if_true, Int.toNat_natCast, hcell]

theorem cell_of_foreign [Host] (current : c.current = some record)
    (foreign : column ∉ c.schema.columns) (near : -(c.schema.size : Int) ≤ column.index) :
    c.cell column = .error (Violation.foreignColumn column).raised := by
  simp only [Cursor.cell, current]
  split
  · rfl
  · rename_i below
    cases found : c.schema.columnAt? column.index with
    | none =>
        rcases Schema.columnAt?_eq_none_iff.mp found with behind | before
        · exact absurd behind below
        · omega
    | some own =>
        have other : own ≠ column := by
          rintro rfl
          exact foreign (Schema.columnAt?_index_iff.mp found)
        exact if_neg other

theorem cell_of_beyond [Host] (current : c.current = some record)
    (beyond : column.index < -(c.schema.size : Int)) :
    c.cell column = .error (.beyondColumns column.index) := by
  have below : ¬ (c.schema.size : Int) ≤ column.index := by omega
  simp only [Cursor.cell, current]
  rw [if_neg below, Schema.columnAt?_eq_none_iff.mpr (.inr beyond)]

/-- Everything that can come of asking for a cell. -/
theorem cell_cases [Host] (c : Cursor) (column : Column) :
    (c.current = none ∧ c.cell column = .error (.violation .noRecord)) ∨
    ∃ record, c.current = some record ∧
      ((∃ cell, c.schema.CellOf column record cell ∧ c.cell column = .ok cell) ∨
       (column ∉ c.schema.columns ∧ -(c.schema.size : Int) ≤ column.index ∧
          c.cell column = .error (Violation.foreignColumn column).raised) ∨
       (column ∉ c.schema.columns ∧ column.index < -(c.schema.size : Int) ∧
          c.cell column = .error (.beyondColumns column.index))) := by
  cases current : c.current with
  | none => exact .inl ⟨rfl, cell_of_not_current current column⟩
  | some record =>
      refine .inr ⟨record, rfl, ?_⟩
      by_cases own : column ∈ c.schema.columns
      · obtain ⟨i, f, hf, rfl⟩ := Schema.mem_columns_iff.mp own
        have inside : i < record.length := by
          rw [c.width record current]
          exact Schema.lt_size hf
        have stands := List.getElem?_eq_getElem inside
        exact .inl ⟨_, ⟨own, i, rfl, stands⟩, cell_of_field current hf stands⟩
      · by_cases near : -(c.schema.size : Int) ≤ column.index
        · exact .inr (.inl ⟨own, near, cell_of_foreign current own near⟩)
        · have beyond : column.index < -(c.schema.size : Int) := by omega
          exact .inr (.inr ⟨own, beyond, cell_of_beyond current beyond⟩)

theorem cell_eq_ok_iff [Host] : c.cell column = .ok cell ↔
    ∃ record, c.current = some record ∧ c.schema.CellOf column record cell := by
  constructor
  · intro found
    rcases cell_cases c column with ⟨-, ends⟩ | ⟨record, current, ⟨cell', under, ends⟩ |
      ⟨-, -, ends⟩ | ⟨-, -, ends⟩⟩
    case inr.inl =>
      rw [ends] at found
      cases found
      exact ⟨record, current, under⟩
    all_goals
      rw [ends] at found
      cases found
  · rintro ⟨record, current, own, i, position, stands⟩
    obtain ⟨j, f, hf, rfl⟩ := Schema.mem_columns_iff.mp own
    obtain rfl : j = i := Int.ofNat_inj.mp position
    exact cell_of_field current hf stands

/-- A value passes if it is one of the type; null is none. -/
theorem checkValue_eq_ok_iff [Host] {name : String} :
    checkValue name type cell = .ok () ↔ cell.fits type = true := by
  rw [checkValue]
  cases cell <;> cases type <;> simp [Cell.isNull, Cell.fits]

theorem checkValue_of_misfit [Host] {name : String} (misfit : cell.suits type = false) :
    checkValue name type cell = .error (Violation.wrongClass name type cell).raised := by
  obtain ⟨value, other⟩ := Bool.or_eq_false_iff.mp misfit
  simp [checkValue, value, other]

/-- A value is refused for a violation, if at all, unless the message cannot show it. -/
theorem checkValue_guarded_iff [Host] {name : String} :
    (∀ e, checkValue name type cell = .error e → ∃ v, e = .violation v) ↔
      cell.suits type = true ∨ cell.obstacle? = none := by
  cases suits : cell.suits type with
  | true =>
      refine iff_of_true ?_ (.inl rfl)
      intro e refused
      rcases Bool.or_eq_true_iff.mp suits with null | fits
      · rw [checkValue, if_pos null] at refused
        cases refused
        exact ⟨_, rfl⟩
      · rw [checkValue_eq_ok_iff.mpr fits] at refused
        cases refused
  | false =>
      rw [checkValue_of_misfit suits, or_iff_right Bool.false_ne_true]
      constructor
      · intro guarded
        obtain ⟨v, raised⟩ := guarded _ rfl
        exact (Error.raised_eq_violation_iff.mp raised).2
      · rintro written e ⟨⟩
        exact ⟨_, Error.raised_of_writable written⟩

theorem isNull_eq_ok_iff [Host] {answer : Bool} : c.isNull column = .ok answer ↔
    ∃ cell, c.cell column = .ok cell ∧ answer = cell.isNull := by
  rw [isNull]
  cases c.cell column <;> simp [Except.map, eq_comm]

theorem read_eq_ok_iff [Host] : c.read type column = .ok cell ↔
    column.type = type ∧ c.cell column = .ok cell ∧ cell.fits type = true := by
  rw [read]
  by_cases own : column.type = type
  · rw [if_neg (not_not_intro own)]
    constructor
    · intro answered
      obtain ⟨cell', found, answered⟩ := bind_eq_ok_iff.mp answered
      obtain ⟨⟨⟩, checked, same⟩ := bind_eq_ok_iff.mp answered
      cases same
      exact ⟨own, found, checkValue_eq_ok_iff.mp checked⟩
    · rintro ⟨-, found, fits⟩
      exact bind_eq_ok_iff.mpr ⟨cell, found,
        bind_eq_ok_iff.mpr ⟨(), checkValue_eq_ok_iff.mpr fits, rfl⟩⟩
  · rw [if_pos own]
    constructor
    · rintro ⟨⟩
    · rintro ⟨same, -⟩
      exact absurd same own

/-- A cell that the cursor has is read if it is a value of its column's type, and else refused for
its class; null is read in no column. -/
theorem read_of_cell [Host] (found : c.cell column = .ok cell) (value : cell.isNull = false) :
    c.read column.type column = if cell.fits column.type then .ok cell
      else .error (Violation.wrongClass column.name column.type cell).raised := by
  rw [read, if_neg (not_not_intro rfl), found]
  change (checkValue column.name column.type cell >>= fun _ => .ok cell) = _
  rw [checkValue, value, if_neg Bool.false_ne_true]
  cases cell.fits column.type <;> rfl

/-- All that succeeds of asking for cells tells of one record. -/
structure Tells [Host] (c : Cursor) (record : Record) : Prop where
  isNull : ∀ column answer, c.isNull column = .ok answer ↔
    ∃ cell, c.schema.CellOf column record cell ∧ answer = cell.isNull
  read : ∀ type column cell, c.read type column = .ok cell ↔
    column.type = type ∧ c.schema.CellOf column record cell ∧ cell.fits type = true

/-- Whoever asks for a cell is refused for a violation. -/
structure Refuses [Host] (c : Cursor) : Prop where
  isNull : ∀ column, ∃ v, c.isNull column = .error (.violation v)
  read : ∀ type column, ∃ v, c.read type column = .error (.violation v)

/-- A cursor that stands on a record tells of it. -/
theorem tells_of_current [Host] (current : c.current = some record) : c.Tells record := by
  have found (column : Column) (cell : Cell) :
      c.cell column = .ok cell ↔ c.schema.CellOf column record cell := by
    rw [cell_eq_ok_iff]
    constructor
    · rintro ⟨_, same, under⟩
      rw [current] at same
      cases same
      exact under
    · intro under
      exact ⟨record, current, under⟩
  constructor
  · intro column answer
    simp only [isNull_eq_ok_iff, found]
  · intro type column cell
    rw [read_eq_ok_iff, found]

/-- A cursor refuses everyone exactly if it stands on no record. -/
theorem refuses_iff [Host] : c.Refuses ↔ c.current = none := by
  constructor
  · intro refuses
    cases current : c.current with
    | none => rfl
    | some record =>
        -- A position too far before the first column is not refused for a violation.
        let beyond : Column := ⟨"", -(c.schema.size : Int) - 1, .long⟩
        obtain ⟨v, refused⟩ := refuses.isNull beyond
        have ends : c.cell beyond = .error (.beyondColumns beyond.index) :=
          cell_of_beyond current (by change -(c.schema.size : Int) - 1 < _; omega)
        rw [isNull, ends] at refused
        cases refused
  · intro off
    constructor
    · intro column
      rw [isNull, cell_of_not_current off]
      exact ⟨_, rfl⟩
    · intro type column
      rw [read, cell_of_not_current off]
      split
      · exact ⟨_, rfl⟩
      · exact ⟨_, rfl⟩

/-- What may come of asking for the cell of a column: something that is told of the cell that the
current record has under this very column, or a violation. -/
def Guarded {α : Type} (c : Cursor) (column : Column) (told : Cell → α) : Except Error α → Prop
  | .ok answer => ∃ record cell, c.current = some record ∧ c.schema.CellOf column record cell ∧
      answer = told cell
  | .error e => ∃ v, e = .violation v

/-- The checks of the cursor cover a column: its position is not further before the first column
than there are columns, and if it is not one of the schema's own, the position can be shown. -/
structure Covers [Host] (c : Cursor) (column : Column) : Prop where
  near : -(c.schema.size : Int) ≤ column.index
  shown : column ∈ c.schema.columns ∨ Host.obstacle? column.index = none

section

variable [Host]

theorem guarded_cell_iff (c : Cursor) (column : Column) : c.Guarded column id (c.cell column) ↔
    c.current = none ∨ c.Covers column := by
  rcases cell_cases c column with ⟨off, ends⟩ | ⟨record, current, ⟨cell, under, ends⟩ |
    ⟨foreign, near, ends⟩ | ⟨-, beyond, ends⟩⟩
  · rw [ends]
    exact iff_of_true ⟨_, rfl⟩ (.inl off)
  · obtain ⟨i, position, -⟩ := under.stands
    rw [ends]
    refine iff_of_true ⟨record, cell, current, under, rfl⟩ (.inr ⟨?_, .inl under.own⟩)
    omega
  · rw [ends, current]
    constructor
    · rintro ⟨v, raised⟩
      exact .inr ⟨near, .inr (Error.raised_eq_violation_iff.mp raised).2⟩
    · rintro (⟨⟨⟩⟩ | covers)
      exact ⟨_, Error.raised_of_writable (covers.shown.resolve_left foreign)⟩
  · rw [ends, current]
    refine iff_of_false ?_ ?_
    · rintro ⟨v, ⟨⟩⟩
    · rintro (⟨⟨⟩⟩ | ⟨near, -⟩)
      omega

theorem guarded_isNull_iff (c : Cursor) (column : Column) :
    c.Guarded column Cell.isNull (c.isNull column) ↔ c.current = none ∨ c.Covers column := by
  rw [← guarded_cell_iff, isNull]
  cases found : c.cell column with
  | error e => exact Iff.rfl
  | ok cell =>
      obtain ⟨record, current, under⟩ := cell_eq_ok_iff.mp found
      exact iff_of_true ⟨record, cell, current, under, rfl⟩ ⟨record, cell, current, under, rfl⟩

/-- A cell is had only of a column that the checks cover. -/
theorem covers_of_cell (found : c.cell column = .ok cell) : c.Covers column := by
  obtain ⟨record, current, under⟩ := cell_eq_ok_iff.mp found
  have guarded : c.Guarded column id (c.cell column) := by
    rw [found]
    exact ⟨record, cell, current, under, rfl⟩
  refine ((guarded_cell_iff c column).mp guarded).resolve_left ?_
  rw [current]
  exact Option.some_ne_none record

/-- Where no cell is had, reading fails as asking for the cell does. -/
theorem read_of_cell_error {e : Error} (failed : c.cell column = .error e) :
    c.read column.type column = .error e := by
  rw [read, if_neg (not_not_intro rfl), failed]
  rfl

/-- Reading a cell that is there is guarded unless the cell is refused and cannot be shown. -/
theorem guarded_read_of_cell (found : c.cell column = .ok cell) :
    c.Guarded column id (c.read column.type column) ↔
      cell.suits column.type = true ∨ cell.obstacle? = none := by
  obtain ⟨record, current, under⟩ := cell_eq_ok_iff.mp found
  have checked : (∀ e, checkValue column.name column.type cell = .error e → ∃ v, e = .violation v) ↔
      cell.suits column.type = true ∨ cell.obstacle? = none := checkValue_guarded_iff
  rw [← checked, read, if_neg (not_not_intro rfl), found]
  change c.Guarded column id (checkValue column.name column.type cell >>= fun _ => .ok cell) ↔ _
  cases checkValue column.name column.type cell with
  | ok => exact iff_of_true ⟨record, cell, current, under, rfl⟩ nofun
  | error e =>
      constructor
      · rintro guarded _ ⟨⟩
        exact guarded
      · intro guarded
        exact guarded e rfl

theorem guarded_read_iff (c : Cursor) (type : ColumnType) (column : Column) :
    c.Guarded column id (c.read type column) ↔
      column.type ≠ type ∨ c.current = none ∨ c.Covers column ∧
        ∀ record cell, c.current = some record → c.schema.CellOf column record cell →
          cell.suits type = true ∨ cell.obstacle? = none := by
  by_cases other : column.type = type
  · subst other
    rw [or_iff_right (not_not_intro rfl)]
    cases found : c.cell column with
    | error e =>
        have asked := guarded_cell_iff c column
        rw [found] at asked
        rw [read_of_cell_error found]
        refine asked.trans (or_congr_right (iff_self_and.mpr ?_))
        intro _ record cell current under
        rw [cell_eq_ok_iff.mpr ⟨record, current, under⟩] at found
        cases found
    | ok cell =>
        obtain ⟨record, current, under⟩ := cell_eq_ok_iff.mp found
        rw [guarded_read_of_cell found]
        constructor
        · intro shown
          refine .inr ⟨covers_of_cell found, ?_⟩
          intro record' cell' current' under'
          have found' := cell_eq_ok_iff.mpr ⟨record', current', under'⟩
          rw [found] at found'
          cases found'
          exact shown
        · rintro (off | ⟨-, shown⟩)
          · rw [current] at off
            cases off
          · exact shown record cell current under
  · rw [read, if_pos other]
    exact iff_of_true ⟨_, rfl⟩ (.inl other)

end

/-- Asking for a cell is guarded for every column that the checks of the cursor cover, and for all
columns while no record is there to be read. Asking for a value is moreover guarded for columns of
another type, but not where the cell is of another class and cannot be shown. What succeeds, tells
of the current record. -/
theorem guarded_iff [Host] (c : Cursor) :
    (∀ column, c.Guarded column Cell.isNull (c.isNull column) ↔
      c.current = none ∨ c.Covers column) ∧
    (∀ type column, c.Guarded column id (c.read type column) ↔
      column.type ≠ type ∨ c.current = none ∨ c.Covers column ∧
        ∀ record cell, c.current = some record → c.schema.CellOf column record cell →
          cell.suits type = true ∨ cell.obstacle? = none) ∧
    ∀ record, c.current = some record → c.Tells record :=
  ⟨c.guarded_isNull_iff, c.guarded_read_iff, fun _ current => tells_of_current current⟩

namespace Sample

def reader : Schema where
  fields := [⟨"code", .long⟩]
  nodup := List.nodup_singleton _

/-- Stands on the only record of its page. -/
def cursor : Cursor := ((ofSchema reader).bind [[.long 1]]).advance.2

end Sample

/-- Not everything is guarded: who asks two places before the only column hears of no violation. -/
theorem not_guarded :
    ¬ ∀ (c : Cursor) (column : Column), c.Guarded column Cell.isNull (c.isNull column) ∧
      ∀ type, c.Guarded column id (c.read type column) := by
  intro guarded
  obtain ⟨asked, -⟩ := guarded Sample.cursor ⟨"code", -2, .long⟩
  have ends : Sample.cursor.isNull ⟨"code", -2, .long⟩ = .error (.beyondColumns (-2)) := rfl
  rw [ends] at asked
  obtain ⟨v, other⟩ := asked
  cases other

end Cursor

end TypedPages
