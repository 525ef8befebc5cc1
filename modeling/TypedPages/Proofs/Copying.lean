import TypedPages.Proofs.Row
import TypedPages.Proofs.Typing

/-!
# Copying a cell

A copy asks twice, the cursor for the cell and the writer for the place, and each of them checks the
column once more for itself. Together the checks come to one condition. If it holds, the cell is put
into the row; if it does not, nothing is, because no check comes after the cell was stored.
-/

namespace TypedPages

namespace Writer

variable {w : Writer} {cursor : Cursor} {column own : Column} {index : Int} {cell : Cell}
variable {type : ColumnType}

/-- The cursor's record has the cell under the column, and the writer is open and has a place for
it at the position: any place for a null, and for a value of the column's type a place of the same
type. -/
structure TakesCopy (w : Writer) (cursor : Cursor) (column : Column) (index : Int) (cell : Cell) :
    Prop where
  isOpen : w.isClosed = false
  read : ∃ record, cursor.current = some record ∧ cursor.schema.CellOf column record cell
  place : ∃ (i : Nat) (own : Field), index = i ∧ w.schema.fields[i]? = some own ∧
    (cell = .null ∨ cell.className ∈ column.type.classNames ∧ own.type = column.type)

theorem isClosed_of_column [Host] (h : w.column index = .ok own) : w.isClosed = false := by
  rw [Writer.column] at h
  split at h
  · cases h
  · rename_i isOpen
    exact Bool.eq_false_iff.mpr isOpen

/-- The positions that an open writer has are those of its fields. -/
theorem column_eq_ok_iff [Host] : w.column index = .ok own ↔ w.isClosed = false ∧
    ∃ (i : Nat) (f : Field), index = i ∧ w.schema.fields[i]? = some f ∧ own = .ofField f i := by
  constructor
  · intro found
    exact ⟨isClosed_of_column found, exists_field_of_column found⟩
  · rintro ⟨isOpen, i, f, rfl, hf, rfl⟩
    obtain ⟨b, buffer⟩ := exists_buffer isOpen
    exact column_of_field buffer hf

theorem checkWrite_eq_ok_iff [Host] : w.checkWrite type index cell = .ok () ↔
    ∃ own, w.column index = .ok own ∧ own.type = type ∧ cell.fits type = true := by
  rw [checkWrite, bind_eq_ok_iff]
  refine exists_congr fun own => and_congr_right fun _ => ?_
  by_cases same : own.type = type
  · rw [if_neg (not_not_intro same), and_iff_right same]
    exact Cursor.checkValue_eq_ok_iff
  · rw [if_pos same]
    apply iff_of_false
    · rintro ⟨⟩
    · intro fits
      exact same fits.1

/-- What the writer asks of a null. -/
theorem takesCopy_null_iff [Host] (found : cursor.cell column = .ok .null) :
    w.TakesCopy cursor column index .null ↔ ∃ own, w.column index = .ok own := by
  constructor
  · rintro ⟨isOpen, -, i, f, position, hf, -⟩
    exact ⟨_, column_eq_ok_iff.mpr ⟨isOpen, i, f, position, hf, rfl⟩⟩
  · rintro ⟨own, place⟩
    obtain ⟨isOpen, i, f, position, hf, -⟩ := column_eq_ok_iff.mp place
    exact ⟨isOpen, Cursor.cell_eq_ok_iff.mp found, i, f, position, hf, .inl rfl⟩

/-- What the cursor and the writer ask of a value. -/
theorem takesCopy_value_iff [Host] (found : cursor.cell column = .ok cell)
    (value : cell.isNull = false) :
    w.TakesCopy cursor column index cell ↔
      cell.fits column.type = true ∧ w.checkWrite column.type index cell = .ok () := by
  constructor
  · rintro ⟨isOpen, -, i, f, position, hf, null | ⟨belongs, same⟩⟩
    · rw [null] at value
      cases value
    · have fits : cell.fits column.type = true := Cell.fits_iff.mpr belongs
      have place := column_eq_ok_iff.mpr ⟨isOpen, i, f, position, hf, rfl⟩
      exact ⟨fits, checkWrite_eq_ok_iff.mpr ⟨_, place, same, fits⟩⟩
  · rintro ⟨fits, checked⟩
    obtain ⟨own, place, same, -⟩ := checkWrite_eq_ok_iff.mp checked
    obtain ⟨isOpen, i, f, position, hf, rfl⟩ := column_eq_ok_iff.mp place
    exact ⟨isOpen, Cursor.cell_eq_ok_iff.mp found, i, f, position, hf,
      .inr ⟨Cell.fits_iff.mp fits, same⟩⟩

theorem TakesCopy.cell_eq [Host] (h : w.TakesCopy cursor column index cell) :
    cursor.cell column = .ok cell :=
  Cursor.cell_eq_ok_iff.mpr h.read

/-- Everything that can come of copying a cell that the cursor has. -/
theorem copy_cases_of_cell [Host] (w : Writer) (index : Int)
    (found : cursor.cell column = .ok cell) :
    (w.TakesCopy cursor column index cell ∧
      w.copy cursor column index = (.ok (), w.place index cell)) ∨
    (¬ w.TakesCopy cursor column index cell ∧
      ∃ e, w.copy cursor column index = (.error e, w)) := by
  have asked : cursor.isNull column = .ok cell.isNull :=
    Cursor.isNull_eq_ok_iff.mpr ⟨cell, found, rfl⟩
  rw [copy, asked]
  cases value : cell.isNull with
  | true =>
      obtain rfl : cell = .null := by
        cases cell <;> first | rfl | cases value
      rw [takesCopy_null_iff found]
      simp only [writeNull]
      cases place : w.column index with
      | ok own => exact .inl ⟨⟨own, rfl⟩, rfl⟩
      | error e =>
          refine .inr ⟨?_, e, rfl⟩
          rintro ⟨own, ⟨⟩⟩
  | false =>
      rw [takesCopy_value_iff found value]
      simp only
      cases read : cursor.read column.type column with
      | error e =>
          refine .inr ⟨fun passed => ?_, e, rfl⟩
          have answered := Cursor.read_eq_ok_iff.mpr ⟨rfl, found, passed.1⟩
          rw [read] at answered
          cases answered
      | ok cell' =>
          obtain ⟨-, same, fits⟩ := Cursor.read_eq_ok_iff.mp read
          rw [found] at same
          cases same
          simp only [write]
          cases checked : w.checkWrite column.type index cell with
          | ok => exact .inl ⟨⟨fits, rfl⟩, rfl⟩
          | error e =>
              refine .inr ⟨?_, e, rfl⟩
              rintro ⟨-, ⟨⟩⟩

/-- Everything that can come of a copy: the cell is stored, or nothing has changed. -/
theorem copy_cases [Host] (w : Writer) (cursor : Cursor) (column : Column) (index : Int) :
    (∃ cell, w.TakesCopy cursor column index cell ∧
      w.copy cursor column index = (.ok (), w.place index cell)) ∨
    ((∀ cell, ¬ w.TakesCopy cursor column index cell) ∧
      ∃ e, w.copy cursor column index = (.error e, w)) := by
  cases found : cursor.cell column with
  | error e =>
      have missing (cell : Cell) : ¬ w.TakesCopy cursor column index cell := by
        intro taken
        have other := taken.cell_eq
        rw [found] at other
        cases other
      refine .inr ⟨missing, e, ?_⟩
      rw [copy, Cursor.isNull, found]
      rfl
  | ok cell =>
      rcases w.copy_cases_of_cell index found with
        ⟨taken, stored⟩ | ⟨refused, unchanged⟩
      · exact .inl ⟨cell, taken, stored⟩
      · refine .inr ⟨fun other taken => ?_, unchanged⟩
        have same := taken.cell_eq
        rw [found] at same
        cases same
        exact refused taken

/-- Storing a cell concerns its place in the row alone. -/
theorem TakesCopy.row_place (h : w.TakesCopy cursor column index cell)
    (width : w.row.length = w.schema.size) :
    (w.place index cell).row.length = w.row.length ∧
    (w.place index cell).row[index.toNat]? = some cell ∧
    ∀ j : Nat, (j : Int) ≠ index → (w.place index cell).row[j]? = w.row[j]? := by
  obtain ⟨-, -, i, f, rfl, hf, -⟩ := h
  have inside : i < w.row.length := by
    rw [width]
    exact Schema.lt_size hf
  refine ⟨List.length_set, List.getElem?_set_self inside, ?_⟩
  intro j other
  apply List.getElem?_set_ne
  show i ≠ j
  omega

end Writer

namespace Workbench

/-- A copy is exact, and it is done as a whole or not at all. Take any cursor and any writer that
was used in whatever way. The copy succeeds exactly if the writer takes a cell of the cursor; then
the row has this very cell at the position and is otherwise as it was. If the copy fails, everything
is as it was. In both cases nothing but the row is concerned: not the cursor, not the pool, and of
the writer neither the buffer nor the sink nor the counters. -/
theorem step_copy_iff [Host] {bench : Workbench} {number : Nat} {pool : BufferPool}
    {schema : Schema} {sink : Sink} {uses : List Writer.Use}
    (found : bench.writers[number]? = some ((Writer.ofPool pool schema sink).1.used uses))
    (column : Column) (index : Int) :
    let w := (Writer.ofPool pool schema sink).1.used uses
    let copied := bench.step (.writer number (.copy column index))
    (copied.1 = .ok .done ↔ ∃ cell, w.TakesCopy bench.cursor column index cell) ∧
    (∀ cell, w.TakesCopy bench.cursor column index cell → ∃ row : Record,
      copied.2 = { bench with writers := bench.writers.set number { w with row } } ∧
      row.length = w.row.length ∧ row[index.toNat]? = some cell ∧
      ∀ j : Nat, (j : Int) ≠ index → row[j]? = w.row[j]?) ∧
    ∀ e, copied.1 = .error e → copied.2 = bench := by
  intro w copied
  have sound := (Writer.sound_ofPool pool schema sink).used uses
  have width : w.row.length = w.schema.size := by
    rw [sound.row.width, sound.schema_eq]
  have turn : copied = ((w.copy bench.cursor column index).1.map fun _ => .done,
      { bench with writers := bench.writers.set number (w.copy bench.cursor column index).2 }) :=
    step_own found (.copy column index)
  rcases w.copy_cases bench.cursor column index with ⟨cell, taken, stored⟩ | ⟨refused, e, failed⟩
  · rw [turn, stored]
    refine ⟨iff_of_true rfl ⟨cell, taken⟩, ?_, nofun⟩
    intro other also
    obtain rfl : cell = other := Except.ok.inj (taken.cell_eq.symm.trans also.cell_eq)
    exact ⟨_, rfl, taken.row_place width⟩
  · rw [turn, failed, set_own found]
    refine ⟨iff_of_false nofun (not_exists.mpr refused), ?_, fun _ _ => rfl⟩
    intro cell taken
    exact absurd taken (refused cell)

namespace Sample

/-- A pool of pages of two records, of which the writer takes a buffer. -/
def shelf : BufferPool := .fresh 0 2 Nat.two_pos

/-- A cursor on a record that has a number and a null. -/
def standing : Cursor :=
  ((Cursor.ofSchema ⟨[⟨"serial", .long⟩, ⟨"note", .string⟩], by decide⟩).bind
    [[.long 1, .null]]).advance.2

def target : Schema := ⟨[⟨"count", .long⟩, ⟨"label", .string⟩], by decide⟩

/-- Both places of the row are filled. -/
def filling : List Writer.Use :=
  [⟨standing, shelf, .write .long 0 (.long 7)⟩, ⟨standing, shelf, .write .string 1 (.string "a")⟩]

def filled : Workbench :=
  ⟨standing, shelf.allocate.2,
    [(Writer.ofPool shelf target (.fresh fun _ => none)).1.used filling]⟩

end Sample

/-- The null goes into a column of another type than its own, the number does not. -/
theorem sample_step_copy :
    (∃ row : Record,
      (Sample.filled.step (.writer 0 (.copy ⟨"note", 1, .string⟩ 0))).2.writers.map Writer.row =
        [row] ∧ row[0]? = some .null ∧ row[1]? = some (.string "a")) ∧
    (Sample.filled.step (.writer 0 (.copy ⟨"serial", 0, .long⟩ 1))).2 = Sample.filled := by
  have found : Sample.filled.writers[0]? = some ((Writer.ofPool Sample.shelf Sample.target
      (.fresh fun _ => none)).1.used Sample.filling) := rfl
  constructor
  · obtain ⟨-, stores, -⟩ := step_copy_iff found ⟨"note", 1, .string⟩ 0
    obtain ⟨row, changed, -, stored, others⟩ := stores .null
      ⟨rfl, ⟨_, rfl, List.mem_of_getElem? (i := 1) rfl, 1, rfl, rfl⟩, 0, _, rfl, rfl, .inl rfl⟩
    refine ⟨row, ?_, stored, others 1 (by decide)⟩
    rw [changed]
    rfl
  · obtain ⟨-, -, unchanged⟩ := step_copy_iff found ⟨"serial", 0, .long⟩ 1
    exact unchanged _ rfl

end Workbench

end TypedPages
