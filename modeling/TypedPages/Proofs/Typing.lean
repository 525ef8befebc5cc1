import TypedPages.Proofs.Answer
import TypedPages.Proofs.Ledger
import TypedPages.Proofs.Reading

/-!
# Well-formed records

Every record that a writer offers has one cell per column of its schema, and each cell is null or a
value of its own column's type. No use of the writer can break this, however wrong: a value goes
into the row only behind the check of its place and its class, a row starts with nulls, and nothing
but rows goes into a page.
-/

namespace TypedPages

/-- The classes of the values of a type. They are told by name, and not by the check that a writer
makes; a truth value is of another class than a whole number. -/
def ColumnType.classNames : ColumnType → List String
  | .boolean => ["bool"]
  | .long => ["int"]
  | .double => ["float"]
  | .string => ["str"]
  | .timestamp => ["datetime"]
  | .json => ["dict", "list", "str", "int", "float", "bool"]

namespace Cell

/-- The cell is null or of one of the classes of a type. -/
def Belongs (type : ColumnType) (cell : Cell) : Prop :=
  cell = .null ∨ cell.className ∈ type.classNames

theorem fits_iff {type : ColumnType} {cell : Cell} :
    cell.fits type = true ↔ cell.className ∈ type.classNames := by
  cases type <;> cases cell <;> simp [fits, className, ColumnType.classNames]

end Cell

/-- One cell per column, and each belongs to its column. -/
structure Record.WellFormed (schema : Schema) (record : Record) : Prop where
  width : record.length = schema.size
  cells : ∀ (i : Nat) (f : Field) (cell : Cell),
    schema.fields[i]? = some f → record[i]? = some cell → cell.Belongs f.type

namespace Record.WellFormed

variable {schema : Schema} {record : Record}

theorem blankRow (schema : Schema) : (Writer.blankRow schema).WellFormed schema := by
  refine ⟨List.length_replicate, ?_⟩
  intro i f cell _ hcell
  have null : cell = .null := List.eq_of_mem_replicate (List.mem_of_getElem? hcell)
  exact .inl null

theorem set (h : record.WellFormed schema) {i : Nat} {f : Field} {cell : Cell}
    (hf : schema.fields[i]? = some f) (belongs : cell.Belongs f.type) :
    WellFormed schema (record.set i cell) := by
  refine ⟨List.length_set.trans h.width, ?_⟩
  intro j g other hg hother
  by_cases same : i = j
  · subst same
    have inside : i < record.length := by
      rw [h.width]
      exact Schema.lt_size hf
    rw [List.getElem?_set_self inside] at hother
    rw [hf] at hg
    cases hg
    cases hother
    exact belongs
  · rw [List.getElem?_set_ne same] at hother
    exact h.cells j g other hg hother

end Record.WellFormed

namespace Writer

open Workbench (WriterStep stepWriter)

variable {schema : Schema} {sink : Sink} {w : Writer} {index : Int} {column : Column}
variable {type : ColumnType} {cell : Cell}

/-- A position of the row is that of a field. -/
theorem exists_field_of_column [Host] (h : w.column index = .ok column) :
    ∃ (i : Nat) (f : Field), index = i ∧ w.schema.fields[i]? = some f ∧ column = .ofField f i := by
  rw [Writer.column] at h
  split at h
  · cases h
  · split at h
    · cases h
    · rename_i inside
      obtain ⟨i, rfl⟩ : ∃ i : Nat, index = i := Int.eq_ofNat_of_zero_le (by omega)
      rw [Schema.columnAt?_natCast, Schema.getElem?_columns] at h
      cases hf : w.schema.fields[i]? with
      | none =>
          rw [hf] at h
          cases h
      | some f =>
          rw [hf] at h
          cases h
          exact ⟨i, f, rfl, hf, rfl⟩

/-- A value that passes the check is of a class of its column's type. -/
theorem exists_field_of_checkWrite [Host] (h : w.checkWrite type index cell = .ok ()) :
    ∃ (i : Nat) (f : Field), index = i ∧ w.schema.fields[i]? = some f ∧ cell.Belongs f.type := by
  obtain ⟨column, found, checked⟩ := bind_eq_ok_iff.mp h
  obtain ⟨i, f, rfl, hf, rfl⟩ := exists_field_of_column found
  refine ⟨i, f, rfl, hf, .inr (Cell.fits_iff.mp ?_)⟩
  by_cases own : f.type = type
  · have value : Cursor.checkValue f.name type cell = .ok () := by
      simpa [own] using checked
    rw [own]
    exact Cursor.checkValue_eq_ok_iff.mp value
  · simp [own, bind, Except.bind] at checked

/-- A step of a writer, with the cursor and the pool that are there when it is taken. -/
structure Use where
  cursor : Cursor
  pool : BufferPool
  step : WriterStep

/-- Takes steps one after the other, whatever they answer. -/
def used [Host] : Writer → List Use → Writer
  | w, [] => w
  | w, use :: uses => (stepWriter use.cursor use.pool w use.step).2.1.used uses

/-- The writer is one of the schema, and its sink is the given one after some calls. The row, the
records that wait and those of all pages in the calls are well-formed. -/
structure Sound (schema : Schema) (sink : Sink) (w : Writer) : Prop where
  schema_eq : w.schema = schema
  row : w.row.WellFormed schema
  pending : ∀ record ∈ w.pending, record.WellFormed schema
  told : ∃ calls, w.sink = sink.hearing calls ∧
    ∀ page ∈ SinkCall.pages calls, ∀ record ∈ page, record.WellFormed schema

theorem sound_ofPool (pool : BufferPool) (schema : Schema) (sink : Sink) :
    (ofPool pool schema sink).1.Sound schema sink :=
  ⟨rfl, .blankRow schema, by simp [ofPool, Writer.pending],
    [], (Sink.hearing_nil sink).symm, by simp⟩

namespace Sound

variable (h : w.Sound schema sink)
include h

/-- Soundness depends on the row, on what waits and on what is told. Calls may hand on what waited
before. -/
theorem of_calls {w' : Writer} {calls : List SinkCall} (schema_eq : w'.schema = w.schema)
    (row : w'.row = w.row) (pending : w'.pending ⊆ w.pending)
    (told : w'.sink = w.sink.hearing calls) (offered : ∀ page ∈ SinkCall.pages calls,
      page ⊆ w.pending) : w'.Sound schema sink := by
  obtain ⟨early, sinkAfter, formed⟩ := h.told
  refine ⟨schema_eq.trans h.schema_eq, row ▸ h.row, ?_, early ++ calls, ?_, ?_⟩
  · intro record member
    exact h.pending record (pending member)
  · rw [told, sinkAfter]
    exact Sink.hearing_hearing sink early calls
  · intro page member record hrecord
    rw [SinkCall.pages_append] at member
    rcases List.mem_append.mp member with before | now
    · exact formed page before record hrecord
    · exact h.pending record (offered page now hrecord)

theorem place {i : Nat} {f : Field} (hf : w.schema.fields[i]? = some f)
    (belongs : cell.Belongs f.type) : (w.place i cell).Sound schema sink := by
  rw [h.schema_eq] at hf
  exact ⟨h.schema_eq, h.row.set hf belongs, h.pending, h.told⟩

theorem write [Host] (type : ColumnType) (index : Int) (cell : Cell) :
    (w.write type index cell).2.Sound schema sink := by
  rw [Writer.write]
  cases check : w.checkWrite type index cell with
  | error e => exact h
  | ok =>
      obtain ⟨i, f, rfl, hf, belongs⟩ := exists_field_of_checkWrite check
      exact h.place hf belongs

theorem writeNull [Host] (index : Int) : (w.writeNull index).2.Sound schema sink := by
  rw [Writer.writeNull]
  cases found : w.column index with
  | error e => exact h
  | ok column =>
      obtain ⟨i, f, rfl, hf, -⟩ := exists_field_of_column found
      exact h.place hf (.inl rfl)

/-- Whatever the cursor holds, what is copied is checked by the writer. -/
theorem copy [Host] (cursor : Cursor) (column : Column) (index : Int) :
    (w.copy cursor column index).2.Sound schema sink := by
  rw [Writer.copy]
  split
  · exact h
  · exact h.writeNull index
  · split
    · exact h
    · exact h.write column.type index _

theorem pushed {b : Buffer} (buffer : w.buffer = some b) : (w.pushed b).Sound schema sink := by
  refine ⟨h.schema_eq, ?_, ?_, h.told⟩
  · change (blankRow w.schema).WellFormed schema
    rw [h.schema_eq]
    exact .blankRow schema
  · intro record member
    rcases List.mem_append.mp member with waiting | last
    · refine h.pending record ?_
      rw [pending_of_buffer buffer]
      exact waiting
    · rw [List.mem_singleton.mp last]
      exact h.row

theorem flush : w.flush.2.Sound schema sink := by
  cases buffer : w.buffer with
  | none =>
      rw [Writer.flush, buffer]
      exact h
  | some b =>
      by_cases empty : b.records = []
      · have nothing : w.buffer = some ⟨b.id, []⟩ := by rw [buffer, ← empty]
        rw [flush_of_empty nothing]
        exact h
      · obtain ⟨⟨n, after⟩, -⟩ := flush_of_waiting buffer empty
        rw [after]
        refine h.of_calls rfl rfl ?_ rfl ?_
        · exact List.nil_subset _
        · intro page member
          rw [pending_of_buffer buffer, List.mem_singleton.mp member]
          exact List.Subset.refl _

theorem sealRow : w.sealRow.2.Sound schema sink := by
  cases buffer : w.buffer with
  | none =>
      rw [Writer.sealRow, buffer]
      exact h
  | some b =>
      have next := h.pushed buffer
      rw [sealRow_of_open buffer]
      split
      · exact next.flush
      · exact next

/-- A call that hands over no page leaves everything as it was. -/
theorem tell (call : SinkCall) (pageless : call.page? = none) :
    (w.tell call).2.Sound schema sink := by
  rw [(w.tell_spec call).1]
  refine h.of_calls rfl rfl (List.Subset.refl _) rfl ?_
  intro page member
  simp [SinkCall.pages, pageless] at member

theorem finish : w.finish.2.Sound schema sink := by
  rw [Writer.finish]
  split
  · exact h
  · have flushed := h.flush
    split <;> rename_i result <;> rw [result] at flushed
    · exact flushed.tell .finish rfl
    · exact flushed

/-- Closing loses what waits. -/
theorem close (pool : BufferPool) : (w.close pool).2.1.Sound schema sink := by
  cases buffer : w.buffer with
  | none =>
      rw [Writer.close, buffer]
      exact h
  | some b =>
      have silent : w.sink = w.sink.hearing [] := (Sink.hearing_nil w.sink).symm
      have without : { w with buffer := none }.Sound schema sink :=
        h.of_calls rfl rfl (List.nil_subset _) silent (by simp)
      have closed := without.tell .close rfl
      rw [Writer.close, buffer]
      simp only
      split <;> rename_i told <;> rw [told] at closed <;> exact closed

/-- Every step keeps a writer sound, the closing one included. -/
theorem turn [Host] (cursor : Cursor) (pool : BufferPool) (own : WriterStep) :
    (stepWriter cursor pool w own).2.1.Sound schema sink := by
  cases own with
  | write type index cell => exact h.write type index cell
  | writeNull index => exact h.writeNull index
  | copy column index => exact h.copy cursor column index
  | sealRow => exact h.sealRow
  | flush => exact h.flush
  | finish => exact h.finish
  | close => exact h.close pool

/-- However a writer is used, it stays sound. -/
theorem used [Host] (uses : List Use) : (w.used uses).Sound schema sink := by
  induction uses generalizing w with
  | nil => exact h
  | cons use uses ih => exact ih (h.turn use.cursor use.pool use.step)

end Sound

/-- However a writer is used, with whatever cursors, and whether its sink takes or refuses what it
is offered: all records that it offers are well-formed for the writer's schema. -/
theorem offered_wellFormed [Host] (pool : BufferPool) (schema : Schema) (sink : Sink)
    (uses : List Use) :
    ∃ calls, ((ofPool pool schema sink).1.used uses).sink.calls = sink.calls ++ calls ∧
      ∀ page ∈ SinkCall.pages calls, ∀ record ∈ page, record.WellFormed schema := by
  have sound := (sound_ofPool pool schema sink).used uses
  obtain ⟨calls, sinkAfter, formed⟩ := sound.told
  refine ⟨calls, ?_, formed⟩
  rw [sinkAfter]
  rfl

end Writer

end TypedPages
