import TypedPages.Proofs.Replies
import TypedPages.Proofs.Turns
import TypedPages.Proofs.Writer

/-!
# The ledger of a writer

Every record that a writer has sealed is in one place: in its buffer, or in one page that was
offered to the sink. It is offered once and in its turn, whether the sink takes the page or not,
and every refusal is the answer to the operation that offered the page.
-/

namespace TypedPages

namespace Writer

open Workbench (WriterStep Turn stepWriter)

variable {sink : Sink} {size : Nat} {sealed : List Record} {failures : List Failure}
variable {w : Writer} {id : BufferId} {records : List Record} {row : Record}

/-- The writer is open, has sealed the records, and its sink has refused calls with the failures.
The sink is the given one after some calls; what it was not offered waits. -/
structure Accounts (sink : Sink) (size : Nat) (sealed : List Record) (failures : List Failure)
    (w : Writer) : Prop where
  pageSize : w.pageSize = size
  buffer : ∃ id records, w.buffer = some ⟨id, records⟩
  told : ∃ calls, w.sink = sink.hearing calls ∧
    (SinkCall.pages calls).flatten ++ w.pending = sealed ∧
    (∀ page ∈ SinkCall.pages calls, 1 ≤ page.length ∧ page.length ≤ size) ∧
    sink.refusals calls = failures

theorem pending_of_buffer (buffer : w.buffer = some ⟨id, records⟩) : w.pending = records := by
  rw [pending, buffer]
  rfl

theorem isClosed_of_buffer {b : Buffer} (buffer : w.buffer = some b) : w.isClosed = false := by
  rw [isClosed, buffer]
  rfl

theorem exists_buffer (isOpen : w.isClosed = false) : ∃ b, w.buffer = some b :=
  Option.isSome_iff_exists.mp (Option.isNone_eq_false_iff.mp isOpen)

theorem accounts_ofPool (pool : BufferPool) (schema : Schema) (sink : Sink) :
    (ofPool pool schema sink).1.Accounts sink pool.pageSize [] [] :=
  ⟨rfl, ⟨_, _, rfl⟩, [], (Sink.hearing_nil sink).symm, rfl, by simp, rfl⟩

/-- A call of the sink is answered by the refusal of the sink alone. -/
theorem tell_spec (w : Writer) (call : SinkCall) :
    (w.tell call).2 = { w with sink := w.sink.hearing [call] } ∧
      passedOn? (w.tell call).1 = w.sink.refuses (w.sink.calls ++ [call]) := by
  refine ⟨rfl, ?_⟩
  rw [tell_eq, Sink.tell]
  cases w.sink.refuses (w.sink.calls ++ [call]) <;> rfl

/-- Waiting records are offered as one page, and then none wait, whatever the sink answers. -/
theorem flush_of_waiting (buffer : w.buffer = some ⟨id, records⟩) (waiting : records ≠ []) :
    (∃ n, w.flush.2 = { w with
      sink := w.sink.hearing [.add records], buffer := some ⟨id, []⟩, pagesTaken := n }) ∧
    passedOn? w.flush.1 = w.sink.refuses (w.sink.calls ++ [.add records]) := by
  cases refusal : w.sink.refuses (w.sink.calls ++ [.add records]) with
  | none =>
      rw [flush_of_taken buffer waiting (Sink.tell_of_taken refusal)]
      exact ⟨⟨_, rfl⟩, rfl⟩
  | some failure =>
      rw [flush_of_refused buffer waiting (Sink.tell_of_refused refusal)]
      exact ⟨⟨_, rfl⟩, rfl⟩

/-- The writer after its row went into the buffer. -/
def pushed (w : Writer) (b : Buffer) : Writer :=
  { w with
    buffer := some (b.push w.row), row := blankRow w.schema, sealedRecords := w.sealedRecords + 1 }

theorem sealRow_of_open {b : Buffer} (buffer : w.buffer = some b) :
    w.sealRow = if w.pageSize ≤ b.records.length + 1 then (w.pushed b).flush
      else (.ok (), w.pushed b) := by
  rw [sealRow, buffer]
  simp [pushed]

/-- Sealing offers nothing, or one page of exactly the page size. -/
theorem sealRow_offers {b : Buffer} (buffer : w.buffer = some b)
    (short : b.records.length < w.pageSize) :
    ∃ calls, w.sealRow.2.sink = w.sink.hearing calls ∧
      ∀ call ∈ calls, ∃ page, call = .add page ∧ page.length = w.pageSize := by
  rw [sealRow_of_open buffer]
  split
  · rename_i full
    obtain ⟨⟨n, after⟩, -⟩ := flush_of_waiting (w := w.pushed b) rfl (by simp)
    refine ⟨[.add (b.records ++ [w.row])], by rw [after]; rfl, ?_⟩
    intro call member
    refine ⟨_, List.mem_singleton.mp member, ?_⟩
    rw [List.length_append, List.length_singleton]
    omega
  · exact ⟨[], (Sink.hearing_nil _).symm, by simp⟩

/-! ## Steps that concern the row alone -/

theorem passedOn?_bind {α β : Type} {answer : Except Error α} {next : α → Except Error β}
    (h : passedOn? answer = none) (later : ∀ a, passedOn? (next a) = none) :
    passedOn? (answer >>= next) = none := by
  cases answer with
  | error e => exact h
  | ok a => exact later a

theorem passedOn?_column [Host] (w : Writer) (index : Int) : passedOn? (w.column index) = none := by
  rw [column]
  repeat' split
  all_goals first | rfl | exact passedOn?_raised _

theorem passedOn?_checkValue [Host] (column : String) (type : ColumnType) (cell : Cell) :
    passedOn? (Cursor.checkValue column type cell) = none := by
  rw [Cursor.checkValue]
  repeat' split
  all_goals first | rfl | exact passedOn?_raised _

theorem passedOn?_cell [Host] (cursor : Cursor) (column : Column) :
    passedOn? (cursor.cell column) = none := by
  rw [Cursor.cell]
  repeat' split
  all_goals first | rfl | exact passedOn?_raised _

theorem passedOn?_read [Host] (cursor : Cursor) (type : ColumnType) (column : Column) :
    passedOn? (cursor.read type column) = none := by
  rw [Cursor.read]
  split
  · rfl
  · refine passedOn?_bind (passedOn?_cell cursor column) ?_
    intro cell
    exact passedOn?_bind (passedOn?_checkValue column.name type cell) fun _ => rfl

theorem passedOn?_checkWrite [Host] (w : Writer) (type : ColumnType) (index : Int) (cell : Cell) :
    passedOn? (w.checkWrite type index cell) = none := by
  refine passedOn?_bind (passedOn?_column w index) ?_
  intro column
  split
  · rfl
  · exact passedOn?_checkValue column.name type cell

/-- At most the row changes, and the sink has nothing to do with the answer. -/
def TouchesRow (w : Writer) (result : Except Error Unit × Writer) : Prop :=
  (∃ row, result.2 = { w with row }) ∧ passedOn? result.1 = none

theorem touchesRow_write [Host] (w : Writer) (type : ColumnType) (index : Int) (cell : Cell) :
    w.TouchesRow (w.write type index cell) := by
  have own := passedOn?_checkWrite w type index cell
  rw [write]
  cases check : w.checkWrite type index cell with
  | ok => exact ⟨⟨_, rfl⟩, rfl⟩
  | error e => exact ⟨⟨w.row, rfl⟩, by rwa [check] at own⟩

theorem touchesRow_writeNull [Host] (w : Writer) (index : Int) :
    w.TouchesRow (w.writeNull index) := by
  have own := passedOn?_column w index
  rw [writeNull]
  cases found : w.column index with
  | ok => exact ⟨⟨_, rfl⟩, rfl⟩
  | error e => exact ⟨⟨w.row, rfl⟩, by rwa [found] at own⟩

theorem touchesRow_copy [Host] (w : Writer) (cursor : Cursor) (column : Column) (index : Int) :
    w.TouchesRow (w.copy cursor column index) := by
  have own := passedOn?_cell cursor column
  have ownRead := passedOn?_read cursor column.type column
  rw [copy, Cursor.isNull]
  cases found : cursor.cell column with
  | error e => exact ⟨⟨w.row, rfl⟩, by rwa [found] at own⟩
  | ok cell =>
      simp only [Except.map]
      cases cell.isNull with
      | true => exact touchesRow_writeNull w index
      | false =>
          cases read : cursor.read column.type column with
          | error e => exact ⟨⟨w.row, rfl⟩, by rwa [read] at ownRead⟩
          | ok value => exact touchesRow_write w column.type index value

namespace Accounts

section

variable (h : w.Accounts sink size sealed failures)
include h

/-- The row is nobody's account. -/
theorem of_row (row : Record) : { w with row }.Accounts sink size sealed failures :=
  ⟨h.pageSize, h.buffer, h.told⟩

theorem pushed {b : Buffer} (buffer : w.buffer = some b) :
    (w.pushed b).Accounts sink size (sealed ++ [w.row]) failures := by
  obtain ⟨pageSize, -, calls, sinkAfter, split, bounds, refused⟩ := h
  refine ⟨pageSize, ⟨_, _, rfl⟩, calls, sinkAfter, ?_, bounds, refused⟩
  rw [pending_of_buffer buffer] at split
  rw [← split, List.append_assoc]
  rfl

/-- A flush that a page can hold leaves nothing behind, and its failure is entered. -/
theorem flush (fits : w.pending.length ≤ size) :
    w.flush.2.Accounts sink size sealed (failures ++ (passedOn? w.flush.1).toList) ∧
      w.flush.2.pending = [] := by
  obtain ⟨pageSize, ⟨id, records, buffer⟩, calls, sinkAfter, split, bounds, refused⟩ := h
  have waits := pending_of_buffer buffer
  rw [waits] at split fits
  by_cases empty : records = []
  · subst empty
    rw [flush_of_empty buffer]
    refine ⟨⟨pageSize, ⟨id, [], buffer⟩, calls, sinkAfter, by rwa [waits], bounds, ?_⟩, waits⟩
    rw [refused]
    exact (List.append_nil failures).symm
  · obtain ⟨⟨n, after⟩, answer⟩ := flush_of_waiting buffer empty
    rw [after, answer]
    refine ⟨⟨pageSize, ⟨id, [], rfl⟩, calls ++ [.add records], ?_, ?_, ?_, ?_⟩, rfl⟩
    · rw [sinkAfter]
      exact Sink.hearing_hearing sink calls [.add records]
    · rw [← split, SinkCall.pages_append, List.flatten_append]
      simp [SinkCall.pages, SinkCall.page?, pending]
    · rw [SinkCall.pages_append]
      intro page member
      rcases List.mem_append.mp member with early | last
      · exact bounds page early
      · obtain rfl : page = records := List.mem_singleton.mp last
        exact ⟨List.length_pos_iff.mpr empty, fits⟩
    · rw [Sink.refusals_concat, refused, sinkAfter]

theorem finish (short : w.pending.length < size) :
    w.finish.2.Accounts sink size sealed (failures ++ (passedOn? w.finish.1).toList) ∧
      w.finish.2.pending = [] := by
  obtain ⟨id, records, buffer⟩ := h.buffer
  have isOpen : ¬ w.isClosed = true := by simp [isClosed, buffer]
  obtain ⟨flushed, nothing⟩ := h.flush (Nat.le_of_lt short)
  rw [Writer.finish, if_neg isOpen]
  cases result : w.flush with
  | mk answered w' =>
      rw [result] at flushed nothing
      cases answered with
      | error e => exact ⟨flushed, nothing⟩
      | ok =>
          obtain ⟨after, answer⟩ := w'.tell_spec .finish
          obtain ⟨pageSize, buffer', calls, sinkAfter, split, bounds, refused⟩ := flushed
          simp only [after, answer]
          refine ⟨⟨pageSize, buffer', calls ++ [.finish], ?_, ?_, ?_, ?_⟩, nothing⟩
          · rw [sinkAfter]
            exact Sink.hearing_hearing sink calls [.finish]
          · rw [SinkCall.pages_append, ← split]
            simp [SinkCall.pages, SinkCall.page?, pending]
          · simpa [SinkCall.pages, SinkCall.page?] using bounds
          · rw [Sink.refusals_concat, refused, sinkAfter]
            exact congrArg (· ++ _) (List.append_nil failures)

/-- The row that is sealed joins the sealed records, also if its page is then refused. -/
theorem sealRow (short : w.pending.length < size) :
    w.sealRow.2.Accounts sink size (sealed ++ [w.row])
        (failures ++ (passedOn? w.sealRow.1).toList) ∧
      w.sealRow.2.pending.length < size := by
  obtain ⟨id, records, buffer⟩ := h.buffer
  have after := h.pushed buffer
  have waits : (w.pushed ⟨id, records⟩).pending = records ++ [w.row] := rfl
  rw [pending_of_buffer buffer] at short
  rw [sealRow_of_open buffer, h.pageSize]
  split
  · have fits : (w.pushed ⟨id, records⟩).pending.length ≤ size := by
      rw [waits, List.length_append, List.length_singleton]
      exact short
    obtain ⟨flushed, nothing⟩ := after.flush fits
    exact ⟨flushed, by rw [nothing]; exact Nat.zero_lt_of_lt short⟩
  · rename_i room
    refine ⟨by simpa [passedOn?] using after, ?_⟩
    rw [waits, List.length_append, List.length_singleton]
    exact Nat.lt_of_not_le room

end

end Accounts

end Writer

end TypedPages
