import Mathlib.Data.List.Basic
import TypedPages.Proofs.Buffering
import TypedPages.Proofs.Copying

/-!
# What is written into a row

What a caller has done to an open writer, and which of it succeeded, determines all records that the
writer has sealed and the row that it is at. The sealing steps cut the course of steps into rows. In
each row the last write to a place wins that succeeded, and a place without one is null. It makes no
difference whether the sink took what was sealed, and what failed has left no trace in the row.
-/

namespace TypedPages

namespace Writer

open Workbench (WriterStep Turn stepWriter)

/-- A use of a writer and what it answered. -/
structure Deed where
  use : Use
  answer : Except Error Unit

namespace Deed

/-- Whether the row ends here. The sink may have refused the page that this made full. -/
def seals (d : Deed) : Bool :=
  match d.use.step with
  | .sealRow => true
  | _ => false

/-- What a step that succeeds writes, and where: the value or the null that it is given, or the cell
that its cursor has under the column. -/
def written? [Host] (d : Deed) : Option (Int × Cell) :=
  match d.use.step, d.answer with
  | .write _ index cell, .ok () => some (index, cell)
  | .writeNull index, .ok () => some (index, .null)
  | .copy column index, .ok () => (d.use.cursor.cell column).toOption.map (index, ·)
  | _, _ => none

/-- What is written to a place of the row. -/
def cellAt? [Host] (d : Deed) (place : Nat) : Option Cell :=
  match d.written? with
  | some (index, cell) => if index = place then some cell else none
  | none => none

/-- What is written to a place last. -/
def lastAt? [Host] (deeds : List Deed) (place : Nat) : Option Cell :=
  deeds.reverse.findSome? (·.cellAt? place)

/-- The record that is written by the deeds of one row. -/
def record [Host] (schema : Schema) (deeds : List Deed) : Record :=
  (List.range schema.size).map fun place => (lastAt? deeds place).getD .null

/-- A row over which the deeds have been written. -/
def overwrite [Host] (deeds : List Deed) (row : Record) : Record :=
  row.mapIdx fun place cell => (lastAt? deeds place).getD cell

variable {d : Deed} {deeds : List Deed} {row : Record}

@[simp] theorem lastAt?_nil [Host] (place : Nat) : lastAt? [] place = none := rfl

theorem lastAt?_cons [Host] (d : Deed) (deeds : List Deed) (place : Nat) :
    lastAt? (d :: deeds) place = (lastAt? deeds place).or (d.cellAt? place) := by
  simp [lastAt?]

theorem getElem?_overwrite [Host] (deeds : List Deed) (row : Record) (place : Nat) :
    (overwrite deeds row)[place]? =
      row[place]?.map fun cell => (lastAt? deeds place).getD cell := by
  simp [overwrite]

@[simp] theorem overwrite_nil [Host] (row : Record) : overwrite [] row = row := by
  apply List.ext_getElem?
  intro place
  simp [getElem?_overwrite]

/-- Later deeds are written over earlier ones. -/
theorem overwrite_cons [Host] (d : Deed) (deeds : List Deed) (row : Record) :
    overwrite (d :: deeds) row = overwrite deeds (overwrite [d] row) := by
  apply List.ext_getElem?
  intro place
  simp only [getElem?_overwrite, lastAt?_cons, lastAt?_nil, Option.none_or, Option.map_map]
  cases lastAt? deeds place <;> rfl

/-- What fails writes nothing. -/
theorem written?_of_error [Host] {e : Error} (failed : d.answer = .error e) :
    d.written? = none := by
  cases step : d.use.step <;> simp only [written?, step, failed]

/-- Nor does a step whose only concern is what has been sealed. -/
theorem written?_of_flush [Host] (flush : d.use.step = .flush) : d.written? = none := by
  simp only [written?, flush]

theorem written?_of_finish [Host] (finish : d.use.step = .finish) : d.written? = none := by
  simp only [written?, finish]

theorem overwrite_of_unwritten [Host] (nothing : d.written? = none) (row : Record) :
    overwrite [d] row = row := by
  apply List.ext_getElem?
  intro place
  simp [getElem?_overwrite, lastAt?_cons, cellAt?, nothing]

theorem overwrite_of_written [Host] {place : Nat} {cell : Cell}
    (something : d.written? = some ((place : Int), cell)) (row : Record) :
    overwrite [d] row = row.set place cell := by
  apply List.ext_getElem?
  intro other
  have put : d.cellAt? other = if place = other then some cell else none := by
    simp only [cellAt?, something, Int.natCast_inj]
  rw [getElem?_overwrite, lastAt?_cons, lastAt?_nil, Option.none_or, put, List.getElem?_set]
  by_cases same : place = other
  · subst same
    by_cases inside : place < row.length <;> simp [inside]
  · simp [same]

theorem overwrite_blankRow [Host] (schema : Schema) (deeds : List Deed) :
    overwrite deeds (blankRow schema) = record schema deeds := by
  apply List.ext_getElem?
  intro place
  rw [getElem?_overwrite, record, List.getElem?_map, blankRow, List.getElem?_replicate]
  by_cases inside : place < schema.size
  · simp [inside]
  · simp [inside]

end Deed

/-! ## What a step does to the row -/

variable {w : Writer} {b : Buffer} {use : Use}

theorem row_flush (w : Writer) : w.flush.2.row = w.row := by
  cases buffer : w.buffer with
  | none => rw [flush, buffer]
  | some b =>
      by_cases empty : b.records = []
      · have nothing : w.buffer = some ⟨b.id, []⟩ := by rw [buffer, ← empty]
        rw [flush_of_empty nothing]
      · obtain ⟨⟨n, after⟩, -⟩ := flush_of_waiting buffer empty
        rw [after]

theorem row_finish (w : Writer) : w.finish.2.row = w.row := by
  have flushed := row_flush w
  rw [finish]
  split
  · rfl
  · split <;> rename_i result <;> rw [result] at flushed <;> exact flushed

/-- A new row is begun whether the page that has become full is taken or not. -/
theorem row_sealRow (buffer : w.buffer = some b) : w.sealRow.2.row = blankRow w.schema := by
  rw [sealRow_of_open buffer]
  split
  · exact row_flush (w.pushed b)
  · rfl

/-- A use of a writer, with what it answers there. -/
def deed [Host] (w : Writer) (use : Use) : Deed :=
  ⟨use, (stepWriter use.cursor use.pool w use.step).1⟩

theorem row_of_seals [Host] (buffer : w.buffer = some b) (seals : (w.deed use).seals = true) :
    (stepWriter use.cursor use.pool w use.step).2.1.row = blankRow w.schema := by
  obtain ⟨cursor, pool, step⟩ := use
  cases step with
  | sealRow => exact row_sealRow buffer
  | _ => cases seals

/-- A step that does not end the row writes over it what it writes, if it succeeds. -/
theorem row_of_not_seals [Host] (unclosed : use.step ≠ .close)
    (unsealed : (w.deed use).seals = false) :
    (stepWriter use.cursor use.pool w use.step).2.1.row = Deed.overwrite [w.deed use] w.row := by
  obtain ⟨cursor, pool, step⟩ := use
  cases step with
  | write type index cell =>
      show (w.write type index cell).2.row = Deed.overwrite [⟨_, (w.write type index cell).1⟩] w.row
      rw [write]
      cases check : w.checkWrite type index cell with
      | error e => exact (Deed.overwrite_of_unwritten rfl w.row).symm
      | ok =>
          obtain ⟨i, f, rfl, -⟩ := exists_field_of_checkWrite check
          exact (Deed.overwrite_of_written rfl w.row).symm
  | writeNull index =>
      show (w.writeNull index).2.row = Deed.overwrite [⟨_, (w.writeNull index).1⟩] w.row
      rw [writeNull]
      cases found : w.column index with
      | error e => exact (Deed.overwrite_of_unwritten rfl w.row).symm
      | ok column =>
          obtain ⟨i, f, rfl, -⟩ := exists_field_of_column found
          exact (Deed.overwrite_of_written rfl w.row).symm
  | copy column index =>
      show (w.copy cursor column index).2.row =
        Deed.overwrite [⟨_, (w.copy cursor column index).1⟩] w.row
      rcases w.copy_cases cursor column index with ⟨cell, taken, stored⟩ | ⟨-, e, failed⟩
      · obtain ⟨i, own, rfl, -⟩ := taken.place
        rw [stored]
        refine (Deed.overwrite_of_written ?_ w.row).symm
        simp [Deed.written?, taken.cell_eq, Except.toOption]
      · rw [failed]
        exact (Deed.overwrite_of_unwritten rfl w.row).symm
  | flush => exact (row_flush w).trans (Deed.overwrite_of_unwritten rfl w.row).symm
  | finish => exact (row_finish w).trans (Deed.overwrite_of_unwritten rfl w.row).symm
  | sealRow => cases unsealed
  | close => exact absurd rfl unclosed

/-! ## What a course of steps does -/

/-- The deeds that are done to a writer by uses one after the other, whatever they answer. -/
def deeds [Host] : Writer → List Use → List Deed
  | _, [] => []
  | w, use :: uses =>
    w.deed use :: (stepWriter use.cursor use.pool w use.step).2.1.deeds uses

/-- The turns that a writer has by these uses. -/
def turns [Host] : Writer → List Use → List Turn
  | _, [] => []
  | w, use :: uses =>
    ⟨w, use.step, (w.deed use).answer⟩ ::
      (stepWriter use.cursor use.pool w use.step).2.1.turns uses

/-- The books of a writer balance in the course of uses that do not close it. -/
theorem Balanced.used [Host] {sink : Sink} {size : Nat} {past : List Turn} {uses : List Use}
    (h : w.Balanced sink size past) (unclosed : ∀ use ∈ uses, use.step ≠ .close) :
    (w.used uses).Balanced sink size (past ++ w.turns uses) := by
  induction uses generalizing w past with
  | nil => exact (List.append_nil past).symm ▸ h
  | cons use uses ih =>
      obtain ⟨now, later⟩ := List.forall_mem_cons.mp unclosed
      have next := ih (h.turn use.cursor use.pool now) later
      rw [List.append_assoc] at next
      exact next

/-- The records that begin with a row, of which each further one begins with nulls. -/
def drafts [Host] (schema : Schema) (row : Record) : List (List Deed) → List Record
  | [] => []
  | first :: others => Deed.overwrite first row :: others.map (Deed.record schema)

theorem drafts_blankRow [Host] (schema : Schema) (rows : List (List Deed)) :
    drafts schema (blankRow schema) rows = rows.map (Deed.record schema) := by
  cases rows with
  | nil => rfl
  | cons first others => rw [drafts, Deed.overwrite_blankRow, List.map_cons]

theorem drafts_modifyHead [Host] (schema : Schema) (d : Deed) (row : Record)
    (rows : List (List Deed)) :
    drafts schema row (rows.modifyHead (d :: ·)) = drafts schema (Deed.overwrite [d] row) rows := by
  cases rows with
  | nil => rfl
  | cons first others => exact congrArg (· :: _) (Deed.overwrite_cons d first row)

/-- An open writer seals its row exactly with the deeds that end the row. -/
theorem sealed?_deed [Host] (buffer : w.buffer = some b) (use : Use) :
    Turn.sealed? ⟨w, use.step, (w.deed use).answer⟩ =
      if (w.deed use).seals then some w.row else none := by
  obtain ⟨cursor, pool, step⟩ := use
  cases step with
  | sealRow => simp [Turn.sealed?, Deed.seals, deed, isClosed, buffer]
  | _ => rfl

/-- The records that a course of steps seals, and behind them the row at which it leaves the writer,
are what is written in the rows into which the sealing steps cut the deeds. -/
theorem sealed_concat_row [Host] {schema : Schema} {sink : Sink} {size : Nat} {past : List Turn}
    {uses : List Use} (sound : w.Sound schema sink) (h : w.Balanced sink size past)
    (unclosed : ∀ use ∈ uses, use.step ≠ .close) :
    (w.turns uses).filterMap Turn.sealed? ++ [(w.used uses).row] =
      drafts schema w.row ((w.deeds uses).splitOnP Deed.seals) := by
  induction uses generalizing w past with
  | nil =>
      show [w.row] = [Deed.overwrite [] w.row]
      rw [Deed.overwrite_nil]
  | cons use uses ih =>
      obtain ⟨now, later⟩ := List.forall_mem_cons.mp unclosed
      obtain ⟨id, records, buffer⟩ := h.accounts.buffer
      have next := ih (sound.turn use.cursor use.pool use.step)
        (h.turn use.cursor use.pool now) later
      rw [deeds, List.splitOnP_cons_eq_if_modifyHead, turns, Writer.used, List.filterMap_cons,
        sealed?_deed buffer]
      cases seals : (w.deed use).seals with
      | true =>
          rw [row_of_seals buffer seals, sound.schema_eq, drafts_blankRow] at next
          rw [if_pos rfl, if_pos rfl, drafts, Deed.overwrite_nil, ← next]
          rfl
      | false =>
          rw [row_of_not_seals now seals] at next
          rw [if_neg Bool.false_ne_true, if_neg Bool.false_ne_true, drafts_modifyHead, ← next]

/-- The records that a writer has sealed: those of the pages that were offered to its sink since the
sink was as given, and those that wait. -/
def sealedSince (sink : Sink) (w : Writer) : List Record :=
  (SinkCall.pages (w.sink.calls.drop sink.calls.length)).flatten ++ w.pending

theorem Balanced.sealedSince_eq {sink : Sink} {size : Nat} {past : List Turn}
    (h : w.Balanced sink size past) : w.sealedSince sink = past.filterMap Turn.sealed? := by
  obtain ⟨calls, sinkAfter, split, -⟩ := h.accounts.told
  have told : w.sink.calls.drop sink.calls.length = calls := by
    rw [sinkAfter]
    exact List.drop_left
  rw [sealedSince, told, split]

/-- Whatever is done to a writer until it is closed, with whatever cursors and whether its sink
takes or refuses what it is offered: the sealing steps cut the course of steps into rows. What is
written in these is, in order, what the writer has sealed and then the row that it is at. In each
the last write to a place that succeeded is what counts, and null if there is none. A step that is
refused by the writer, a flush and a finish leave the row as it is, and what was sealed stays sealed
as it was. -/
theorem sealed_rows_have_last_writes [Host] (pool : BufferPool) (schema : Schema) (sink : Sink)
    {uses more : List Use} (unclosed : ∀ use ∈ uses ++ more, use.step ≠ .close) :
    let start := (ofPool pool schema sink).1
    let w := start.used uses
    w.sealedSince sink ++ [w.row] =
      ((start.deeds uses).splitOnP Deed.seals).map (Deed.record schema) ∧
    (∀ use : Use, use.step ≠ .close → (w.deed use).seals = false →
      (use.step = .flush ∨ use.step = .finish ∨ ∃ e, (w.deed use).answer = .error e) →
      (w.used [use]).row = w.row) ∧
    w.sealedSince sink <+: (w.used more).sealedSince sink := by
  intro start w
  have opened : start.Balanced sink pool.pageSize [] :=
    ⟨accounts_ofPool pool schema sink, pool.pageSize_pos⟩
  have sound := sound_ofPool pool schema sink
  obtain ⟨early, late⟩ := List.forall_mem_append.mp unclosed
  have balanced : w.Balanced sink pool.pageSize (start.turns uses) := opened.used early
  refine ⟨?_, ?_, ?_⟩
  · rw [balanced.sealedSince_eq, ← drafts_blankRow]
    exact sealed_concat_row sound opened early
  · intro use now unsealed idle
    have blank : (w.deed use).written? = none := by
      rcases idle with flush | finish | ⟨e, failed⟩
      · exact Deed.written?_of_flush flush
      · exact Deed.written?_of_finish finish
      · exact Deed.written?_of_error failed
    show (stepWriter use.cursor use.pool w use.step).2.1.row = w.row
    rw [row_of_not_seals now unsealed]
    exact Deed.overwrite_of_unwritten blank w.row
  · rw [balanced.sealedSince_eq, (balanced.used late).sealedSince_eq, List.filterMap_append]
    exact List.prefix_append _ _

namespace Sample

open Workbench.Sample (shelf standing target unwilling)

def uses (steps : List WriterStep) : List Use :=
  steps.map fun step => ⟨standing, shelf, step⟩

/-- A number is written twice, and a value of a wrong type is refused behind it. The record that is
sealed next is blank and fills a page, which the sink refuses; so the one behind it begins anew. -/
def rewriting : List Use :=
  uses [.write .long 0 (.long 5), .write .long 0 (.long 6), .write .string 0 (.string "7"),
    .write .string 1 (.string "a"), .sealRow, .sealRow, .copy ⟨"serial", 0, .long⟩ 0, .flush,
    .sealRow, .write .long 0 (.long 8), .write .string 1 (.string "b"), .writeNull 1]

/-- The row is sealed, and its page handed over. -/
def sealing : List Use := uses [.sealRow, .finish]

end Sample

section

open Sample
open Workbench.Sample (shelf target unwilling)

/-- Three records are sealed and stay so, and the row behind them has nothing of theirs. -/
theorem sample_last_writes :
    let w := (ofPool shelf target unwilling).1.used rewriting
    w.sealedSince unwilling ++ [w.row] =
      [[.long 6, .string "a"], [.null, .null], [.long 1, .null], [.long 8, .null]] ∧
    (w.used (uses [.flush])).row = [.long 8, .null] ∧
    [[.long 6, .string "a"], [.null, .null], [.long 1, .null]] <+:
      (w.used sealing).sealedSince unwilling := by
  have unclosed : ∀ use ∈ rewriting ++ sealing, use.step ≠ .close := by
    simp [rewriting, sealing, uses]
  obtain ⟨rows, idle, kept⟩ := sealed_rows_have_last_writes shelf target unwilling unclosed
  exact ⟨rows, idle ⟨_, _, .flush⟩ nofun rfl (.inl rfl), kept⟩

end

end Writer

end TypedPages
