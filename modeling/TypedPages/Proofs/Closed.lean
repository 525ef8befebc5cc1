import TypedPages.Proofs.Leases
import TypedPages.Proofs.Reading

/-!
# Closed writers

Closing takes the buffer away, and without a buffer nothing is done any more: the writer stays as
it was left, its sink is not called again, and closing it once more is harmless. Whoever uses it is
refused for the closing before anything else is looked at. The one use that is not refused is a
flush, which finds nothing to hand on.
-/

namespace TypedPages

namespace Writer

open Workbench (WriterStep stepWriter)

variable {w : Writer}

section

variable (closed : w.buffer = none)
include closed

/-- No place of the row can be reached, whatever its position. -/
theorem column_of_closed [Host] (index : Int) :
    w.column index = .error (.violation .closedWriter) := by
  rw [column, isClosed, closed]
  rfl

theorem write_of_closed [Host] (type : ColumnType) (index : Int) (cell : Cell) :
    w.write type index cell = (.error (.violation .closedWriter), w) := by
  rw [write, checkWrite, column_of_closed closed index]
  rfl

theorem writeNull_of_closed [Host] (index : Int) :
    w.writeNull index = (.error (.violation .closedWriter), w) := by
  rw [writeNull, column_of_closed closed index]

theorem sealRow_of_closed : w.sealRow = (.error (.violation .closedWriter), w) := by
  rw [sealRow, closed]

theorem finish_of_closed : w.finish = (.error (.violation .closedWriter), w) := by
  rw [finish, isClosed, closed]
  rfl

theorem flush_of_closed : w.flush = (.ok (), w) := by
  rw [flush, closed]

/-- Copying asks the cursor first. If this has the cell, the copy is refused for the closing, unless
the cell is refused before. -/
theorem copy_of_closed_of_cell [Host] {cursor : Cursor} {column : Column} {cell : Cell}
    (found : cursor.cell column = .ok cell) (index : Int) :
    w.copy cursor column index = (.error (if cell.suits column.type then .violation .closedWriter
      else (Violation.wrongClass column.name column.type cell).raised), w) := by
  rw [copy, Cursor.isNull, found]
  simp only [Except.map]
  cases null : cell.isNull with
  | true =>
      simp only [writeNull_of_closed closed index, Cell.suits, null, Bool.true_or, if_true]
  | false =>
      rw [Cursor.read_of_cell found null]
      by_cases fits : cell.fits column.type = true
      · simp only [write_of_closed closed, Cell.suits, fits, Bool.or_true, if_true]
      · simp only [Cell.suits, null, fits, Bool.or_self, Bool.false_eq_true, if_false]

theorem copy_of_closed [Host] (cursor : Cursor) (column : Column) (index : Int) :
    ∃ e, w.copy cursor column index = (.error e, w) := by
  cases found : cursor.cell column with
  | error e =>
      rw [copy, Cursor.isNull, found]
      exact ⟨e, rfl⟩
  | ok cell => exact ⟨_, copy_of_closed_of_cell closed found index⟩

/-- A turn leaves a closed writer and the pool as they are. -/
theorem turn_of_closed [Host] (cursor : Cursor) (pool : BufferPool) (own : WriterStep) :
    (stepWriter cursor pool w own).2 = (w, pool) := by
  cases own with
  | write type index cell =>
      show ((w.write type index cell).2, pool) = _
      rw [write_of_closed closed]
  | writeNull index =>
      show ((w.writeNull index).2, pool) = _
      rw [writeNull_of_closed closed]
  | copy column index =>
      obtain ⟨e, refused⟩ := copy_of_closed closed cursor column index
      show ((w.copy cursor column index).2, pool) = _
      rw [refused]
  | sealRow =>
      show (w.sealRow.2, pool) = _
      rw [sealRow_of_closed closed]
  | flush =>
      show (w.flush.2, pool) = _
      rw [flush_of_closed closed]
  | finish =>
      show (w.finish.2, pool) = _
      rw [finish_of_closed closed]
  | close =>
      show (w.close pool).2 = _
      rw [close_of_closed closed]

end

theorem buffer_close (w : Writer) (pool : BufferPool) : (w.close pool).2.1.buffer = none :=
  Option.map_eq_none_iff.mp (bufferId?_close w pool)

end Writer

namespace Workbench

variable {bench : Workbench} {number : Nat} {w : Writer}

/-- Whether a step uses the writer by itself: it neither closes it nor copies from the cursor. -/
def WriterStep.isUse : WriterStep → Bool
  | .copy .. => false
  | .close => false
  | _ => true

section

variable (closed : w.buffer = none)
include closed

/-- All uses are refused, but for the flush. -/
theorem exists_violation_iff_of_closed [Host] (cursor : Cursor) (pool : BufferPool)
    {own : WriterStep} (use : own.isUse = true) :
    (∃ v, (stepWriter cursor pool w own).1 = .error (.violation v)) ↔ own ≠ .flush := by
  have refused {answer : Except Error Unit} (ends : answer = .error (.violation .closedWriter))
      (other : own ≠ .flush) :
      (∃ v, answer = .error (.violation v)) ↔ own ≠ .flush :=
    iff_of_true ⟨_, ends⟩ other
  cases own with
  | write type index cell =>
      exact refused (congrArg Prod.fst (Writer.write_of_closed closed type index cell)) nofun
  | writeNull index =>
      exact refused (congrArg Prod.fst (Writer.writeNull_of_closed closed index)) nofun
  | sealRow => exact refused (congrArg Prod.fst (Writer.sealRow_of_closed closed)) nofun
  | finish => exact refused (congrArg Prod.fst (Writer.finish_of_closed closed)) nofun
  | flush =>
      apply iff_of_false
      · show ¬ ∃ v, w.flush.1 = _
        rw [Writer.flush_of_closed closed]
        rintro ⟨v, ⟨⟩⟩
      · exact not_not_intro rfl
  | copy column index => cases use
  | close => cases use

variable (found : bench.writers[number]? = some w)
include found

/-- A turn of a closed writer changes nothing at the workbench. -/
theorem step_of_closed [Host] (own : WriterStep) : (bench.step (.writer number own)).2 = bench := by
  rw [step_own found, Writer.turn_of_closed closed]
  show { bench with writers := bench.writers.set number w } = bench
  rw [set_own found]

/-- Whatever is done at the workbench, the closed writer stays as it is. -/
theorem writer_after_of_closed [Host] (steps : List Step) :
    (bench.after steps).writers[number]? = some w := by
  let keeps : Writer → List Turn → Prop := fun v _ => v = w
  have stays : ∀ v past cursor pool own, keeps v past → .writer number own ∈ steps →
      keeps (stepWriter cursor pool v own).2.1
        (past ++ [⟨v, own, (stepWriter cursor pool v own).1⟩]) := by
    intro v past cursor pool own (same : v = w) _
    show (stepWriter cursor pool v own).2.1 = w
    rw [same, Writer.turn_of_closed closed]
  obtain ⟨v, last, same⟩ := after_induction stays [] found rfl
  rw [last, same]

end

/-- The writer is closed by its closing turn, whatever the sink says to it. -/
theorem exists_closed [Host] (found : bench.writers[number]? = some w) :
    ∃ c, (bench.step (.writer number .close)).2.writers[number]? = some c ∧ c.buffer = none := by
  have bound := (List.getElem?_eq_some_iff.mp found).1
  rw [step_own found]
  exact ⟨_, List.getElem?_set_self bound, Writer.buffer_close w bench.pool⟩

/-- A writer that was closed at any time, whether its sink refused this or not, stays as it was
left, with its counters and the calls of its sink, and no turn of it changes anything. It can be
closed again, and it refuses every use with a violation, except for the flush, which it answers
without having done anything. -/
theorem refused_after_close_iff [Host] {pool : BufferPool} {reader : Schema} {early : List Step}
    (found : ((ofReader pool reader).after early).writers[number]? = some w) (late : List Step) :
    let closing := (ofReader pool reader).after (early ++ [.writer number .close])
    let bench := closing.after late
    (∃ c, closing.writers[number]? = some c ∧ c.isClosed = true ∧
      bench.writers[number]? = some c) ∧
    (∀ own, (bench.step (.writer number own)).2 = bench) ∧
    (bench.step (.writer number .close)).1 = .ok .done ∧
    (bench.step (.writer number .flush)).1 = .ok .done ∧
    ∀ own, own.isUse = true →
      ((∃ v, (bench.step (.writer number own)).1 = .error (.violation v)) ↔ own ≠ .flush) := by
  intro closing bench
  obtain ⟨c, left, closed⟩ := exists_closed found
  have closes : closing = (((ofReader pool reader).after early).step (.writer number .close)).2 :=
    after_append _ early _
  rw [← closes] at left
  have still : bench.writers[number]? = some c := writer_after_of_closed closed left late
  refine ⟨⟨c, left, ?_, still⟩, step_of_closed closed still, ?_, ?_, ?_⟩
  · rw [Writer.isClosed, closed]
    rfl
  · rw [step_own still]
    show (c.close bench.pool).1.map _ = _
    rw [Writer.close_of_closed closed]
    rfl
  · rw [step_own still]
    show c.flush.1.map _ = _
    rw [Writer.flush_of_closed closed]
    rfl
  · intro own use
    rw [← exists_violation_iff_of_closed closed bench.cursor bench.pool use, step_own still]
    simp only [map_eq_error_iff]

namespace Sample

/-- A pool of pages of two records. -/
def lender : BufferPool := .fresh 0 2 Nat.two_pos

/-- A record waits in a writer whose sink refuses to be closed. -/
def waiting : List Step :=
  [.openWriter Cursor.Sample.reader (.fresh (SinkScript.refuses ⟨[], false, true⟩)),
    .writer 0 (.write .long 0 (.long 1)), .writer 0 .sealRow]

/-- The writer is used, and so is another one on the same pool. -/
def later : List Step :=
  [.writer 0 .sealRow, .openWriter .empty (.fresh fun _ => none), .writer 0 .flush,
    .writer 1 .close]

end Sample

/-- The record is lost with the closing; sealing another one is refused, flushing is not. -/
theorem sample_refused_after_close : ∃ w,
    ((ofReader Sample.lender .empty).after Sample.waiting).writers[0]? = some w ∧
    w.pending = [[.long 1]] ∧
    let bench := ((ofReader Sample.lender .empty).after
      (Sample.waiting ++ [.writer 0 .close])).after Sample.later
    (∃ c, bench.writers[0]? = some c ∧ c.isClosed = true ∧ c.sink.calls = [.close]) ∧
    (bench.step (.writer 0 .flush)).1 = .ok .done ∧
    ∃ v, (bench.step (.writer 0 .sealRow)).1 = .error (.violation v) := by
  obtain ⟨w, found, waits⟩ : ∃ w,
      ((ofReader Sample.lender .empty).after Sample.waiting).writers[0]? = some w ∧
        w.pending = [[.long 1]] := ⟨_, rfl, rfl⟩
  obtain ⟨⟨c, left, closed, still⟩, -, -, flushed, refused⟩ :=
    refused_after_close_iff found Sample.later
  refine ⟨w, found, waits, ⟨c, still, closed, ?_⟩, flushed, (refused .sealRow rfl).mpr nofun⟩
  obtain rfl := Option.some.inj left
  rfl

/-- Not every use of a closed writer is refused. -/
theorem not_refused_after_close :
    ¬ ∀ (pool : BufferPool) (reader : Schema) (early late : List Step) (number : Nat) (w : Writer)
        (own : WriterStep),
      ((ofReader pool reader).after early).writers[number]? = some w → own.isUse = true →
      ∃ v, ((((ofReader pool reader).after (early ++ [.writer number .close])).after late).step
        (.writer number own)).1 = .error (.violation v) := by
  intro refuses
  obtain ⟨v, refused⟩ := refuses Sample.lender .empty Sample.waiting [] 0 _ .flush rfl rfl
  have flushed : ((((ofReader Sample.lender .empty).after
      (Sample.waiting ++ [.writer 0 .close])).after []).step (.writer 0 .flush)).1 = .ok .done :=
    rfl
  rw [flushed] at refused
  cases refused

end Workbench

end TypedPages
