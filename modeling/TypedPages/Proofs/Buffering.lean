import Mathlib.Data.List.Nodup
import TypedPages.Proofs.Ledger

/-!
# Records between the row and the sink

Whatever a caller does with a writer until it closes it, and however often it goes on after an
error, each record that was sealed is offered to the sink once, in its turn, on a page that is not
too long. A page that the sink refuses is not offered again: a later finish succeeds without it,
and the caller has learned of the loss from the operation that offered the page.
-/

namespace TypedPages

namespace Writer

open Workbench (Step WriterStep Turn stepWriter)

variable {sink : Sink} {size : Nat} {w w' : Writer} {past : List Turn} {t : Turn}

/-- The ledger of a writer agrees with the turns that it has had, and its buffer is not full. -/
structure Balanced (sink : Sink) (size : Nat) (w : Writer) (past : List Turn) : Prop where
  accounts : w.Accounts sink size (past.filterMap Turn.sealed?) (past.filterMap Turn.failure?)
  short : w.pending.length < size

theorem Balanced.concat (accounts : w.Accounts sink size
      (past.filterMap Turn.sealed? ++ t.sealed?.toList)
      (past.filterMap Turn.failure? ++ t.failure?.toList))
    (short : w.pending.length < size) : w.Balanced sink size (past ++ [t]) := by
  refine ⟨?_, short⟩
  rw [List.filterMap_append, List.filterMap_append]
  cases sealed : t.sealed? <;> cases failure : t.failure? <;>
    simpa [sealed, failure] using accounts

/-- Steps that touch the row alone leave no trace in the ledger. -/
theorem Balanced.of_touchesRow {result : Except Error Unit × Writer}
    (h : w.Balanced sink size past) (touches : w.TouchesRow result) (sealed : t.sealed? = none)
    (answer : t.answer = result.1) : result.2.Balanced sink size (past ++ [t]) := by
  obtain ⟨⟨row, after⟩, own⟩ := touches
  rw [after]
  refine .concat ?_ h.short
  rw [sealed, Turn.failure?, answer, own]
  simpa using h.accounts.of_row row

/-- Every step but the closing one keeps the balance. -/
theorem Balanced.turn [Host] (h : w.Balanced sink size past) (cursor : Cursor) (pool : BufferPool)
    {own : WriterStep} (unclosed : own ≠ .close) :
    (stepWriter cursor pool w own).2.1.Balanced sink size
      (past ++ [⟨w, own, (stepWriter cursor pool w own).1⟩]) := by
  have pos : 0 < size := Nat.zero_lt_of_lt h.short
  cases own with
  | write type index cell => exact h.of_touchesRow (touchesRow_write w type index cell) rfl rfl
  | writeNull index => exact h.of_touchesRow (touchesRow_writeNull w index) rfl rfl
  | copy column index => exact h.of_touchesRow (touchesRow_copy w cursor column index) rfl rfl
  | sealRow =>
      obtain ⟨id, records, buffer⟩ := h.accounts.buffer
      have row : Turn.sealed? ⟨w, .sealRow, w.sealRow.1⟩ = some w.row := by
        simp [Turn.sealed?, isClosed, buffer]
      obtain ⟨accounts, short⟩ := h.accounts.sealRow h.short
      exact .concat (row ▸ accounts) short
  | flush =>
      obtain ⟨accounts, nothing⟩ := h.accounts.flush (Nat.le_of_lt h.short)
      refine .concat ((List.append_nil _).symm ▸ accounts) ?_
      exact nothing.symm ▸ pos
  | finish =>
      obtain ⟨accounts, nothing⟩ := h.accounts.finish h.short
      refine .concat ((List.append_nil _).symm ▸ accounts) ?_
      exact nothing.symm ▸ pos
  | close => exact absurd rfl unclosed

end Writer

namespace Workbench

section

variable {bench bench' : Workbench} {steps : List Step}
variable (unclosed : .writer bench.writers.length .close ∉ steps)
include unclosed

/-- The books of a writer balance until it is closed. -/
theorem balanced_after [Host] (schema : Schema) (sink : Sink) :
    ∃ w, ((bench.openWriter schema sink).after steps).writers[bench.writers.length]? = some w ∧
      w.Balanced sink bench.pool.pageSize
        (turns bench.writers.length (bench.openWriter schema sink) steps) := by
  have start : (Writer.ofPool bench.pool schema sink).1.Balanced sink bench.pool.pageSize [] :=
    ⟨Writer.accounts_ofPool bench.pool schema sink, bench.pool.pageSize_pos⟩
  refine after_induction ?_ [] (openWriter_new bench schema sink) start
  rintro w past cursor pool own balanced member
  refine balanced.turn cursor pool ?_
  rintro rfl
  exact unclosed member

/-- Until a writer is closed, the records of the pages that its sink was offered, taken or not, and
then those in its buffer, are the records that were sealed, in order. The buffer is never full, no
page that was offered is empty or too long, and sealing a record offers full pages only. -/
theorem offered_then_pending_eq_sealed [Host] (schema : Schema) (sink : Sink) :
    ∃ w calls,
      ((bench.openWriter schema sink).after steps).writers[bench.writers.length]? = some w ∧
      w.sink.calls = sink.calls ++ calls ∧
      (SinkCall.pages calls).flatten ++ w.pending =
        (bench.openWriter schema sink).sealedBy bench.writers.length steps ∧
      w.pending.length < bench.pool.pageSize ∧
      (∀ page ∈ SinkCall.pages calls, 1 ≤ page.length ∧ page.length ≤ bench.pool.pageSize) ∧
      ∃ more, w.sealRow.2.sink.calls = w.sink.calls ++ more ∧
        ∀ call ∈ more, ∃ page, call = .add page ∧ page.length = bench.pool.pageSize := by
  obtain ⟨w, found, ⟨pageSize, ⟨id, records, buffer⟩, calls, sinkAfter, split, bounds, -⟩, short⟩ :=
    balanced_after unclosed schema sink
  have room : records.length < w.pageSize := by
    rw [pageSize, ← Writer.pending_of_buffer buffer]
    exact short
  obtain ⟨more, offered, full⟩ := Writer.sealRow_offers buffer room
  refine ⟨w, calls, found, by rw [sinkAfter]; rfl, split, short, bounds, more, ?_, ?_⟩
  · rw [offered]
    rfl
  · intro call member
    rw [← pageSize]
    exact full call member

/-- When finishing succeeds, every record that was sealed has been offered. The pages that the sink
took hold all of them exactly if it has refused no page, and each of its refusals was the answer to
some step before. -/
theorem finished_taken_eq_sealed_iff [Host] (schema : Schema) (sink : Sink)
    (finished : ((bench.openWriter schema sink).after steps).step
      (.writer bench.writers.length .finish) = (.ok .done, bench')) :
    ∃ w calls, bench'.writers[bench.writers.length]? = some w ∧
      w.sink.calls = sink.calls ++ calls ∧ w.pending = [] ∧
      (SinkCall.pages calls).flatten =
        (bench.openWriter schema sink).sealedBy bench.writers.length steps ∧
      ((sink.taken calls).flatten =
          (bench.openWriter schema sink).sealedBy bench.writers.length steps ↔
        ∀ offer ∈ sink.offers calls, offer.2 = none) ∧
      sink.refusals calls =
        (bench.openWriter schema sink).failuresOf bench.writers.length steps := by
  obtain ⟨w, found, accounts, short⟩ := balanced_after unclosed schema sink
  have bound := (List.getElem?_eq_some_iff.mp found).1
  rw [step_own found] at finished
  obtain ⟨answer, rfl⟩ := Prod.mk.inj finished
  have succeeded : passedOn? w.finish.1 = none := by
    change w.finish.1.map (fun _ => Answer.done) = .ok .done at answer
    cases result : w.finish.1 with
    | ok => rfl
    | error e => rw [result] at answer; cases answer
  obtain ⟨⟨-, -, calls, sinkAfter, split, bounds, refused⟩, nothing⟩ := accounts.finish short
  rw [succeeded, Option.toList_none, List.append_nil] at refused
  rw [nothing, List.append_nil] at split
  have filled : ∀ page ∈ SinkCall.pages calls, page ≠ [] := by
    intro page member
    exact List.length_pos_iff.mp (bounds page member).1
  refine ⟨w.finish.2, calls, List.getElem?_set_self bound, by rw [sinkAfter]; rfl, nothing, split,
    ?_, refused⟩
  rw [sealedBy, ← split]
  exact Sink.flatten_taken_eq_iff filled

end

/-! ## A page that is lost -/

namespace Sample

def schema : Schema := ⟨[⟨"id", .long⟩], List.nodup_singleton _⟩

/-- A workbench without writers whose pages hold two records. -/
def bench : Workbench := .ofReader (.fresh 0 2 Nat.two_pos) .empty

/-- A sink that refuses its first page. -/
def unwilling : Sink := .fresh (SinkScript.refuses ⟨[0], false, false⟩)

/-- One record is sealed and flushed. -/
def flushing : List Step :=
  [.writer 0 (.write .long 0 (.long 1)), .writer 0 .sealRow, .writer 0 .flush]

/-- The first page is refused when its last record is sealed; a value of a wrong type is refused by
the writer; work goes on behind the farewell. -/
def persisting : List Step :=
  [.writer 0 (.write .long 0 (.long 1)), .writer 0 .sealRow,
    .writer 0 (.write .long 0 (.long 2)), .writer 0 .sealRow,
    .writer 0 (.write .string 0 (.string "3")), .writer 0 .sealRow, .writer 0 .finish,
    .writer 0 (.write .long 0 (.long 4)), .writer 0 .sealRow]

end Sample

/-- The two records of the refused page are offered once, and the last record waits. -/
theorem sample_offered_then_pending : ∃ w calls,
    ((Sample.bench.openWriter Sample.schema Sample.unwilling).after
      Sample.persisting).writers[0]? = some w ∧
    w.sink.calls = calls ∧ w.pending = [[.long 4]] ∧
    (SinkCall.pages calls).flatten = [[.long 1], [.long 2], [.null]] := by
  have unclosed : .writer Sample.bench.writers.length .close ∉ Sample.persisting := by
    simp [Sample.persisting]
  obtain ⟨w, calls, found, told, split, -⟩ :=
    offered_then_pending_eq_sealed unclosed Sample.schema Sample.unwilling
  obtain rfl := Option.some.inj found
  obtain rfl : _ = calls := told
  exact ⟨_, _, found, rfl, rfl, rfl⟩

/-- The only record that was sealed is refused, and finishing succeeds. -/
theorem sample_finished_taken : ∃ bench' w calls,
    ((Sample.bench.openWriter Sample.schema Sample.unwilling).after Sample.flushing).step
      (.writer 0 .finish) = (.ok .done, bench') ∧
    bench'.writers[0]? = some w ∧ w.sink.calls = calls ∧
    (SinkCall.pages calls).flatten = [[.long 1]] ∧ Sample.unwilling.taken calls = [] ∧
    Sample.unwilling.refusals calls = [⟨"sink add failed"⟩] := by
  have unclosed : .writer Sample.bench.writers.length .close ∉ Sample.flushing := by
    simp [Sample.flushing]
  obtain ⟨w, calls, found, told, -, offered, -, refused⟩ :=
    finished_taken_eq_sealed_iff unclosed Sample.schema Sample.unwilling rfl
  obtain rfl := Option.some.inj found
  obtain rfl : _ = calls := told
  exact ⟨_, _, _, rfl, found, rfl, offered, rfl, refused⟩

/-- A finish that succeeds does not mean that the sink has taken every record that was sealed. -/
theorem not_finished_taken_eq_sealed :
    ¬ ∀ (bench bench' : Workbench) (schema : Schema) (sink : Sink) (steps : List Step) (w : Writer)
        (calls : List SinkCall),
      .writer bench.writers.length .close ∉ steps →
      ((bench.openWriter schema sink).after steps).step
        (.writer bench.writers.length .finish) = (.ok .done, bench') →
      bench'.writers[bench.writers.length]? = some w →
      w.sink.calls = sink.calls ++ calls →
      (sink.taken calls).flatten =
        (bench.openWriter schema sink).sealedBy bench.writers.length steps := by
  intro lossless
  have unclosed : .writer Sample.bench.writers.length .close ∉ Sample.flushing := by
    simp [Sample.flushing]
  have lost : ([] : List Record) = [[.long 1]] :=
    lossless Sample.bench _ Sample.schema Sample.unwilling Sample.flushing _
      [.add [[.long 1]], .finish] unclosed rfl rfl rfl
  simp at lost

end Workbench

end TypedPages
