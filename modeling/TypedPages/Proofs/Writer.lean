import TypedPages.Proofs.Paging
import TypedPages.Proofs.Script
import TypedPages.Writer

/-!
# What a writer hands on

A writer that seals records one by one hands on their full pages and holds back the rest. As long
as its sink takes the pages, the writer is determined by what it was at the start and by the
records that it has sealed; a refusal ends this, and what is left is a writer that can be closed.
-/

namespace TypedPages

namespace Writer

variable {start w : Writer} {id : BufferId} {s t : Sink} {records : List Record} {record : Record}
variable {failure : Failure} {pool : BufferPool} {loan : Nat}

/-- The calls by which the full pages of records are handed on. -/
def handovers (size : Nat) (records : List Record) : List SinkCall :=
  (Page.full size records).map .add

/-- The calls by which all records are handed on and the stream is finished. -/
def farewell (size : Nat) (records : List Record) : List SinkCall :=
  (Page.paged size records).map .add ++ [.finish]

/-- What a writer has become by sealing records, all of whose full pages were taken. -/
def holding (start : Writer) (id : BufferId) (sink : Sink) (records : List Record) : Writer where
  schema := start.schema
  pageSize := start.pageSize
  sink := sink
  buffer := some ⟨id, Page.rest start.pageSize records⟩
  row := blankRow start.schema
  sealedRecords := start.sealedRecords + records.length
  pagesTaken := start.pagesTaken + records.length / start.pageSize

/-- The writer is open with the buffer of the given identity, and its sink is the given one. -/
structure Keeps (w : Writer) (id : BufferId) (sink : Sink) : Prop where
  sink_eq : w.sink = sink
  buffer_eq : ∃ records, w.buffer = some ⟨id, records⟩

theorem keeps_holding (start : Writer) (id : BufferId) (s : Sink) (records : List Record) :
    (start.holding id s records).Keeps id s :=
  ⟨rfl, _, rfl⟩

theorem Keeps.of_row {row : Record} (h : w.Keeps id s) : { w with row }.Keeps id s :=
  ⟨h.sink_eq, h.buffer_eq⟩

/-- A writer that has sealed nothing is as it was opened. -/
theorem holding_nil (pool : BufferPool) (schema : Schema) (sink : Sink) :
    (ofPool pool schema sink).1.holding (.lent pool.key pool.loans) sink [] =
      (ofPool pool schema sink).1 := by
  simp [holding, ofPool, BufferPool.allocate]

theorem handovers_prefix_append (size : Nat) (records later : List Record) :
    handovers size records <+: handovers size (records ++ later) :=
  (Page.full_prefix_append size records later).map _

/-- A farewell is what the full pages leave to be told. -/
theorem farewell_eq (size : Nat) (records : List Record) :
    farewell size records = handovers size records ++
      ((if (Page.rest size records).isEmpty then [] else [.add (Page.rest size records)]) ++
        [.finish]) := by
  rw [farewell, Page.paged, handovers, List.map_append, List.append_assoc]
  split <;> rfl

theorem tell_eq (w : Writer) (call : SinkCall) : w.tell call =
    ((w.sink.tell call).1.mapError .failure, { w with sink := (w.sink.tell call).2 }) := rfl

theorem flush_of_empty (buffer : w.buffer = some ⟨id, []⟩) : w.flush = (.ok (), w) := by
  simp [flush, buffer]

section

variable (buffer : w.buffer = some ⟨id, records⟩) (waiting : records ≠ [])
include buffer waiting

/-- Waiting records are handed on as one page, after which the buffer is empty. -/
theorem flush_of_taken (taken : w.sink.tell (.add records) = (.ok (), t)) :
    w.flush = (.ok (),
      { w with sink := t, buffer := some ⟨id, []⟩, pagesTaken := w.pagesTaken + 1 }) := by
  rw [flush, buffer]
  simp [waiting, tell_eq, taken, Buffer.cleared, Except.mapError]

/-- The buffer is empty also if the page was refused. -/
theorem flush_of_refused (refused : w.sink.tell (.add records) = (.error failure, t)) :
    w.flush = (.error (.failure failure), { w with sink := t, buffer := some ⟨id, []⟩ }) := by
  rw [flush, buffer]
  simp [waiting, tell_eq, refused, Buffer.cleared, Except.mapError]

end

section

variable (hw : w = start.holding id s records)
include hw

/-- A row that does not complete a page is sealed without a call of the sink. -/
theorem sealRow_of_short (short : (Page.rest start.pageSize records).length + 1 < start.pageSize) :
    { w with row := record }.sealRow = (.ok (), start.holding id s (records ++ [record])) := by
  have after : start.holding id s (records ++ [record]) =
      { start.holding id s records with
        buffer := some ⟨id, Page.rest start.pageSize records ++ [record]⟩
        sealedRecords := start.sealedRecords + records.length + 1 } := by
    rw [holding, (Page.full_append_of_short record short).2, Page.div_succ_of_short record short,
      List.length_append, List.length_singleton, holding, Nat.add_assoc]
  subst hw
  rw [after, sealRow]
  simp only [holding, Buffer.push, List.length_append, List.length_singleton]
  rw [if_neg (by omega)]

section

variable (last : (Page.rest start.pageSize records).length + 1 = start.pageSize)
include last

/-- A row that completes a page is sealed and the page handed on. -/
theorem sealRow_of_taken
    (taken : s.tell (.add (Page.rest start.pageSize records ++ [record])) = (.ok (), t)) :
    { w with row := record }.sealRow = (.ok (), start.holding id t (records ++ [record])) := by
  have after : start.holding id t (records ++ [record]) =
      { start.holding id t records with
        buffer := some ⟨id, []⟩
        sealedRecords := start.sealedRecords + records.length + 1
        pagesTaken := start.pagesTaken + records.length / start.pageSize + 1 } := by
    rw [holding, (Page.full_append_of_last record last).2, Page.div_succ_of_last record last,
      List.length_append, List.length_singleton, holding, Nat.add_assoc, Nat.add_assoc]
  subst hw
  rw [after, sealRow]
  simp only [holding, Buffer.push, List.length_append, List.length_singleton]
  rw [if_pos (by omega), flush_of_taken rfl (by simp) taken]

theorem sealRow_of_refused
    (refused : s.tell (.add (Page.rest start.pageSize records ++ [record])) = (.error failure, t)) :
    ∃ w', { w with row := record }.sealRow = (.error (.failure failure), w') ∧ w'.Keeps id t := by
  subst hw
  rw [sealRow]
  simp only [holding, Buffer.push, List.length_append, List.length_singleton]
  rw [if_pos (by omega), flush_of_refused rfl (by simp) refused]
  exact ⟨_, rfl, rfl, _, rfl⟩

end

/-- A writer that seals one more record hands on the pages that are then full and goes on, or its
sink refuses the last of them. -/
theorem sealRow_holding (record : Record) (pos : 0 < start.pageSize)
    (told : start.sink.tellAll (handovers start.pageSize records) = (.ok (), s)) :
    (∃ t, start.sink.tellAll (handovers start.pageSize (records ++ [record])) = (.ok (), t) ∧
      { w with row := record }.sealRow = (.ok (), start.holding id t (records ++ [record]))) ∨
    (∃ failure t w', start.sink.tellAll (handovers start.pageSize (records ++ [record])) =
        (.error failure, t) ∧
      { w with row := record }.sealRow = (.error (.failure failure), w') ∧ w'.Keeps id t) := by
  rcases Nat.lt_or_eq_of_le (Page.length_rest_lt pos records) with short | last
  · refine .inl ⟨s, ?_, sealRow_of_short hw short⟩
    rw [handovers, (Page.full_append_of_short record short).1]
    exact told
  · have script : handovers start.pageSize (records ++ [record]) =
        handovers start.pageSize records ++
          [.add (Page.rest start.pageSize records ++ [record])] := by
      rw [handovers, (Page.full_append_of_last record last).1, List.map_append]
      rfl
    rw [script, Sink.tellAll_append_of_ok told, Sink.tellAll_singleton]
    cases answer : s.tell (.add (Page.rest start.pageSize records ++ [record])) with
    | mk answered t =>
        cases answered with
        | ok => exact .inl ⟨t, rfl, sealRow_of_taken hw last answer⟩
        | error failure =>
            obtain ⟨w', sealed, keeps⟩ := sealRow_of_refused hw last answer
            exact .inr ⟨failure, t, w', rfl, sealed, keeps⟩

/-- Finishing hands on the last page and says farewell, up to the first call that is refused. -/
theorem finish_holding
    (told : start.sink.tellAll (handovers start.pageSize records) = (.ok (), s)) :
    ∃ w', w.finish =
        ((start.sink.tellAll (farewell start.pageSize records)).1.mapError .failure, w') ∧
      w'.Keeps id (start.sink.tellAll (farewell start.pageSize records)).2 := by
  have buffer : w.buffer = some ⟨id, Page.rest start.pageSize records⟩ := by rw [hw, holding]
  have sink : w.sink = s := by rw [hw, holding]
  have isOpen : ¬ w.isClosed = true := by simp [isClosed, buffer]
  rw [farewell_eq, Sink.tellAll_append_of_ok told, finish, if_neg isOpen]
  by_cases empty : Page.rest start.pageSize records = []
  · rw [empty] at buffer ⊢
    rw [flush_of_empty buffer, ← sink]
    simp only [List.isEmpty_nil, if_true, List.nil_append, Sink.tellAll_singleton]
    exact ⟨_, rfl, rfl, _, buffer⟩
  · rw [List.isEmpty_eq_false_iff.mpr empty]
    simp only [Bool.false_eq_true, if_false, List.singleton_append]
    rw [Sink.tellAll]
    cases answer : s.tell (.add (Page.rest start.pageSize records)) with
    | mk answered t =>
        rw [← sink] at answer
        cases answered with
        | ok =>
            rw [flush_of_taken buffer empty answer]
            simp only [Sink.tellAll_singleton]
            exact ⟨_, rfl, rfl, _, rfl⟩
        | error failure =>
            rw [flush_of_refused buffer empty answer]
            exact ⟨_, rfl, rfl, _, rfl⟩

end

theorem close_of_closed (buffer : w.buffer = none) : w.close pool = (.ok (), w, pool) := by
  rw [close, buffer]

/-- Closing gives the buffer back and closes the sink, whose refusal is the only thing that can be
reported. -/
theorem close_of_lent {b : Buffer} (buffer : w.buffer = some b)
    (out : pool.loan? b.id = some loan) :
    w.close pool = ((w.sink.tell .close).1.mapError .failure,
      { w with buffer := none, sink := (w.sink.tell .close).2 }, pool.settle loan) := by
  rw [close, buffer]
  simp only [BufferPool.release_of_loan out, tell_eq]
  rcases w.sink.tell .close with ⟨failure | _, t⟩ <;> rfl

theorem close_of_keeps (h : w.Keeps id s) (out : pool.loan? id = some loan) :
    ∃ closed, w.close pool =
        ((s.tell .close).1.mapError .failure, closed, pool.settle loan) ∧
      closed.sink = (s.tell .close).2 := by
  obtain ⟨rfl, records, buffer⟩ := h
  exact ⟨_, close_of_lent buffer out, rfl⟩

end Writer

end TypedPages
