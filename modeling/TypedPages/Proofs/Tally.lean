import TypedPages.Proofs.Ledger

/-!
# What work adds to the counters

A writer counts the records that it has sealed and the pages that its sink has taken. The counters
move at different moments: a record is counted before its page is offered, a page after it was
taken. All work of a writer is described here by one relation, from which both counters can be read
off at any time, whatever was refused in between.
-/

namespace TypedPages

namespace Sink

variable {s : Sink} {calls : List SinkCall}

theorem offers_append (s : Sink) (calls later : List SinkCall) :
    s.offers (calls ++ later) = s.offers calls ++ (s.hearing calls).offers later := by
  rw [offers, replies_append, List.filterMap_append]
  rfl

theorem taken_append (s : Sink) (calls later : List SinkCall) :
    s.taken (calls ++ later) = s.taken calls ++ (s.hearing calls).taken later := by
  rw [taken, offers_append, List.filter_append, List.map_append]
  rfl

theorem refusals_append (s : Sink) (calls later : List SinkCall) :
    s.refusals (calls ++ later) = s.refusals calls ++ (s.hearing calls).refusals later := by
  rw [refusals, replies_append, List.filterMap_append]
  rfl

theorem refusals_singleton (s : Sink) (call : SinkCall) :
    s.refusals [call] = (s.refuses (s.calls ++ [call])).toList := by
  have last := s.refusals_concat [] call
  rw [List.nil_append, hearing_nil] at last
  exact last

/-- A page is taken if it is not refused. -/
theorem taken_singleton_add (s : Sink) (page : Page) : s.taken [.add page] =
    if (s.refuses (s.calls ++ [.add page])).isNone then [page] else [] := by
  cases refusal : s.refuses (s.calls ++ [.add page]) <;>
    simp [taken, offers, replies, SinkCall.page?, refusal]

/-- A call that hands over no page adds none. -/
theorem taken_singleton_of_pageless {call : SinkCall} (pageless : call.page? = none) :
    s.taken [call] = [] := by
  simp [taken, offers, replies, pageless]

/-- Where no call is refused, all pages are taken. -/
theorem taken_eq_pages (unrefused : s.refusals calls = []) :
    s.taken calls = SinkCall.pages calls := by
  have all : ∀ offer ∈ s.offers calls, offer.2.isNone = true := by
    intro offer member
    obtain ⟨⟨call, refusal⟩, reply, own⟩ := List.mem_filterMap.mp member
    have none : refusal = none := List.filterMap_eq_nil_iff.mp unrefused _ reply
    obtain ⟨page, -, rfl⟩ := Option.map_eq_some_iff.mp own
    rw [none]
    rfl
  rw [taken, List.filter_eq_self.mpr all, map_fst_offers]

end Sink

namespace Writer

variable {w w' w'' : Writer} {calls calls' : List SinkCall} {failures failures' : List Failure}
variable {records records' : List Record} {b : Buffer}

/-- One writer has become the other by sealing the records. Meanwhile its sink received the calls
and refused some with the failures. What was offered and what now waits is what waited before, and
then the records; but nothing waits in a writer that is closed. -/
structure Gains (w w' : Writer) (calls : List SinkCall) (failures : List Failure)
    (records : List Record) : Prop where
  sink : w'.sink = w.sink.hearing calls
  refused : w.sink.refusals calls = failures
  pageSize : w'.pageSize = w.pageSize
  taken : w'.pagesTaken = w.pagesTaken + (w.sink.taken calls).length
  count : w'.sealedRecords = w.sealedRecords + records.length
  waits : w'.isClosed = false →
    w.isClosed = false ∧ (SinkCall.pages calls).flatten ++ w'.pending = w.pending ++ records

theorem Gains.refl (w : Writer) : w.Gains w [] [] [] :=
  ⟨(Sink.hearing_nil w.sink).symm, rfl, rfl, rfl, rfl,
    fun isOpen => ⟨isOpen, (List.append_nil w.pending).symm⟩⟩

theorem Gains.trans (h : w.Gains w' calls failures records)
    (h' : w'.Gains w'' calls' failures' records') :
    w.Gains w'' (calls ++ calls') (failures ++ failures') (records ++ records') := by
  constructor
  · rw [h'.sink, h.sink, Sink.hearing_hearing]
  · rw [Sink.refusals_append, h.refused, ← h.sink, h'.refused]
  · exact h'.pageSize.trans h.pageSize
  · rw [h'.taken, h.taken, h.sink, Sink.taken_append, List.length_append, Nat.add_assoc]
  · rw [h'.count, h.count, List.length_append, Nat.add_assoc]
  · intro isOpen
    obtain ⟨isOpen', split'⟩ := h'.waits isOpen
    obtain ⟨isOpen'', split⟩ := h.waits isOpen'
    refine ⟨isOpen'', ?_⟩
    calc (SinkCall.pages (calls ++ calls')).flatten ++ w''.pending
        = (SinkCall.pages calls).flatten ++ ((SinkCall.pages calls').flatten ++ w''.pending) := by
          rw [SinkCall.pages_append, List.flatten_append, List.append_assoc]
      _ = (SinkCall.pages calls).flatten ++ w'.pending ++ records' := by
          rw [split', List.append_assoc]
      _ = w.pending ++ (records ++ records') := by
          rw [split, List.append_assoc]

/-- Besides, the writer has offered nothing but full pages, and a page that is not full waits. -/
structure Packs (w w' : Writer) (calls : List SinkCall) (failures : List Failure)
    (records : List Record) : Prop extends w.Gains w' calls failures records where
  full : ∀ call ∈ calls, ∃ page, call = .add page ∧ page.length = w.pageSize
  short : w'.pending.length < w'.pageSize

theorem Packs.refl (short : w.pending.length < w.pageSize) : w.Packs w [] [] [] :=
  ⟨.refl w, by simp, short⟩

theorem Packs.trans (h : w.Packs w' calls failures records)
    (h' : w'.Packs w'' calls' failures' records') :
    w.Packs w'' (calls ++ calls') (failures ++ failures') (records ++ records') := by
  refine ⟨h.toGains.trans h'.toGains, ?_, h'.short⟩
  intro call member
  rcases List.mem_append.mp member with early | late
  · exact h.full call early
  · rw [← h.pageSize]
    exact h'.full call late

/-- The row is not gained before it is sealed: what it held makes no difference. -/
theorem Packs.of_row {row : Record} (h : { w with row }.Packs w' calls failures records) :
    w.Packs w' calls failures records :=
  ⟨⟨h.sink, h.refused, h.pageSize, h.taken, h.count, h.waits⟩, h.full, h.short⟩

theorem packs_row (short : w.pending.length < w.pageSize) (row : Record) :
    w.Packs { w with row } [] [] [] :=
  have still := Packs.refl short
  ⟨⟨still.sink, still.refused, rfl, still.taken, still.count, still.waits⟩, still.full, short⟩

/-- All that the sink has received are pages. -/
theorem Packs.calls_eq (h : w.Packs w' calls failures records) :
    calls = (SinkCall.pages calls).map .add := by
  have adds := h.full
  clear h
  induction calls with
  | nil => rfl
  | cons call calls ih =>
      obtain ⟨⟨page, rfl, -⟩, others⟩ := List.forall_mem_cons.mp adds
      exact congrArg (.add page :: ·) (ih others)

/-- Full pages count their records. -/
theorem Packs.length_flatten (h : w.Packs w' calls failures records) :
    (SinkCall.pages calls).flatten.length = (SinkCall.pages calls).length * w.pageSize := by
  have same : ∀ n ∈ (SinkCall.pages calls).map List.length, n = w.pageSize := by
    intro n member
    obtain ⟨page, offered, rfl⟩ := List.mem_map.mp member
    obtain ⟨call, called, own⟩ := List.mem_filterMap.mp offered
    obtain ⟨page', rfl, full⟩ := h.full call called
    obtain rfl : page' = page := Option.some.inj own
    exact full
  rw [List.length_flatten, List.eq_replicate_of_mem same, List.length_map, List.sum_replicate_nat]

/-- A call of the sink that hands over no page. -/
theorem gains_tell (w : Writer) (call : SinkCall) (pageless : call.page? = none) :
    w.Gains (w.tell call).2 [call] (passedOn? (w.tell call).1).toList [] := by
  obtain ⟨after, answer⟩ := w.tell_spec call
  rw [after, answer]
  have none : SinkCall.pages [call] = [] := by
    simp [SinkCall.pages, pageless]
  refine ⟨rfl, Sink.refusals_singleton w.sink call, rfl, ?_, rfl, fun isOpen => ⟨isOpen, ?_⟩⟩
  · rw [Sink.taken_singleton_of_pageless pageless]
    rfl
  · rw [none]
    exact (List.append_nil w.pending).symm

theorem gains_pushed (buffer : w.buffer = some b) : w.Gains (w.pushed b) [] [] [w.row] := by
  refine ⟨(Sink.hearing_nil w.sink).symm, rfl, rfl, rfl, rfl, fun _ => ⟨?_, ?_⟩⟩
  · exact isClosed_of_buffer buffer
  · rw [pending_of_buffer buffer]
    rfl

theorem gains_flush_of_waiting (buffer : w.buffer = some b) (waiting : b.records ≠ []) :
    w.Gains w.flush.2 [.add b.records] (passedOn? w.flush.1).toList [] := by
  have isOpen := isClosed_of_buffer buffer
  have split : (SinkCall.pages [.add b.records]).flatten ++ [] = w.pending ++ [] := by
    rw [pending_of_buffer buffer]
    simp [SinkCall.pages, SinkCall.page?]
  have refused := Sink.refusals_singleton w.sink (.add b.records)
  have taken := Sink.taken_singleton_add w.sink b.records
  cases refusal : w.sink.refuses (w.sink.calls ++ [.add b.records]) with
  | none =>
      rw [refusal] at refused taken
      rw [flush_of_taken buffer waiting (Sink.tell_of_taken refusal)]
      exact ⟨rfl, refused, rfl, by rw [taken]; rfl, rfl, fun _ => ⟨isOpen, split⟩⟩
  | some failure =>
      rw [refusal] at refused taken
      rw [flush_of_refused buffer waiting (Sink.tell_of_refused refusal)]
      exact ⟨rfl, refused, rfl, by rw [taken]; rfl, rfl, fun _ => ⟨isOpen, split⟩⟩

/-- Where nothing waits, there is nothing to hand on. -/
theorem flush_of_idle (idle : w.pending = []) : w.flush = (.ok (), w) := by
  cases buffer : w.buffer with
  | none => rw [flush, buffer]
  | some b =>
      rw [pending_of_buffer buffer] at idle
      exact flush_of_empty (by rw [buffer, ← idle])

theorem exists_waiting (waits : w.pending ≠ []) :
    ∃ b, w.buffer = some b ∧ b.records = w.pending := by
  cases buffer : w.buffer with
  | none => exact absurd (by rw [pending, buffer]; rfl) waits
  | some b => exact ⟨b, rfl, (pending_of_buffer buffer).symm⟩

/-- Whoever hands on what waits can only fail with the sink. -/
theorem answer_flush (w : Writer) :
    w.flush.1 = .ok () ∨ ∃ failure, w.flush.1 = .error (.failure failure) := by
  by_cases idle : w.pending = []
  · rw [flush_of_idle idle]
    exact .inl rfl
  · obtain ⟨b, buffer, waits⟩ := exists_waiting idle
    rw [← waits] at idle
    cases refusal : w.sink.refuses (w.sink.calls ++ [.add b.records]) with
    | none =>
        rw [flush_of_taken buffer idle (Sink.tell_of_taken refusal)]
        exact .inl rfl
    | some failure =>
        rw [flush_of_refused buffer idle (Sink.tell_of_refused refusal)]
        exact .inr ⟨failure, rfl⟩

/-- A flush hands on what waits in one page. -/
theorem gains_flush (w : Writer) :
    ∃ calls, w.Gains w.flush.2 calls (passedOn? w.flush.1).toList [] ∧ w.flush.2.pending = [] ∧
      SinkCall.pages calls = if w.pending = [] then [] else [w.pending] := by
  by_cases idle : w.pending = []
  · rw [flush_of_idle idle, if_pos idle]
    exact ⟨[], .refl w, idle, rfl⟩
  · obtain ⟨b, buffer, waits⟩ := exists_waiting idle
    rw [if_neg idle, ← waits]
    rw [← waits] at idle
    obtain ⟨⟨n, after⟩, -⟩ := flush_of_waiting buffer idle
    refine ⟨[.add b.records], gains_flush_of_waiting buffer idle, ?_, rfl⟩
    rw [after]
    rfl

/-- Sealing the row gains it, also if the page that it completes is refused. -/
theorem packs_sealRow (buffer : w.buffer = some b) (short : w.pending.length < w.pageSize) :
    ∃ calls, w.Packs w.sealRow.2 calls (passedOn? w.sealRow.1).toList [w.row] := by
  rw [pending_of_buffer buffer] at short
  rw [sealRow_of_open buffer]
  split
  · have full : b.records.length + 1 = w.pageSize := by omega
    have waiting : (b.push w.row).records ≠ [] := by simp
    have flushed := gains_flush_of_waiting (w := w.pushed b) rfl waiting
    obtain ⟨⟨n, after⟩, -⟩ := flush_of_waiting (w := w.pushed b) rfl waiting
    refine ⟨[.add (b.push w.row).records], (gains_pushed buffer).trans flushed, ?_, ?_⟩
    · intro call member
      refine ⟨_, List.mem_singleton.mp member, ?_⟩
      rw [Buffer.records_push, List.length_append]
      exact full
    · rw [after]
      show 0 < w.pageSize
      omega
  · refine ⟨[], gains_pushed buffer, by simp, ?_⟩
    show (b.records ++ [w.row]).length < w.pageSize
    rw [List.length_append, List.length_singleton]
    omega

theorem answer_sealRow (buffer : w.buffer = some b) :
    w.sealRow.1 = .ok () ∨ ∃ failure, w.sealRow.1 = .error (.failure failure) := by
  rw [sealRow_of_open buffer]
  split
  · exact answer_flush _
  · exact .inl rfl

/-- Finishing hands on what waits, in one page, and gains no record. -/
theorem gains_finish (isOpen : w.isClosed = false) :
    ∃ calls, w.Gains w.finish.2 calls (passedOn? w.finish.1).toList [] ∧ w.finish.2.pending = [] ∧
      SinkCall.pages calls = if w.pending = [] then [] else [w.pending] := by
  have unclosed : ¬ w.isClosed = true := by
    rw [isOpen]
    exact Bool.false_ne_true
  obtain ⟨calls, flushed, nothing, offered⟩ := w.gains_flush
  rw [Writer.finish, if_neg unclosed]
  split <;> rename_i result <;> rw [result] at flushed nothing
  · refine ⟨calls ++ [.finish], flushed.trans (gains_tell _ .finish rfl), nothing, ?_⟩
    rw [SinkCall.pages_append, offered]
    exact List.append_nil _
  · exact ⟨calls, flushed, nothing, offered⟩

/-- Closing gains nothing, and what waits is lost. -/
theorem gains_close (w : Writer) (pool : BufferPool) : ∃ calls,
    w.Gains (w.close pool).2.1 calls (passedOn? (w.close pool).1).toList [] := by
  cases buffer : w.buffer with
  | none =>
      rw [close_of_closed buffer]
      exact ⟨[], .refl w⟩
  | some b =>
      have emptied : w.Gains { w with buffer := none } [] [] [] :=
        ⟨(Sink.hearing_nil w.sink).symm, rfl, rfl, rfl, rfl, nofun⟩
      have told := emptied.trans (gains_tell { w with buffer := none } .close rfl)
      refine ⟨[.close], ?_⟩
      -- A pool that does not take the buffer answers with a violation, which is no failure.
      rw [Writer.close, buffer]
      cases loan : pool.loan? b.id <;> simp only [BufferPool.release, loan] <;>
        split <;> rename_i answer <;> rw [answer] at told <;> exact told

end Writer

end TypedPages
