import Mathlib.Algebra.Order.Floor.Div
import Mathlib.GroupTheory.GroupAction.Ring
import TypedPages.Proofs.Counters

/-!
# The totals of a finish

A finish reports the totals so far. Without failures as many records have gone out as have come in,
in as few pages as they need. But each finish hands on the page that is not full yet, so the pages
of a projector that goes on afterwards are those of each stretch between two finishes.
-/

namespace TypedPages

/-- Full pages and a rest that is shorter than a page need one page more if there is a rest. -/
theorem Page.ceilDiv_of_rest {size rest : Nat} (short : rest < size) (full : Nat) :
    (full * size + rest) ⌈/⌉ size = full + if rest = 0 then 0 else 1 := by
  have pos : 0 < size := by omega
  rw [Nat.ceilDiv_eq_add_pred_div, Nat.add_assoc, Nat.add_sub_assoc (by omega),
    Nat.mul_comm, Nat.mul_add_div pos]
  split
  · rw [Nat.div_eq_of_lt (by omega)]
  · apply congrArg (full + ·)
    exact Nat.div_eq_of_lt_le (by omega) (by omega)

namespace Writer

variable {w w' : Writer} {calls : List SinkCall} {records : List Record}

/-- If no page is refused, the pages that are taken are those that the records fill. -/
theorem Packs.exists_full (h : w.Packs w' calls [] records) (isOpen : w'.isClosed = false) :
    ∃ full, w'.pagesTaken = w.pagesTaken + full ∧
      full * w.pageSize + w'.pending.length = w.pending.length + records.length := by
  refine ⟨(SinkCall.pages calls).length, ?_, ?_⟩
  · rw [h.taken, Sink.taken_eq_pages h.refused]
  · have split := congrArg List.length (h.waits isOpen).2
    rw [List.length_append, List.length_append, h.length_flatten] at split
    exact split

/-- A finish that succeeds adds a page for what waited. -/
theorem pagesTaken_finish (isOpen : w.isClosed = false) (done : w.finish.1 = .ok ()) :
    w.finish.2.pagesTaken = w.pagesTaken + if w.pending.length = 0 then 0 else 1 := by
  obtain ⟨calls, gains, -, offered⟩ := gains_finish isOpen
  have unrefused : w.sink.refusals calls = [] := by
    rw [gains.refused, done]
    rfl
  rw [gains.taken, Sink.taken_eq_pages unrefused, offered]
  cases w.pending <;> rfl

end Writer

namespace Projector

/-- The numbers of records that steps feed between two finishes, and after the last. So many records
were fed since the last one before. -/
def stretches : Nat → List Step → List Nat
  | fed, [] => [fed]
  | fed, .feed page :: steps => stretches (fed + page.length) steps
  | fed, .finish :: steps => fed :: stretches 0 steps
  | fed, .close :: steps => stretches fed steps

/-- Without a finish there is one stretch. -/
theorem exists_stretches_eq {steps : List Step} (unfinished : .finish ∉ steps) (fed : Nat) :
    ∃ all, stretches fed steps = [all] := by
  induction steps generalizing fed with
  | nil => exact ⟨fed, rfl⟩
  | cons step steps ih =>
      rw [List.mem_cons, not_or] at unfinished
      obtain ⟨other, others⟩ := unfinished
      cases step with
      | feed page => exact ih others (fed + page.length)
      | finish => exact absurd rfl other
      | close => exact ih others fed

variable {input output : Schema} {sink : Sink} {p : Projector} {steps : List Step}

section

variable (h : p.Working input output sink) (pool : BufferPool)
include h

/-- What a page adds if it is fed without an error: some pages that are full, and its records. -/
theorem Working.exists_full_feed [Host] {page : Page} (fed : (p.feed page).1 = .ok ()) :
    let after := (p.step pool (.feed page)).2.1.writer
    after.pageSize = p.writer.pageSize ∧
    after.sealedRecords = p.writer.sealedRecords + page.length ∧
    ∃ full, after.pagesTaken = p.writer.pagesTaken + full ∧
      full * p.writer.pageSize + after.pending.length = p.writer.pending.length + page.length := by
  obtain ⟨calls, sealed, sealing, writer, -⟩ := h.ready.progress_feed h.short page
  rw [fed] at sealing writer
  have isOpen := (h.ready.feed page).isClosed_writer
  have full := writer.exists_full isOpen
  have count := writer.count
  rw [sealing.length_of_ok] at full count
  exact ⟨writer.pageSize, count, full⟩

/-- What a finish adds if it succeeds: the pages since the last finish are then as many as their
records need. Of these, `full` pages were handed on before. -/
theorem Working.taken_finish [Host] (done : p.finish.1 = .ok ()) (full : Nat) :
    let after := (p.step pool .finish).2.1.writer
    after.pageSize = p.writer.pageSize ∧ after.sealedRecords = p.writer.sealedRecords ∧
    after.pending = [] ∧
    after.pagesTaken + full = p.writer.pagesTaken +
      (full * p.writer.pageSize + p.writer.pending.length) ⌈/⌉ p.writer.pageSize := by
  have isOpen := h.ready.isClosed_writer
  obtain ⟨calls, gains, nothing, -⟩ := Writer.gains_finish isOpen
  refine ⟨gains.pageSize, gains.count, nothing, ?_⟩
  show p.writer.finish.2.pagesTaken + full = _
  rw [Writer.pagesTaken_finish isOpen done, Page.ceilDiv_of_rest h.short]
  omega

/-- A run that ends with a finish and in which nothing fails has taken as many pages as the
stretches need, and sealed all records. Before it, the records that were fed since the last finish
had filled `full` pages. -/
theorem Working.totals [Host] {size fed full : Nat} (sized : p.writer.pageSize = size)
    (filled : full * size + p.writer.pending.length = fed)
    (answers : ∀ t ∈ p.turns pool (steps ++ [.finish]), t.answer = .ok ()) :
    let now := (p.after pool (steps ++ [.finish])).1.writer
    now.pagesTaken + full =
      p.writer.pagesTaken + ((stretches fed steps).map (· ⌈/⌉ size)).sum ∧
    now.sealedRecords + fed = p.writer.sealedRecords + (stretches fed steps).sum := by
  -- What is filled and what waits make up the stretch so far; a finish starts a new one at zero.
  induction steps generalizing p pool fed full with
  | nil =>
      obtain ⟨-, count, -, taken⟩ := h.taken_finish pool (answers _ List.mem_cons_self) full
      rw [sized, filled] at taken
      refine ⟨taken, ?_⟩
      show (p.step pool .finish).2.1.writer.sealedRecords + fed = p.writer.sealedRecords + fed
      rw [count]
  | cons step steps ih =>
      obtain ⟨first, others⟩ := List.forall_mem_cons.mp answers
      intro now
      have later : now = ((p.step pool step).2.1.after (p.step pool step).2.2
        (steps ++ [.finish])).1.writer := rfl
      cases step with
      | feed page =>
          have next := h.step pool (.feed page) nofun
          obtain ⟨same, count, more, taken, grown⟩ := h.exists_full_feed pool first
          have filled' : (full + more) * size +
              (p.step pool (.feed page)).2.1.writer.pending.length = fed + page.length := by
            rw [sized] at grown
            rw [Nat.add_mul]
            omega
          obtain ⟨pages, records⟩ := ih next _ (same.trans sized) filled' others
          rw [stretches, later]
          constructor
          · omega
          · omega
      | finish =>
          have next := h.step pool .finish nofun
          obtain ⟨same, count, nothing, taken⟩ := h.taken_finish pool first full
          have filled' : 0 * size + (p.step pool .finish).2.1.writer.pending.length = 0 := by
            rw [nothing, Nat.zero_mul]
            rfl
          obtain ⟨pages, records⟩ := ih next _ (same.trans sized) filled' others
          rw [sized, filled] at taken
          rw [stretches, later, List.map_cons, List.sum_cons, List.sum_cons]
          constructor
          · omega
          · omega
      | close =>
          obtain ⟨t, member, failed⟩ := (h.shut_close pool).exists_error (p.close pool).2.2 steps
          exact absurd (others t member) failed

end

/-- A projector that has just been made is at work, and has done nothing yet. -/
theorem working_of_parts {pool : BufferPool} {cursor : Cursor}
    (opened : ofParts cursor (Writer.ofPool pool output sink).1 = .ok p) :
    p.Working cursor.schema output sink ∧ p.writer = (Writer.ofPool pool output sink).1 ∧
      p.pages = 0 ∧ p.records = 0 := by
  have ready := ready_of_parts (Writer.sound_ofPool pool output sink) rfl opened
  obtain ⟨table, -, rfl⟩ := map_eq_ok_iff.mp opened
  exact ⟨⟨ready, rfl, pool.pageSize_pos⟩, rfl, rfl, rfl⟩

/-- If nothing fails, the totals since the projector was made are those of the stretches. -/
theorem totals_of_parts [Host] {pool : BufferPool} {cursor : Cursor}
    (opened : ofParts cursor (Writer.ofPool pool output sink).1 = .ok p) (lent : BufferPool)
    (answers : ∀ t ∈ p.turns lent (steps ++ [.finish]), t.answer = .ok ()) :
    let now := (p.after lent (steps ++ [.finish])).1.writer
    now.pagesTaken = ((stretches 0 steps).map (· ⌈/⌉ pool.pageSize)).sum ∧
    now.sealedRecords = (stretches 0 steps).sum := by
  obtain ⟨working, writer, -⟩ := working_of_parts opened
  have sized : p.writer.pageSize = pool.pageSize := congrArg Writer.pageSize writer
  have filled : 0 * pool.pageSize + p.writer.pending.length = 0 := by
    rw [writer, Nat.zero_mul]
    rfl
  obtain ⟨pages, records⟩ := working.totals lent sized filled answers
  rw [writer] at pages records
  exact ⟨pages.trans (Nat.zero_add _), records.trans (Nat.zero_add _)⟩

theorem countP_isRefused_eq_zero {turns : List Turn} (answers : ∀ t ∈ turns, t.answer = .ok ()) :
    turns.countP Turn.isRefused = 0 := by
  apply List.countP_eq_zero.mpr
  intro t member
  rw [Turn.isRefused, Turn.failure?, answers t member]
  cases t.step <;> exact Bool.false_ne_true

/-- The counters are right in every state. A projector is made with a new writer, and then any steps
are performed, whatever comes of each. It has counted the pages that were fed without an error, and
its writer the pages that the sink has taken and the records that were sealed. As long as it was not
closed, these are the records of all pages that were offered and those that wait. The records that
the projector has not counted are as many as the pages that it was fed and that failed with the
sink.

If nothing fails, a finish reports that all records that were fed have come in and gone out. The
pages that have gone out are, for each stretch between two finishes, as few as hold its records, and
so as few as hold all records if there was no finish before. -/
theorem counters_tell [Host] {pool : BufferPool} {cursor : Cursor} {start : Projector}
    (opened : ofParts cursor (Writer.ofPool pool output sink).1 = .ok start) (steps : List Step) :
    let lent := (Writer.ofPool pool output sink).2
    let turns := start.turns lent steps
    let now := (start.after lent steps).1
    (∃ calls sealed, now.writer.sink = sink.hearing calls ∧
      List.Forall₂ (fun t own => ∃ calls, Turn.Does cursor.schema output t calls own)
        turns sealed ∧
      now.pages = turns.countP Turn.isFed ∧
      now.writer.pagesTaken = (sink.taken calls).length ∧
      now.writer.sealedRecords = sealed.flatten.length ∧
      (.close ∉ steps → (SinkCall.pages calls).flatten ++ now.writer.pending = sealed.flatten) ∧
      now.writer.sealedRecords = now.records + turns.countP Turn.isRefused) ∧
    ∀ early, steps = early ++ [.finish] → (∀ t ∈ turns, t.answer = .ok ()) →
      let fed := stretches 0 early
      let out := (fed.map (· ⌈/⌉ pool.pageSize)).sum
      now.finishEvent.fields = [("pages_in", .ofNat (turns.countP Turn.isFed)),
        ("records_in", .ofNat fed.sum), ("records_out", .ofNat fed.sum),
        ("pages_out", .ofNat out)] ∧
      (.finish ∉ early → out = fed.sum ⌈/⌉ pool.pageSize) := by
  intro lent turns now
  obtain ⟨working, writer, noPages, noRecords⟩ := working_of_parts opened
  obtain ⟨calls, sealed, each, gains, pages, records⟩ := accounted_after (.inl working) lent steps
  have count : now.writer.sealedRecords = sealed.flatten.length := by
    rw [gains.count, writer]
    exact Nat.zero_add _
  rw [noPages, Nat.zero_add] at pages
  rw [noRecords, Nat.zero_add, ← count] at records
  have sinkAfter := gains.sink
  have taken := gains.taken
  rw [writer] at sinkAfter taken
  refine ⟨⟨calls, sealed, sinkAfter, each, pages, taken.trans (Nat.zero_add _), count, ?_,
    records.symm⟩, ?_⟩
  · intro unclosed
    have isOpen := (working.after lent unclosed).ready.isClosed_writer
    have split := (gains.waits isOpen).2
    rw [writer] at split
    exact split
  · rintro early rfl answers fed out
    obtain ⟨needed, all⟩ := totals_of_parts opened lent answers
    rw [countP_isRefused_eq_zero answers, Nat.add_zero] at records
    constructor
    · show now.finishEvent.fields = [_, (_, .ofNat (stretches 0 early).sum),
        (_, .ofNat (stretches 0 early).sum), (_, .ofNat (List.sum _))]
      rw [finishEvent, ← all, ← needed, ← pages, ← records]
    · intro unfinished
      obtain ⟨whole, one⟩ := exists_stretches_eq unfinished 0
      show ((stretches 0 early).map (· ⌈/⌉ pool.pageSize)).sum =
        (stretches 0 early).sum ⌈/⌉ pool.pageSize
      rw [one]
      rfl

namespace Sample

def numbers : Schema := ⟨[⟨"number", .long⟩], by decide⟩

/-- Pages of one column pass through unchanged, into pages of two records. -/
def passing (sink : Sink) : Projector :=
  ⟨.ofSchema numbers, (Writer.ofPool pool numbers sink).1, [some 0], false, 0, 0⟩

/-- A page that the sink refuses before all of its records have gone through, one with a faulty
record, and the end. -/
def troubled : List Step :=
  [.feed [[.long 1], [.long 2], [.long 3]], .feed [[.long 4], [.string "5"]], .close]

/-- Pages of one record, between which the stream is finished. -/
def halting : List Step := [.feed [[.long 1]], .finish, .feed [[.long 2]]]

def willing : Sink := .fresh fun _ => none

/-- What has become of the projector by steps. -/
def ended (sink : Sink) (steps : List Step) : Projector :=
  ((passing sink).after (Writer.ofPool pool numbers sink).2 steps).1

theorem unfailing : ∀ t ∈ (passing willing).turns (Writer.ofPool pool numbers willing).2
    (halting ++ [.finish]), t.answer = .ok () := by
  have each : List.Forall (fun t => t.answer = .ok ()) ((passing willing).turns
      (Writer.ofPool pool numbers willing).2 (halting ++ [.finish])) := ⟨rfl, rfl, rfl, rfl⟩
  exact List.forall_iff_forall_mem.mp each

end Sample

/-- Of three records that were sealed one is not counted as gone through, since its page was
refused. Two finishes hand on two pages of one record each. -/
theorem sample_counters_tell :
    (Sample.ended Sample.unwilling Sample.troubled).writer.sealedRecords =
      (Sample.ended Sample.unwilling Sample.troubled).records + 1 ∧
    (Sample.ended Sample.willing (Sample.halting ++ [.finish])).finishEvent.fields =
      [("pages_in", .ofNat 2), ("records_in", .ofNat 2), ("records_out", .ofNat 2),
        ("pages_out", .ofNat 2)] := by
  have opened (sink : Sink) : ofParts (.ofSchema Sample.numbers)
      (Writer.ofPool Sample.pool Sample.numbers sink).1 = .ok (Sample.passing sink) := rfl
  constructor
  · obtain ⟨⟨_, _, -, -, -, -, -, -, records⟩, -⟩ :=
      counters_tell (opened Sample.unwilling) Sample.troubled
    exact records
  · obtain ⟨-, totals⟩ := counters_tell (opened Sample.willing) (Sample.halting ++ [.finish])
    obtain ⟨fields, -⟩ := totals Sample.halting rfl Sample.unfailing
    refine fields.trans ?_
    simp only [stretches, Sample.halting, List.map_cons, Nat.ceilDiv_eq_add_pred_div]
    rfl

/-- The totals of a finish do not always state as few pages as hold all records. -/
theorem not_pages_out_eq_ceilDiv :
    ¬ ∀ (pool : BufferPool) (cursor : Cursor) (output : Schema) (sink : Sink) (start : Projector)
        (early : List Step),
      ofParts cursor (Writer.ofPool pool output sink).1 = .ok start →
      (∀ t ∈ start.turns (Writer.ofPool pool output sink).2 (early ++ [.finish]),
        t.answer = .ok ()) →
      let now := (start.after (Writer.ofPool pool output sink).2 (early ++ [.finish])).1
      now.writer.pagesTaken = now.writer.sealedRecords ⌈/⌉ pool.pageSize := by
  intro least
  have same : (Sample.ended Sample.willing (Sample.halting ++ [.finish])).writer.pagesTaken =
      (Sample.ended Sample.willing (Sample.halting ++ [.finish])).writer.sealedRecords ⌈/⌉
        Sample.pool.pageSize :=
    least Sample.pool (.ofSchema Sample.numbers) Sample.numbers Sample.willing (Sample.passing _)
      Sample.halting rfl Sample.unfailing
  have pages : (Sample.ended Sample.willing (Sample.halting ++ [.finish])).writer.pagesTaken = 2 :=
    rfl
  have records :
      (Sample.ended Sample.willing (Sample.halting ++ [.finish])).writer.sealedRecords = 2 := rfl
  have size : Sample.pool.pageSize = 2 := rfl
  rw [pages, records, size, Nat.ceilDiv_eq_add_pred_div] at same
  omega

end Projector

end TypedPages
