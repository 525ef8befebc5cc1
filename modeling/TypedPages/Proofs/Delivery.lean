import TypedPages.Proofs.Transaction

/-!
# What arrives at the sink

If nothing fails, the sink receives the projections of all records in pages that are full but for
the last, however the records were split into pages before. If the source has a fault, the sink
receives the full pages of what came before it, and no more.
-/

namespace TypedPages

namespace Transaction

variable {pool : BufferPool} {config task : Document} {input output : Schema} {sink : Sink}
variable {accept : Option (Schema → Bool)} {id : String} {s : Selection} {report : Report}

section

variable (parsed : Selection.ofDocument config = .ok s)
variable (settled : ((Filter.removeColumns.propose config input).settle
  Filter.removeColumns.name accept).outcome = .ok (task, output))
include parsed settled

/-- What a sink receives from a source without a fault does not depend on how the source splits
its records into pages. -/
theorem sink_of_split [Host] {pages others : List Page} (same : others.flatten = pages.flatten)
    (clean : ∀ record ∈ pages.flatten, input.Admits s.retains record) :
    (run .removeColumns pool config input ⟨others, none⟩ sink accept id).sink =
      (run .removeColumns pool config input ⟨pages, none⟩ sink accept id).sink := by
  obtain ⟨_, t, _, _, _, told, ran, -⟩ :=
    run_of_course settled parsed pool sink id (.complete clean)
  obtain ⟨_, t', _, _, _, told', ran', -⟩ :=
    run_of_course settled parsed pool sink id (.complete (same ▸ clean))
  rw [same, told] at told'
  obtain ⟨rfl, rfl⟩ := Prod.mk.inj told'
  rw [ran, ran']

/-- A transaction in which nothing fails delivers the projection of every record, in order, in as
few pages as the page size allows. -/
theorem run_delivers_projection [Host] {pages : List Page}
    (clean : ∀ record ∈ pages.flatten, input.Admits s.retains record)
    (ran : run .removeColumns pool config input ⟨pages, none⟩ sink accept id = report)
    (taken : ∀ received, report.sink.calls = sink.calls ++ received → sink.Takes received) :
    report.outcome = .ok ⟨id, output, pages.length, pages.flatten.length⟩ ∧
    (∃ delivered : List Page,
      report.sink.calls = sink.calls ++ (delivered.map .add ++ [.finish, .close]) ∧
      delivered.flatten = pages.flatten.map (input.project s.retains) ∧
      (∀ page ∈ delivered, page ≠ [] ∧ page.length ≤ pool.pageSize) ∧
      (∀ page ∈ delivered.dropLast, page.length = pool.pageSize) ∧
      delivered.length = (pages.flatten.length + pool.pageSize - 1) / pool.pageSize) ∧
    ∀ others : List Page, others.flatten = pages.flatten →
      (run .removeColumns pool config input ⟨others, none⟩ sink accept id).sink.calls =
        report.sink.calls := by
  have pos := pool.pageSize_pos
  obtain ⟨answered, t, tally, _, _, told, ran', tallied⟩ :=
    run_of_course settled parsed pool sink id (.complete clean)
  rw [ran] at ran'
  rw [ran'] at taken
  obtain ⟨rfl, closing⟩ := Sink.tell_of_received_taken told taken
  obtain ⟨-, total⟩ := tallied rfl
  obtain rfl := total rfl
  refine ⟨?_, ⟨Page.paged pool.pageSize (pages.flatten.map (input.project s.retains)), ?_,
    Page.flatten_paged pos _, fun page member => ⟨Page.ne_nil_of_mem_paged pos member,
      Page.length_le_of_mem_paged pos member⟩,
    fun page member => Page.length_of_mem_dropLast_paged member, ?_⟩, fun others same => ?_⟩
  · rw [ran', closing]
    simp [concluded, verdict, Except.map, Tally.passed, Tally.zero]
  · rw [ran', closing]
    simp [deliveries, Writer.farewell]
  · rw [Page.length_paged pos, List.length_map]
  · rw [sink_of_split parsed settled same clean, ran]

end

/-- Three records fill one page of two and leave a last page of one, however they arrive. -/
theorem sample_delivers_projection :
    (run .removeColumns Sample.pool Sample.config Sample.input ⟨Sample.pages, none⟩
      Sample.willing none "t").outcome = .ok ⟨"t", Sample.output, 3, 3⟩ ∧
    ∀ others : List Page, others.flatten = Sample.pages.flatten →
      (run .removeColumns Sample.pool Sample.config Sample.input ⟨others, none⟩
        Sample.willing none "t").sink.calls =
        [.add [[.long 1], [.long 2]], .add [[.null]], .finish, .close] := by
  have clean : ∀ record ∈ Sample.pages.flatten,
      Sample.input.Admits Sample.selection.retains record := by decide
  obtain ⟨outcome, -, split⟩ := run_delivers_projection Sample.parsed Sample.settled clean
    (Eq.refl (run .removeColumns Sample.pool Sample.config Sample.input ⟨Sample.pages, none⟩
      Sample.willing none "t")) fun received _ => Sample.takes_willing received
  exact ⟨outcome, split⟩

section

variable (parsed : Selection.ofDocument config = .ok s)
variable (settled : ((Filter.removeColumns.propose config input).settle
  Filter.removeColumns.name accept).outcome = .ok (task, output))
include parsed settled

/-- A transaction whose source has a fault ends with the error of that fault. By then the sink has
received the full pages of the records before it; what did not fill a page is lost. -/
theorem run_stops_at_first_fault [Host] {source : Source} {good : List Record} {e : Error}
    {pulled : Nat} (course : Course input s.retains source good (some e) pulled)
    (ran : run .removeColumns pool config input source sink accept id = report)
    (taken : ∀ received, report.sink.calls = sink.calls ++ received → sink.Takes received) :
    report.outcome = .error e ∧
    (∃ delivered : List Page,
      report.sink.calls = sink.calls ++ (delivered.map .add ++ [.close]) ∧
      delivered.length = good.length / pool.pageSize ∧
      (∀ page ∈ delivered, page.length = pool.pageSize) ∧
      delivered.flatten <+: good.map (input.project s.retains)) ∧
    report.pulled = pulled ∧ report.pool.liveCount = pool.liveCount := by
  obtain ⟨answered, t, tally, _, _, told, ran', tallied⟩ :=
    run_of_course settled parsed pool sink id course
  rw [ran] at ran'
  rw [ran'] at taken
  obtain ⟨rfl, closing⟩ := Sink.tell_of_received_taken told taken
  obtain ⟨rfl, -⟩ := tallied rfl
  refine ⟨?_, ⟨Page.full pool.pageSize (good.map (input.project s.retains)), ?_, ?_,
    fun page member => Page.length_of_mem_full member,
    Page.flatten_full_prefix pool.pageSize_pos _⟩, ?_, ?_⟩
  · rw [ran', closing]
    rfl
  · rw [ran', closing]
    rfl
  · rw [Page.length_full, List.length_map]
  · rw [ran']
  · rw [ran', BufferPool.liveCount, BufferPool.live_settle_allocate, BufferPool.liveCount]

end

/-- The record in front of the faulty one does not fill a page and is lost. -/
theorem sample_stops_at_first_fault :
    let source : Source := ⟨Sample.pages ++ [[Sample.bad, [.long 5, .null]], []], none⟩
    let report := run .removeColumns Sample.pool Sample.config Sample.input source
      Sample.willing none "t"
    report.outcome = .error (.violation (.wrongClass "id" .long (.string "4"))) ∧
      report.sink.calls = [.add [[.long 1], [.long 2]], .close] ∧ report.pulled = 4 := by
  intro source report
  have clean : ∀ record ∈ Sample.pages.flatten ++ [],
      Sample.input.Admits Sample.selection.retains record := by decide
  have fault : Sample.input.fault? Sample.selection.retains 0 Sample.bad =
      some (.wrongClass "id" .long (.string "4")) := rfl
  obtain ⟨outcome, -, pulled, -⟩ := run_stops_at_first_fault Sample.parsed Sample.settled
    (.faulty clean fault) (Eq.refl report) fun received _ => Sample.takes_willing received
  exact ⟨outcome, rfl, pulled⟩

end Transaction

end TypedPages
