import Mathlib.Data.List.Infix
import TypedPages.Proofs.Transaction

/-!
# The life of a sink

Under any faults of the data, the source and the sink itself, a sink is told pages, at most one
farewell and one closing call, in this order, and nothing but the closing call once it has refused
something. The failure of the closing call is the only one that hides another.
-/

namespace TypedPages

namespace Transaction

open TypedPages.Filter (removeColumns)

/-- The calls of pages, and of a farewell behind them if there is one. -/
def pagesThen (offered : List Page) (finished : Bool) : List SinkCall :=
  offered.map .add ++ if finished then [.finish] else []

theorem exists_pagesThen_of_prefix_map {whole : List Page} {sent : List Record}
    {received : List SinkCall} (front : received <+: whole.map .add)
    (records : whole.flatten <+: sent) :
    ∃ offered, received = pagesThen offered false ∧ offered.flatten <+: sent := by
  obtain ⟨offered, part, rfl⟩ := List.prefix_map_iff.mp front
  refine ⟨offered, ?_, (List.IsPrefix.flatten part).trans records⟩
  simp [pagesThen]

/-- A front part of a script of deliveries is again one of pages and perhaps a farewell, and its
records are the first ones. -/
theorem exists_pagesThen_of_prefix {size : Nat} (pos : 0 < size) {sent : List Record}
    {ending : Option Error} {received : List SinkCall}
    (h : received <+: deliveries size sent ending) :
    ∃ offered finished, received = pagesThen offered finished ∧ offered.flatten <+: sent ∧
      (finished = true → ending = none ∧ received = deliveries size sent ending) := by
  cases ending with
  | some e =>
      obtain ⟨offered, calls, part⟩ :=
        exists_pagesThen_of_prefix_map h (Page.flatten_full_prefix pos sent)
      exact ⟨offered, false, calls, part, by simp⟩
  | none =>
      have records : (Page.paged size sent).flatten <+: sent := by
        rw [Page.flatten_paged pos]
      rcases List.prefix_concat_iff.mp h with whole | front
      · exact ⟨Page.paged size sent, true, whole, records, fun _ => ⟨rfl, whole⟩⟩
      · obtain ⟨offered, calls, part⟩ := exists_pagesThen_of_prefix_map front records
        exact ⟨offered, false, calls, part, by simp⟩

/-- A stream without faults that got as far as its farewell has fed all its pages. -/
theorem feedAll_of_farewell [Host] {start : Writer} {buffer : BufferId} {input : Schema}
    {p : Projector} {pages : List Page} (pos : 0 < start.pageSize)
    (h : p.Streams start buffer input [])
    (clean : ∀ record ∈ pages.flatten, input.Admits start.schema.has record)
    {script : List SinkCall} (hscript : script = Writer.farewell start.pageSize
      (pages.flatten.map (input.rearrange start.schema)))
    (taken : ∀ front call later, script = front ++ call :: later →
      start.sink.refuses (start.sink.calls ++ front ++ [call]) ≠ none → later = []) :
    (feedAll pages .zero p).1 = .ok () := by
  have takes : start.sink.Takes (Writer.handovers start.pageSize
      (pages.flatten.map (input.rearrange start.schema))) := by
    intro front call later split
    by_contra refused
    rw [hscript, Writer.farewell_eq, split, List.append_assoc, List.cons_append] at taken
    simpa using taken front call _ rfl refused
  obtain ⟨p', fed⟩ := feedAll_of_told pos h .zero clean (Sink.tellAll_eq_ok_iff.mpr ⟨takes, rfl⟩)
  rw [fed]

/-- What the sink of the built-in filter is told in a transaction. If nothing is settled on, it is
told nothing. Otherwise it is told pages, a farewell only after all pages of the source have been
fed, nothing after a refusal, and last that it is closed. The records that it is told are the
projections of the first records of the source, none of which is malformed. -/
theorem sink_lifecycle [Host] (pool : BufferPool) (config : Document) (input : Schema)
    (source : Source) (sink : Sink) (accept : Option (Schema → Bool)) (id : String) :
    match ((removeColumns.propose config input).settle removeColumns.name accept).outcome with
    | .error _ =>
      (run removeColumns pool config input source sink accept id).sink.calls = sink.calls
    | .ok (task, output) => ∃ s offered finished,
      Selection.ofDocument config = .ok s ∧
      (run removeColumns pool config input source sink accept id).sink.calls =
        sink.calls ++ pagesThen offered finished ++ [.close] ∧
      (finished = true → source.failure = none ∧ ∀ p pool',
        removeColumns.openStream pool task input output sink = .opened p pool' →
          (feedAll source.pages .zero p).1 = .ok ()) ∧
      (∀ front call later, pagesThen offered finished = front ++ call :: later →
        sink.refuses (sink.calls ++ front ++ [call]) ≠ none → later = []) ∧
      offered.flatten <+:
        (source.pages.flatten.takeWhile (input.Admits s.retains ·)).map
          (input.project s.retains) := by
  cases settled : ((removeColumns.propose config input).settle removeColumns.name
    accept).outcome with
  | error e =>
      obtain ⟨_, _, ran⟩ := run_of_unsettled pool source sink id settled
      change (run removeColumns pool config input source sink accept id).sink.calls = sink.calls
      rw [ran]
  | ok agreed =>
      obtain ⟨task, output⟩ := agreed
      obtain ⟨s, projection, parsed, -⟩ := Filter.settle_proposeSelection_eq_ok_iff.mp settled
      obtain ⟨good, ending, pulled, course⟩ := Course.exists_course input s.retains source
      obtain ⟨answered, t, tally, _, _, told, ran, -⟩ :=
        run_of_course settled parsed pool sink id course
      obtain ⟨received, front, sinkAfter, taken⟩ := sink.exists_received
        (deliveries pool.pageSize (good.map (input.project s.retains)) ending)
      obtain ⟨offered, finished, rfl, records, whole⟩ :=
        exists_pagesThen_of_prefix pool.pageSize_pos front
      rw [told] at sinkAfter
      have calls : t.calls = sink.calls ++ pagesThen offered finished :=
        congrArg Sink.calls sinkAfter
      refine ⟨s, offered, finished, parsed, ?_, fun hfinished => ?_, taken,
        course.eq_takeWhile ▸ records⟩
      · rw [ran, Sink.calls_tell, calls]
      · obtain ⟨rfl, script⟩ := whole hfinished
        obtain ⟨unbroken, rfl, -⟩ := course.eq_of_none
        refine ⟨unbroken, fun p pool' opened => ?_⟩
        obtain ⟨q, opened', streams⟩ := opened_of_settled settled pool sink
        rw [opened] at opened'
        cases opened'
        rw [deliveries, ← rearrange_of_settled settled parsed course.admits] at script
        refine feedAll_of_farewell pool.pageSize_pos streams (fun record member => ?_) script taken
        refine (Schema.admits_congr fun f hf => ?_).mpr (course.admits record member)
        exact has_of_settled settled parsed hf

section

variable {pool pool' : BufferPool} {config task : Document} {input output : Schema}
variable {source : Source} {sink : Sink} {accept : Option (Schema → Bool)} {id : String}
variable {p p' : Projector} {tally : Tally} {streamed : Except Error Unit} {report : Report}

/-- Past the opening of the stream, the closing call comes last, and its failure is what the
transaction ends with whenever it fails. An error of the source, of a page or of the farewell
therefore reaches the caller exactly if the closing call succeeds or fails in the same way. -/
theorem error_reaches_caller_iff [Host]
    (settled : ((removeColumns.propose config input).settle removeColumns.name accept).outcome =
      .ok (task, output))
    (opened : removeColumns.openStream pool task input output sink = .opened p pool')
    (hstream : stream source p = (streamed, tally, p'))
    (ran : run removeColumns pool config input source sink accept id = report) :
    (∃ told, report.sink.calls = told ++ [.close]) ∧
    (report.outcome = match sink.refuses report.sink.calls with
      | some failure => .error (.failure failure)
      | none => streamed.map fun _ => ⟨id, output, tally.pages, tally.records⟩) ∧
    ∀ e, streamed = .error e → (report.outcome = .error e ↔
      ∀ failure, sink.refuses report.sink.calls = some failure → e = .failure failure) := by
  obtain ⟨script, answered, t, _, _, told, ran'⟩ := run_of_stream settled id opened hstream
  rw [ran] at ran'
  have refuses : t.refuses = sink.refuses :=
    (congrArg (·.2.refuses) told).symm.trans (Sink.refuses_tellAll ..)
  have calls : report.sink.calls = t.calls ++ [.close] := by
    rw [ran', Sink.calls_tell]
  have closed : (t.tell .close).1 = match sink.refuses report.sink.calls with
      | some failure => .error failure
      | none => .ok () := by
    rw [calls, ← refuses]
    rfl
  have outcome : report.outcome = concluded (t.tell .close).1 streamed
      ⟨id, output, tally.pages, tally.records⟩ := by
    rw [ran']
  rw [outcome, closed]
  refine ⟨⟨t.calls, calls⟩, ?_, fun e failed => ?_⟩
  · cases sink.refuses report.sink.calls <;> rfl
  · rw [failed]
    cases sink.refuses report.sink.calls <;> simp [concluded, Except.map, eq_comm]

end

/-- If the closing call succeeds, the caller sees why the page was refused. -/
theorem sample_error_reaches_caller :
    (run removeColumns Sample.pool Sample.config Sample.input ⟨Sample.pages, none⟩
      (Sample.unwilling false) none "t").outcome = .error (.failure ⟨"sink add failed"⟩) := by
  obtain ⟨-, -, reaches⟩ := error_reaches_caller_iff Sample.settled rfl rfl
    (Eq.refl (run removeColumns Sample.pool Sample.config Sample.input ⟨Sample.pages, none⟩
      (Sample.unwilling false) none "t"))
  refine (reaches _ rfl).mpr fun failure refused => ?_
  have taken : none = some failure := refused
  cases taken

/-- Errors do not always reach the caller: here the page is refused with one failure and the
closing call with another, and only the latter is seen. -/
theorem not_error_reaches_caller :
    ¬ ∀ (pool pool' : BufferPool) (config task : Document) (input output : Schema)
        (source : Source) (sink : Sink) (accept : Option (Schema → Bool)) (id : String)
        (p : Projector) (e : Error),
      ((removeColumns.propose config input).settle removeColumns.name accept).outcome =
        .ok (task, output) →
      removeColumns.openStream pool task input output sink = .opened p pool' →
      (stream source p).1 = .error e →
      (run removeColumns pool config input source sink accept id).outcome = .error e := by
  intro propagates
  have seen := propagates Sample.pool _ Sample.config _ Sample.input Sample.output
    ⟨Sample.pages, none⟩ (Sample.unwilling true) none "t" _ (.failure ⟨"sink add failed"⟩)
    Sample.settled rfl rfl
  have hidden : (Except.error (.failure ⟨"sink close failed"⟩) : Except Error Summary) =
      .error (.failure ⟨"sink add failed"⟩) := seen
  simp at hidden

end Transaction

end TypedPages
