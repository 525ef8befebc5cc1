import TypedPages.Proofs.Transaction

/-!
# How the end is reported

A stream that breaks off is reported before it is closed, a stream that was finished only after
that. So each transaction that gets as far as its stream reports its end once, unless the stream is
finished and the sink then refuses to be closed: that failure reaches the caller, and the log says
nothing about it.
-/

namespace TypedPages

namespace LogEvent

/-- Whether an event reports the end of a transaction. -/
def isEnding (e : LogEvent) : Bool :=
  e.event == "Transaction complete" || e.event == "Transaction aborted"

@[simp] theorem event_within (context : Entries) (e : LogEvent) :
    (e.within context).event = e.event := rfl

@[simp] theorem level_within (context : Entries) (e : LogEvent) :
    (e.within context).level = e.level := rfl

/-- The least threshold lets every event through. -/
theorem passes_debug (e : LogEvent) : e.passes LogLevel.debug.rank = true := by
  obtain ⟨level, logger, event, fields⟩ := e
  cases level <;> rfl

end LogEvent

/-- The events of a debug log that report the end of the transaction. -/
def Report.endings (report : Report) : List LogEvent :=
  (report.log.filter (·.passes LogLevel.debug.rank)).filter LogEvent.isEnding

/-- The log reports the end once, and calls it an abortion, as an error, exactly if the caller
sees an error. -/
def Report.TellsEnd (report : Report) : Prop :=
  ∃ ending, report.endings = [ending] ∧
    (ending.event = "Transaction aborted" ↔ ∃ e, report.outcome = .error e) ∧
    (ending.event = "Transaction aborted" → ending.level = .error)

namespace Transaction

open TypedPages.Filter (removeColumns)

variable {pool pool' : BufferPool} {config task : Document} {input output : Schema}
variable {source : Source} {sink : Sink} {accept : Option (Schema → Bool)} {id : String}
variable {p p' : Projector} {tally : Tally} {streamed : Except Error Unit} {report : Report}

/-- The fields that all events of a transaction of the built-in filter have in common. -/
def context (id : String) : Entries :=
  [("transaction_id", .text id), ("plugin", .text removeColumns.name)]

/-- The report of the end, by how streaming ended and how the sink answers the closing call. -/
def ending? (tally : Tally) : Except Error Unit → Option Failure → Option LogEvent
  | .error _, _ => some (event .error "Transaction aborted" tally)
  | .ok (), none => some (event .debug "Transaction complete" tally)
  | .ok (), some _ => none

theorem endings_eq (report : Report) : report.endings = report.log.filter LogEvent.isEnding := by
  have all : report.log.filter (·.passes LogLevel.debug.rank) = report.log :=
    List.filter_eq_self.mpr fun e _ => e.passes_debug
  rw [Report.endings, all]

/-- What is bound around an event does not make it another one. -/
theorem filter_isEnding_within (context : Entries) (log : List LogEvent) :
    (log.map (.within context)).filter LogEvent.isEnding =
      (log.filter LogEvent.isEnding).map (.within context) :=
  List.filter_map

theorem filter_isEnding_resolutionLog (input : Schema) (s : Selection) :
    (Filter.resolutionLog input s).filter LogEvent.isEnding = [] := by
  rw [Filter.resolutionLog]
  split
  · rfl
  · split
    · rfl
    · split
      · rfl
      · simp [LogEvent.isEnding, Filter.unmatchedEvent]

/-- While it proposes, the built-in filter reports no end. -/
theorem filter_isEnding_propose (config : Document) (input : Schema) :
    (removeColumns.propose config input).log.filter LogEvent.isEnding = [] := by
  change (Filter.proposeSelection config input).log.filter _ = _
  rw [Filter.proposeSelection]
  split
  · rfl
  · split
    · exact filter_isEnding_resolutionLog _ _
    · rename_i p _
      have resolved : (Filter.resolvedEvent input p).isEnding = false := by
        simp [LogEvent.isEnding, Filter.resolvedEvent]
      rw [List.filter_append, filter_isEnding_resolutionLog]
      simp [resolved]

theorem filter_isEnding_conduct [Host] (id : String) (output : Schema)
    (hstream : stream source p = (streamed, tally, p')) {answer : Option Failure}
    (closed : (p'.close pool).1 = match answer with
      | none => .ok ()
      | some failure => .error (.failure failure)) :
    (conduct id output source p pool).log.filter LogEvent.isEnding =
        (ending? tally streamed answer).toList ∧
      ((∃ e, (conduct id output source p pool).outcome = .error e) ↔
        (∃ e, streamed = .error e) ∨ ∃ failure, answer = some failure) := by
  have finished : p'.finishEvent.isEnding = false := by
    simp [LogEvent.isEnding, Projector.finishEvent]
  have aborted : (event .error "Transaction aborted" tally).isEnding = true := by
    simp [LogEvent.isEnding, event]
  have complete : (event .debug "Transaction complete" tally).isEnding = true := by
    simp [LogEvent.isEnding, event]
  rw [conduct, hstream]
  cases closing : p'.close pool with
  | mk answered after =>
      rw [closing] at closed
      simp only at closed
      subst closed
      simp only [closing]
      cases streamed <;> cases answer <;> simp [ending?, finished, aborted, complete]

section

variable [Host]
variable
  (settled : ((removeColumns.propose config input).settle removeColumns.name accept).outcome =
    .ok (task, output))
  (opened : removeColumns.openStream pool task input output sink = .opened p pool')
  (hstream : stream source p = (streamed, tally, p'))
include settled opened hstream

/-- When a stream is closed, nothing is reported but the refusal of the sink, to which the closing
call is the last one. -/
theorem close_of_stream (id : String) : (p'.close pool').1 =
    match sink.refuses
      (run removeColumns pool config input source sink accept id).sink.calls with
    | none => .ok ()
    | some failure => .error (.failure failure) := by
  obtain ⟨q, opened', streams⟩ := opened_of_settled settled pool sink
  obtain ⟨_, _, ran⟩ := run_of_opened source id settled opened
  rw [opened] at opened'
  cases opened'
  obtain ⟨good, ending, pulled, course⟩ := Course.exists_course input output.has source
  obtain ⟨answered, _, _, hstream', stopped, -⟩ :=
    stream_of_course pool.pageSize_pos streams course
  rw [hstream] at hstream'
  obtain ⟨rfl, rfl, rfl⟩ := hstream'
  obtain ⟨t, heard, -⟩ := stopped.told
  have rule : t.refuses = sink.refuses := Sink.refuses_of_tellAll heard
  obtain ⟨p'', closed, closing⟩ := Projector.close_of_stopped stopped pool.loan?_allocate
  rw [heard] at closed closing
  have told : (run removeColumns pool config input source sink accept id).sink =
      (t.tell .close).2 := by
    rw [ran, ← closing, conduct, hstream]
    simp only [closed]
  rw [told, closed, Sink.calls_tell, ← rule]
  show (t.tell .close).1.mapError Error.failure = _
  rw [Sink.tell]
  cases t.refuses (t.calls ++ [.close]) <;> rfl

/-- What the log says about the end of a transaction that has opened its stream. -/
theorem endings_of_stream (id : String)
    (ran : run removeColumns pool config input source sink accept id = report) :
    report.endings = ((ending? tally streamed (sink.refuses report.sink.calls)).toList).map
        (.within (context id)) ∧
      ((∃ e, report.outcome = .error e) ↔
        (∃ e, streamed = .error e) ∨ ∃ failure, sink.refuses report.sink.calls = some failure) := by
  have closed := close_of_stream settled opened hstream id
  rw [ran] at closed
  obtain ⟨log, outcome⟩ := filter_isEnding_conduct id output hstream closed
  have whole : report.log = ((removeColumns.propose config input).log ++
      (conduct id output source p pool').log).map (.within (context id)) := by
    rw [← ran, run]
    simp only [settled, opened]
    rfl
  constructor
  · rw [endings_eq, whole, filter_isEnding_within, List.filter_append, log,
      filter_isEnding_propose]
    rfl
  · rw [← outcome, ← ran, run]
    simp only [settled, opened]

/-- What the log of a transaction says about its end, once the stream is open: that it was aborted
if streaming broke off, and that it is complete if the sink also lets itself be closed. So the end
is told as it was except in one case, in which nothing is told: streaming came to its end, and then
the sink refused to be closed. -/
theorem tellsEnd_iff
    (ran : run removeColumns pool config input source sink accept id = report) :
    report.endings = ((ending? tally streamed (sink.refuses report.sink.calls)).toList).map
        (.within (context id)) ∧
    ((∃ e, report.outcome = .error e) ↔
      (∃ e, streamed = .error e) ∨ ∃ failure, sink.refuses report.sink.calls = some failure) ∧
    (report.TellsEnd ↔
      ¬ (streamed = .ok () ∧ ∃ failure, sink.refuses report.sink.calls = some failure)) := by
  obtain ⟨log, fails⟩ := endings_of_stream settled opened hstream id ran
  refine ⟨log, fails, ?_⟩
  cases streamed with
  | error e =>
      have failed : ∃ e, report.outcome = .error e := fails.mpr (.inl ⟨e, rfl⟩)
      have told : report.TellsEnd := by
        refine ⟨_, log, ?_, fun _ => rfl⟩
        exact ⟨fun _ => failed, fun _ => rfl⟩
      refine iff_of_true told ?_
      rintro ⟨finished, -⟩
      cases finished
  | ok =>
      cases answer : sink.refuses report.sink.calls with
      | none =>
          rw [answer] at log fails
          have succeeded : ¬ ∃ e, report.outcome = .error e := by
            rw [fails]
            simp
          have other : ((event .debug "Transaction complete" tally).within (context id)).event ≠
              "Transaction aborted" := by
            simp [event]
          have told : report.TellsEnd := by
            refine ⟨_, log, ?_, fun aborted => absurd aborted other⟩
            exact ⟨fun aborted => absurd aborted other, fun failed => absurd failed succeeded⟩
          refine iff_of_true told ?_
          rintro ⟨-, failure, refused⟩
          cases refused
      | some failure =>
          rw [answer] at log
          refine iff_of_false ?_ (not_not_intro ⟨rfl, failure, rfl⟩)
          rintro ⟨ending, single, -⟩
          rw [log] at single
          cases single

end

/-- The page is refused, and so is the closing call, whose failure is what the caller sees. The
abortion is reported all the same, and once. -/
theorem sample_tellsEnd :
    let report := run removeColumns Sample.pool Sample.config Sample.input ⟨Sample.pages, none⟩
      (Sample.unwilling true) none "t"
    report.TellsEnd ∧ report.endings.map (·.event) = ["Transaction aborted"] := by
  intro report
  obtain ⟨log, -, tells⟩ := tellsEnd_iff Sample.settled rfl rfl (Eq.refl report)
  constructor
  · apply tells.mpr
    rintro ⟨finished, -⟩
    cases finished
  · rw [log]
    rfl

/-- The end is not always told: here all pages are taken and the stream is finished, but the sink
refuses to be closed. The caller sees this failure, and the log has no event for the end. -/
theorem not_tellsEnd :
    ¬ ∀ (pool pool' : BufferPool) (config task : Document) (input output : Schema)
        (source : Source) (sink : Sink) (accept : Option (Schema → Bool)) (id : String)
        (p : Projector),
      ((removeColumns.propose config input).settle removeColumns.name accept).outcome =
        .ok (task, output) →
      removeColumns.openStream pool task input output sink = .opened p pool' →
      (run removeColumns pool config input source sink accept id).TellsEnd := by
  intro tells
  let sink : Sink := .fresh (SinkScript.refuses ⟨[], false, true⟩)
  obtain ⟨ending, single, -⟩ := tells Sample.pool _ Sample.config _ Sample.input Sample.output
    ⟨Sample.pages, none⟩ sink none "t" _ Sample.settled rfl
  have silent : (run removeColumns Sample.pool Sample.config Sample.input ⟨Sample.pages, none⟩
      sink none "t").endings = [] := rfl
  rw [silent] at single
  cases single

end Transaction

end TypedPages
