import TypedPages.Proofs.Streaming

/-!
# Running a transaction

Whatever has happened while a stream was open, its sink is closed at the end, once, and the pool
is left with the buffers that were out before. A transaction that settles on an output schema
always gets that far; one that does not leaves everything as it was.
-/

namespace TypedPages

namespace Transaction

open Projector (Stopped)

section

variable {filter : Filter} {pool pool' : BufferPool} {config task : Document}
variable {input output : Schema} {source : Source} {sink : Sink} {accept : Option (Schema → Bool)}
variable {id : String} {p : Projector} {tally : Tally} {streamed : Except Error Unit}

/-- The outcome of a transaction whose sink answers the closing call as given. -/
def concluded (closed : Except Failure Unit) (streamed : Except Error Unit) (summary : Summary) :
    Except Error Summary :=
  match closed with
  | .error failure => .error (.failure failure)
  | .ok () => streamed.map fun _ => summary

section

variable {start : Writer} {buffer : BufferId} {loan : Nat} {script : List SinkCall}
variable {answered : Except Failure Unit} {p' : Projector} {t : Sink}

/-- A stopped projector is closed with one more call of its sink. -/
theorem conduct_of_stopped [Host] (id : String) (output : Schema)
    (hstream : stream source p = (streamed, tally, p'))
    (stopped : p'.Stopped start buffer script answered) (out : pool.loan? buffer = some loan)
    (told : start.sink.tellAll script = (answered, t)) :
    ∃ log, conduct id output source p pool =
      { outcome := concluded (t.tell .close).1 streamed ⟨id, output, tally.pages, tally.records⟩
        sink := (t.tell .close).2
        pool := pool.settle loan
        offered := []
        pulled := tally.pulled
        log := log } := by
  obtain ⟨closed, hclose, sink⟩ := Projector.close_of_stopped stopped out
  rw [told] at hclose sink
  rw [conduct, hstream]
  simp only [hclose, sink]
  cases (t.tell .close).1 with
  | error failure => exact ⟨_, rfl⟩
  | ok => cases streamed <;> exact ⟨_, rfl⟩

end

/-- If the negotiation fails, nothing else is done. -/
theorem run_of_unsettled [Host] (pool : BufferPool) (source : Source) (sink : Sink) (id : String)
    {e : Error}
    (failed : ((filter.propose config input).settle filter.name accept).outcome = .error e) :
    ∃ offered log, run filter pool config input source sink accept id =
      { outcome := .error e, sink, pool, offered, pulled := 0, log } := by
  rw [run]
  simp only [failed]
  exact ⟨_, _, rfl⟩

/-- Past the opening of its stream, a transaction does what is done with the projector. -/
theorem run_of_opened [Host] (source : Source) (id : String)
    (settled : ((filter.propose config input).settle filter.name accept).outcome =
      .ok (task, output))
    (opened : filter.openStream pool task input output sink = .opened p pool') :
    ∃ offered log, run filter pool config input source sink accept id =
      { conduct id output source p pool' with offered, log } := by
  rw [run]
  simp only [settled, opened]
  exact ⟨_, _, rfl⟩

section

variable {s : Selection} (settled : ((Filter.removeColumns.propose config input).settle
  Filter.removeColumns.name accept).outcome = .ok (task, output))
include settled

/-- The built-in filter can always open the stream that it has settled on. -/
theorem opened_of_settled (pool : BufferPool) (sink : Sink) :
    ∃ p, Filter.removeColumns.openStream pool task input output sink =
        .opened p pool.allocate.2 ∧
      p.Streams (Writer.ofPool pool output sink).1 (.lent pool.key pool.loans) input [] := by
  obtain ⟨s, projection, -, resolved, rfl, rfl, -⟩ :=
    Filter.settle_proposeSelection_eq_ok_iff.mp settled
  exact Filter.openSelection_of_resolve resolved

/-- However streaming went, the sink has been told some script, and the transaction ends with one
more call. -/
theorem run_of_stream [Host] (id : String) {p' : Projector}
    (opened : Filter.removeColumns.openStream pool task input output sink = .opened p pool')
    (hstream : stream source p = (streamed, tally, p')) :
    ∃ script answered t offered log,
      sink.tellAll script = (answered, t) ∧
      run .removeColumns pool config input source sink accept id =
        { outcome := concluded (t.tell .close).1 streamed ⟨id, output, tally.pages, tally.records⟩
          sink := (t.tell .close).2
          pool := pool.allocate.2.settle pool.loans
          offered := offered
          pulled := tally.pulled
          log := log } := by
  obtain ⟨q, opened', streams⟩ := opened_of_settled settled pool sink
  obtain ⟨offered, log, ran⟩ := run_of_opened source id settled opened
  rw [opened] at opened'
  cases opened'
  obtain ⟨good, ending, pulled, course⟩ := Course.exists_course input output.has source
  obtain ⟨answered, _, _, hstream', stopped, -⟩ :=
    stream_of_course pool.pageSize_pos streams course
  rw [hstream] at hstream'
  obtain ⟨rfl, rfl, rfl⟩ := hstream'
  obtain ⟨t, told, -⟩ := stopped.told
  obtain ⟨_, conducted⟩ :=
    conduct_of_stopped id output hstream stopped pool.loan?_allocate told
  rw [conducted] at ran
  exact ⟨_, answered, t, offered, log, told, ran⟩

variable (parsed : Selection.ofDocument config = .ok s)
include parsed

theorem fields_of_settled : output.fields = input.fields.filter (s.retains ·.name) := by
  obtain ⟨s', projection, parsed', resolved, rfl, rfl, -⟩ :=
    Filter.settle_proposeSelection_eq_ok_iff.mp settled
  rw [parsed] at parsed'
  cases parsed'
  exact (Projection.of_resolve resolved).1

/-- Of the names that the input has, the output has those that the selection retains. -/
theorem has_of_settled {f : Field} (hf : f ∈ input.fields) : output.has f.name = s.retains f.name :=
  Schema.has_of_fields_eq (fields_of_settled settled parsed) hf

/-- Between the schemas of a settled transaction, records that can go through are projected. -/
theorem rearrange_of_settled {records : List Record}
    (clean : ∀ record ∈ records, input.Admits s.retains record) :
    records.map (input.rearrange output) = records.map (input.project s.retains) :=
  Schema.map_rearrange_eq_project (fields_of_settled settled parsed) clean

/-- The course of the source and the answers of the sink decide everything else. -/
theorem run_of_course [Host] (pool : BufferPool) (sink : Sink) (id : String) {good : List Record}
    {ending : Option Error} {pulled : Nat}
    (course : Course input s.retains source good ending pulled) :
    ∃ answered t tally offered log,
      sink.tellAll (deliveries pool.pageSize (good.map (input.project s.retains)) ending) =
        (answered, t) ∧
      run .removeColumns pool config input source sink accept id =
        { outcome := concluded (t.tell .close).1 (verdict answered ending)
            ⟨id, output, tally.pages, tally.records⟩
          sink := (t.tell .close).2
          pool := pool.allocate.2.settle pool.loans
          offered := offered
          pulled := tally.pulled
          log := log } ∧
      (answered = .ok () → tally.pulled = pulled ∧
        (ending = none → tally = Tally.zero.passed source.pages)) := by
  obtain ⟨p, opened, streams⟩ := opened_of_settled settled pool sink
  have course' : Course input output.has source good ending pulled :=
    course.congr fun f hf => (has_of_settled settled parsed hf).symm
  obtain ⟨answered, tally, p', hstream, stopped, tallied⟩ :=
    stream_of_course pool.pageSize_pos streams course'
  obtain ⟨t, told⟩ : ∃ t, sink.tellAll
      (deliveries pool.pageSize (good.map (input.rearrange output)) ending) = (answered, t) :=
    stopped.told.imp fun _ told => told.1
  obtain ⟨_, conducted⟩ :=
    conduct_of_stopped id output hstream stopped pool.loan?_allocate told
  obtain ⟨offered, log, ran⟩ := run_of_opened source id settled opened
  rw [rearrange_of_settled settled parsed course.admits] at told
  rw [conducted] at ran
  exact ⟨answered, t, tally, offered, log, told, ran, tallied⟩

end

end

/-! ## A small setting -/

namespace Sample

/-- Two columns, of which the selection removes the second. -/
def input : Schema := ⟨[⟨"id", .long⟩, ⟨"name", .string⟩], by decide⟩

def output : Schema := ⟨[⟨"id", .long⟩], by decide⟩

def selection : Selection := ⟨some ["name"], none, false⟩

def config : Document := .mapping [("remove", .ofTexts ["name"])]

/-- A pool of pages of two records. -/
def pool : BufferPool := .fresh 0 2 (by decide)

/-- Pages of other sizes. In the last record the cell of the removed column is of a wrong type. -/
def pages : List Page :=
  [[[.long 1, .string "a"], [.long 2, .null]], [], [[.null, .long 0]]]

/-- A record whose retained cell is of a wrong type. -/
def bad : Record := [.string "4", .null]

/-- A sink that never refuses a call. -/
def willing : Sink := .fresh fun _ => none

theorem takes_willing (script : List SinkCall) : willing.Takes script :=
  fun _ _ _ _ => rfl

/-- A sink that refuses its first page, and perhaps its closing call. -/
def unwilling (closing : Bool) : Sink := .fresh (SinkScript.refuses ⟨[0], false, closing⟩)

theorem parsed : Selection.ofDocument config = .ok selection := rfl

theorem settled : ((Filter.removeColumns.propose config input).settle
    Filter.removeColumns.name none).outcome = .ok (selection.toDocument, output) := rfl

end Sample

end Transaction

end TypedPages
