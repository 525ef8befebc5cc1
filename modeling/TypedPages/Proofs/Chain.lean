import TypedPages.Proofs.Composition
import TypedPages.Proofs.Replies
import TypedPages.Proofs.Transaction

/-!
# One transaction after another

The pages that one transaction delivers can be the source of another. However the two cut records
into pages, the records that come out are those that a single projector delivers which leads from
the first input to the last output.
-/

namespace TypedPages

/-- A sink that has received nothing yet and refuses nothing. -/
structure Sink.Collects (s : Sink) : Prop where
  fresh : s.calls = []
  willing : ∀ script, s.Takes script

/-- A sink that collects has in the end received the whole script. -/
theorem Sink.Collects.tellAll {s : Sink} (h : s.Collects) (script : List SinkCall) :
    s.tellAll script = (.ok (), { s with calls := script }) := by
  refine tellAll_eq_ok_iff.mpr ⟨h.willing script, ?_⟩
  rw [h.fresh, List.nil_append]

theorem SinkCall.pages_farewell (size : Nat) (records : List Record) :
    pages (Writer.farewell size records) = Page.paged size records := by
  have given (handed : List Page) : pages (handed.map .add) = handed := by
    rw [pages, List.filterMap_map]
    exact List.filterMap_some
  rw [Writer.farewell, pages_append, given]
  exact List.append_nil _

namespace Transaction

section

variable {input output : Schema} {s t : Selection} {p q : Projection} {pages : List Page}

/-- What a transaction needs besides its source: a pool, a document that gives the selection, a
sink that collects, and someone to accept the output schema, who agrees to any. -/
structure Stage (s : Selection) where
  pool : BufferPool
  config : Document
  sink : Sink
  accept : Option (Schema → Bool)
  id : String
  parsed : Selection.ofDocument config = .ok s
  collects : sink.Collects
  agrees : ∀ accepts ∈ accept, ∀ schema, accepts schema = true

namespace Stage

/-- The transaction over a source without a failure. -/
def run [Host] (stage : Stage s) (input : Schema) (pages : List Page) : Report :=
  Transaction.run .removeColumns stage.pool stage.config input ⟨pages, none⟩ stage.sink
    stage.accept stage.id

/-- The pages that the transaction delivers. -/
def delivers [Host] (stage : Stage s) (input : Schema) (pages : List Page) : List Page :=
  SinkCall.pages (stage.run input pages).sink.calls

/-- A stage settles on what its selection comes to. -/
theorem settled (stage : Stage s) (resolved : Projection.resolve input s = .ok p) :
    ((Filter.removeColumns.propose stage.config input).settle Filter.removeColumns.name
      stage.accept).outcome = .ok (s.toDocument, p.output) :=
  Filter.settle_proposeSelection_eq_ok_iff.mpr ⟨s, p, stage.parsed, resolved, rfl, rfl,
    fun accepts member => stage.agrees accepts member p.output⟩

/-- A stage completes, and it delivers the projections of all records in pages of its own size. -/
theorem run_spec [Host] (stage : Stage s) (resolved : Projection.resolve input s = .ok p)
    (clean : ∀ record ∈ pages.flatten, input.Admits s.retains record) :
    (stage.run input pages).outcome =
        .ok ⟨stage.id, p.output, pages.length, pages.flatten.length⟩ ∧
      stage.delivers input pages =
        Page.paged stage.pool.pageSize (pages.flatten.map (input.project s.retains)) := by
  obtain ⟨answered, t, tally, _, _, told, ran, tallied⟩ := run_of_course (stage.settled resolved)
    stage.parsed stage.pool stage.sink stage.id (.complete clean)
  have taken (received : List SinkCall)
      (_ : (t.tell .close).2.calls = stage.sink.calls ++ received) : stage.sink.Takes received :=
    stage.collects.willing received
  obtain ⟨rfl, closing⟩ := Sink.tell_of_received_taken told taken
  obtain ⟨-, total⟩ := tallied rfl
  obtain rfl := total rfl
  constructor
  · rw [run, ran, closing]
    simp [concluded, verdict, Except.map, Tally.passed, Tally.zero]
  · rw [delivers, run, ran, closing, stage.collects.fresh, List.nil_append, SinkCall.pages_append,
      deliveries, SinkCall.pages_farewell]
    exact List.append_nil _

/-- A stage over the pages that another has delivered completes as well, and of every record it
delivers what both selections retain. -/
theorem run_run_spec [Host] (earlier : Stage s) (later : Stage t)
    (hp : Projection.resolve input s = .ok p) (hq : Projection.resolve p.output t = .ok q)
    (clean : ∀ record ∈ pages.flatten, input.Admits s.retains record) :
    (later.run p.output (earlier.delivers input pages)).outcome =
        .ok ⟨later.id, q.output, (earlier.delivers input pages).length, pages.flatten.length⟩ ∧
      (later.delivers p.output (earlier.delivers input pages)).flatten =
        pages.flatten.map (input.project fun name => s.retains name && t.retains name) := by
  obtain ⟨fields, -⟩ := Projection.of_resolve hp
  -- The second stage is fed other pages, but of them only the records matter.
  have passed : (earlier.delivers input pages).flatten =
      pages.flatten.map (input.project s.retains) := by
    rw [(earlier.run_spec hp clean).2, Page.flatten_paged earlier.pool.pageSize_pos]
  have clean' : ∀ record ∈ (earlier.delivers input pages).flatten,
      p.output.Admits t.retains record := by
    intro record member
    rw [passed] at member
    obtain ⟨whole, hwhole, rfl⟩ := List.mem_map.mp member
    exact (clean whole hwhole).project fields
  obtain ⟨outcome, delivered⟩ := later.run_spec hq clean'
  constructor
  · rw [outcome, passed, List.length_map]
  · rw [delivered, Page.flatten_paged later.pool.pageSize_pos, passed, List.map_map]
    apply List.map_congr_left
    intro record member
    exact Schema.project_project fields (clean record member).1

/-- The stage whose document is the selection itself and whose sink is new. -/
def plain (s : Selection) (pool : BufferPool) : Stage s where
  pool := pool
  config := s.toDocument
  sink := .fresh fun _ => none
  accept := none
  id := "t"
  parsed := s.ofDocument_toDocument
  collects := ⟨rfl, fun _ _ _ _ _ => rfl⟩
  agrees := by simp

end Stage

/-- A single projector between two schemas streams all records as well. -/
theorem exists_stream_direct [Host] {retains : String → Bool} {table : LookupTable}
    (pool : BufferPool) {sink : Sink} (collects : sink.Collects)
    (found : input.lookupTable output = .ok table)
    (fields : output.fields = input.fields.filter (retains ·.name))
    (clean : ∀ record ∈ pages.flatten, input.Admits retains record) :
    ∃ direct tally done,
      Projector.ofParts (.ofSchema input) (Writer.ofPool pool output sink).1 = .ok direct ∧
      stream ⟨pages, none⟩ direct = (.ok (), tally, done) ∧
      SinkCall.pages done.writer.sink.calls =
        Page.paged pool.pageSize (pages.flatten.map (input.project retains)) := by
  obtain ⟨direct, opened, streams⟩ := Projector.exists_ofParts_streams pool sink found
  have agree : ∀ f ∈ input.fields, retains f.name = output.has f.name := by
    intro f hf
    exact (Schema.has_of_fields_eq fields hf).symm
  have course : Course input output.has ⟨pages, none⟩ pages.flatten none pages.length :=
    (Course.complete clean).congr agree
  obtain ⟨answered, tally, done, streamed, stopped, -⟩ :=
    stream_of_course pool.pageSize_pos streams course
  obtain ⟨t, told, keeps⟩ := stopped.told
  change sink.tellAll (Writer.farewell pool.pageSize (pages.flatten.map (input.rearrange output))) =
    (answered, t) at told
  rw [collects.tellAll, Schema.map_rearrange_eq_project fields clean] at told
  obtain ⟨rfl, rfl⟩ := Prod.mk.inj told
  refine ⟨direct, tally, done, opened, streamed, ?_⟩
  rw [keeps.sink_eq]
  exact SinkCall.pages_farewell _ _

end

/-- Two tolerant selections, one after the other, come to one projection, of schemas as of records.
Resolving them leaves the fields that both retain, and the lookup tables can be followed one after
the other. Two transactions, the second over the pages that the first delivers, bring out the
records of one projector between the outer schemas, with whatever page sizes. In the records only
the cells that the first selection retains have to suit their columns. -/
theorem chained_selections_compose [Host] {first second : Selection} (input : Schema)
    (tolerant : first.Tolerant) (tolerant' : second.Tolerant) :
    ∃ p q, Projection.resolve input first = .ok p ∧ Projection.resolve p.output second = .ok q ∧
      q.output.fields =
        input.fields.filter (fun f => first.retains f.name && second.retains f.name) ∧
      (∀ place, some place ∈ p.lookup → place < q.lookup.length) ∧
      input.lookupTable q.output = .ok (p.lookup.andThen q.lookup) ∧
      ∀ (earlier : Stage first) (later : Stage second) (pool : BufferPool) (sink : Sink)
          (pages : List Page),
        sink.Collects → (∀ record ∈ pages.flatten, input.Admits first.retains record) →
        (earlier.run input pages).outcome =
            .ok ⟨earlier.id, p.output, pages.length, pages.flatten.length⟩ ∧
          (later.run p.output (earlier.delivers input pages)).outcome =
            .ok ⟨later.id, q.output, (earlier.delivers input pages).length,
              pages.flatten.length⟩ ∧
          ∃ direct tally done,
            Projector.ofParts (.ofSchema input) (Writer.ofPool pool q.output sink).1 =
              .ok direct ∧
            stream ⟨pages, none⟩ direct = (.ok (), tally, done) ∧
            (later.delivers p.output (earlier.delivers input pages)).flatten =
              (SinkCall.pages done.writer.sink.calls).flatten ∧
            (SinkCall.pages done.writer.sink.calls).flatten = pages.flatten.map
              (input.project fun name => first.retains name && second.retains name) := by
  obtain ⟨p, hp⟩ := Projection.exists_resolve_iff.mpr (tolerant.applies input)
  obtain ⟨q, hq⟩ := Projection.exists_resolve_iff.mpr (tolerant'.applies p.output)
  obtain ⟨inner, table⟩ := Projection.of_resolve hp
  obtain ⟨-, table'⟩ := Projection.of_resolve hq
  obtain ⟨fields, composed⟩ := Projection.of_resolve_resolve hp hq
  refine ⟨p, q, hp, hq, fields, ?_, composed, ?_⟩
  · intro place
    exact Schema.lt_length_lookupTable table table'
  intro earlier later pool sink pages collects clean
  obtain ⟨outcome, -⟩ := earlier.run_spec hp clean
  obtain ⟨outcome', delivered⟩ := earlier.run_run_spec later hp hq clean
  have both : ∀ record ∈ pages.flatten,
      input.Admits (fun name => first.retains name && second.retains name) record := by
    intro record member
    apply (clean record member).mono
    intro name retained
    exact (Bool.and_eq_true_iff.mp retained).1
  obtain ⟨direct, tally, done, opened, streamed, sent⟩ :=
    exists_stream_direct pool collects composed fields both
  have records : (SinkCall.pages done.writer.sink.calls).flatten = pages.flatten.map
      (input.project fun name => first.retains name && second.retains name) := by
    rw [sent, Page.flatten_paged pool.pageSize_pos]
  exact ⟨outcome, outcome', direct, tally, done, opened, streamed,
    delivered.trans records.symm, records⟩

namespace Stage.Sample

def input : Schema :=
  ⟨[⟨"id", .long⟩, ⟨"name", .string⟩, ⟨"active", .boolean⟩, ⟨"score", .long⟩], by decide⟩

def first : Selection := ⟨some ["id", "ghost", "id"], none, true⟩

/-- What the first selection leaves. All columns have moved by one place. -/
def middle : Schema := ⟨[⟨"name", .string⟩, ⟨"active", .boolean⟩, ⟨"score", .long⟩], by decide⟩

def output : Schema := ⟨[⟨"name", .string⟩, ⟨"score", .long⟩], by decide⟩

/-- Lists its columns in another order, and one that the first selection has removed. -/
def second : Selection := ⟨none, some ["score", "id", "name"], true⟩

def earlier : Stage first := .plain first Transaction.Sample.pool

def later : Stage second := .plain second (.fresh 1 1 (by decide))

def pages : List Page :=
  [[[.long 1, .string "a", .boolean true, .long 7]], [],
    [[.null, .null, .boolean false, .long 8], [.long 3, .string "c", .null, .null]]]

end Stage.Sample

/-- Three records through two transactions with pages of two and of one record. -/
theorem sample_selections_compose :
    Stage.Sample.input.lookupTable Stage.Sample.output = .ok [none, some 0, none, some 1] ∧
    (Stage.Sample.later.delivers Stage.Sample.middle
      (Stage.Sample.earlier.delivers Stage.Sample.input Stage.Sample.pages)).flatten =
        [[.string "a", .long 7], [.null, .long 8], [.string "c", .null]] := by
  obtain ⟨p, q, hp, hq, -, -, table, runs⟩ := chained_selections_compose Stage.Sample.input
    (by decide : Stage.Sample.first.Tolerant) (by decide : Stage.Sample.second.Tolerant)
  have clean : ∀ record ∈ Stage.Sample.pages.flatten,
      Stage.Sample.input.Admits Stage.Sample.first.retains record := by decide
  have one : Projection.resolve Stage.Sample.input Stage.Sample.first =
      .ok ⟨.remove, Stage.Sample.middle, [none, some 0, some 1, some 2], ["ghost"]⟩ := rfl
  have two : Projection.resolve Stage.Sample.middle Stage.Sample.second =
      .ok ⟨.keep, Stage.Sample.output, [some 0, none, some 1], ["id"]⟩ := rfl
  rw [one] at hp
  cases hp
  rw [two] at hq
  cases hq
  obtain ⟨-, -, direct, tally, done, -, -, same, records⟩ := runs Stage.Sample.earlier
    Stage.Sample.later (.fresh 2 3 (by decide)) Stage.Sample.earlier.sink Stage.Sample.pages
    Stage.Sample.earlier.collects clean
  exact ⟨table, same.trans records⟩

end Transaction

end TypedPages
