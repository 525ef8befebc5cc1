import TypedPages.Proofs.Derivation
import TypedPages.Proofs.Ending
import TypedPages.Proofs.Entries

/-!
# The log of a transaction

However many pages a transaction has, it logs a few events and no more: one or two while the
selection is resolved, and one or two at the end of its stream. In between nothing is logged, so
the totals in an event at the end are an account of the whole feeding. They count the pages that
were fed without an error; the page that stopped the feeding is not among them, however much of it
went through.
-/

namespace TypedPages

/-! ## Bound fields -/

namespace LogEvent

variable {e : LogEvent} {context : Entries} {key text : String} {log log' : List LogEvent}

/-- A field of its own is what an event has first of all, and then the fields bound around it. -/
theorem lookup_within (distinct : e.fields.keys.Nodup) :
    (e.within context).fields.lookup key = (e.fields.lookup key).or (context.lookup key) := by
  obtain ⟨level, logger, event, fields⟩ := e
  change (fields.foldl _ context).lookup key = (fields.lookup key).or (context.lookup key)
  change fields.keys.Nodup at distinct
  -- The fields are set one by one, so each of them is bound around those that follow it.
  induction fields generalizing context with
  | nil => rfl
  | cons field rest ih =>
      obtain ⟨own, value⟩ := field
      obtain ⟨new, others⟩ := List.nodup_cons.mp distinct
      rw [List.foldl_cons, ih others, Entries.lookup_insert, List.lookup_cons]
      by_cases same : key = own
      · have absent : rest.lookup own = none :=
          Option.eq_none_iff_forall_ne_some.mpr fun value found =>
            new (Entries.mem_keys_iff.mpr ⟨value, found⟩)
        simp [same, absent]
      · simp [same, beq_eq_false_iff_ne.mpr same]

/-- The events of a log that have a wording. -/
def worded (text : String) (log : List LogEvent) : List LogEvent :=
  log.filter (·.event == text)

@[simp] theorem worded_append :
    worded text (log ++ log') = worded text log ++ worded text log' :=
  List.filter_append _ _

@[simp] theorem worded_within :
    worded text (log.map (.within context)) = (worded text log).map (.within context) :=
  List.filter_map

theorem worded_eq_nil (other : ∀ e ∈ log, e.event ≠ text) : worded text log = [] :=
  List.filter_eq_nil_iff.mpr fun e member same => other e member (beq_iff_eq.mp same)

/-- The event bears the id of a transaction and the name of the built-in filter. -/
def Attributed (id : String) (e : LogEvent) : Prop :=
  e.fields.lookup "transaction_id" = some (.text id) ∧
    e.fields.lookup "plugin" = some (.text Filter.removeColumns.name)

/-- Fields of its own do not hide what is bound around an event. -/
theorem attributed_within (id : String) (distinct : e.fields.keys.Nodup)
    (anonymous : e.fields.lookup "transaction_id" = none)
    (plugin : e.fields.lookup "plugin" = none ∨
      e.fields.lookup "plugin" = some (.text Filter.removeColumns.name)) :
    (e.within (Transaction.context id)).Attributed id := by
  constructor
  · rw [lookup_within distinct, anonymous]
    rfl
  · rw [lookup_within distinct]
    rcases plugin with absent | own
    · rw [absent]
      rfl
    · rw [own]
      rfl

end LogEvent

/-! ## Feeding -/

namespace Projector

/-- The pages are fed one after the other, each without an error, and lead from one projector to the
other. -/
inductive Feeds [Host] : Projector → List Page → Projector → Prop where
  | nil (p : Projector) : Feeds p [] p
  | cons {p q r : Projector} {page : Page} {pages : List Page} (fed : p.feed page = (.ok (), q))
      (later : Feeds q pages r) : Feeds p (page :: pages) r

/-- The page that would be fed next, if there is one, is fed with an error. -/
def Stops [Host] (p : Projector) (pages : List Page) : Prop :=
  ∀ page ∈ pages.head?, ∃ e, (p.feed page).1 = .error e

theorem stops_nil [Host] (p : Projector) : p.Stops [] := by
  intro page next
  cases next

theorem stops_cons [Host] {p q : Projector} {page : Page} {pages : List Page} {e : Error}
    (failed : p.feed page = (.error e, q)) : p.Stops (page :: pages) := by
  intro next same
  obtain rfl := Option.some.inj same
  exact ⟨e, congrArg Prod.fst failed⟩

end Projector

namespace Tally

variable {t : Tally} {page : Page} {pages : List Page}

theorem passed_cons : t.passed (page :: pages) = (t.pull.count page).passed pages := by
  simp only [passed, pull, count, List.length_cons, List.flatten_cons, List.length_append, mk.injEq]
  omega

end Tally

namespace Transaction

open TypedPages.Filter (removeColumns projectionOf resolvedEvent skipReport)
open LogEvent (worded)

section

variable {source : Source} {tally : Tally} {p p' : Projector} {streamed : Except Error Unit}

/-- Feeding goes through some of the pages and counts them. It goes on to the last one, or it stops
at the next one, which was taken but is not counted. -/
theorem feedAll_cases [Host] (pages : List Page) (tally : Tally) (p : Projector) :
    ∃ through rest q, pages = through ++ rest ∧ p.Feeds through q ∧
      (rest = [] ∧ feedAll pages tally p = (.ok (), tally.passed through, q) ∨
        ∃ page later e q', rest = page :: later ∧ q.feed page = (.error e, q') ∧
          feedAll pages tally p = (.error e, (tally.passed through).pull, q')) := by
  -- A page that goes through is counted before the others, so the totals at the start vary.
  induction pages generalizing tally p with
  | nil => exact ⟨[], [], p, rfl, .nil p, .inl ⟨rfl, rfl⟩⟩
  | cons page pages ih =>
      rw [feedAll]
      cases fed : p.feed page with
      | mk answer q =>
          cases answer with
          | error e => exact ⟨[], page :: pages, p, rfl, .nil p, .inr ⟨_, _, e, q, rfl, fed, rfl⟩⟩
          | ok =>
              obtain ⟨through, rest, r, rfl, feeds, ends⟩ := ih (tally.pull.count page) q
              rw [← Tally.passed_cons] at ends
              exact ⟨page :: through, rest, r, rfl, .cons fed feeds, ends⟩

/-- The totals of a stream are those of the pages that were fed without an error. -/
theorem tally_of_stream [Host] (hstream : stream source p = (streamed, tally, p')) :
    ∃ through rest q, source.pages = through ++ rest ∧ p.Feeds through q ∧ q.Stops rest ∧
      tally.pages = through.length ∧ tally.records = through.flatten.length := by
  obtain ⟨through, rest, q, split, feeds, ends⟩ := feedAll_cases source.pages .zero p
  have records : (Tally.zero.passed through).records = through.flatten.length := Nat.zero_add _
  refine ⟨through, rest, q, split, feeds, ?_⟩
  rcases ends with ⟨rfl, passed⟩ | ⟨page, later, e, q', rfl, failed, stopped⟩
  · have tallied : tally = Tally.zero.passed through := by
      rw [stream, passed] at hstream
      cases failure : source.failure <;> simp only [failure] at hstream <;> cases hstream <;> rfl
    rw [tallied]
    exact ⟨q.stops_nil, Nat.zero_add _, records⟩
  · rw [stream, stopped] at hstream
    cases hstream
    exact ⟨Projector.stops_cons failed, Nat.zero_add _, records⟩

/-! ## The events in order -/

/-- What is logged at the end of a stream, by how streaming ended. -/
inductive Tells (tally : Tally) (p : Projector) : Except Error Unit → List LogEvent → Prop where
  | aborted (e : Error) : Tells tally p (.error e) [event .error "Transaction aborted" tally]
  | finished : Tells tally p (.ok ()) [p.finishEvent]
  | completed : Tells tally p (.ok ())
      [p.finishEvent, event .debug "Transaction complete" tally]

namespace Tells

variable {told : List LogEvent} {e : LogEvent}

theorem conduct [Host] (id : String) (output : Schema) (pool : BufferPool)
    (hstream : stream source p = (streamed, tally, p')) :
    Tells tally p' streamed (conduct id output source p pool).log := by
  rw [Transaction.conduct, hstream]
  cases closing : p'.close pool with
  | mk closed after =>
      simp only [closing]
      cases streamed with
      | error e => cases closed <;> exact .aborted e
      | ok =>
          cases closed with
          | error e => exact .finished
          | ok => exact .completed

variable (h : Tells tally p streamed told)
include h

theorem length_le : told.length ≤ 2 := by
  cases h with
  | aborted => exact Nat.le_succ 1
  | finished => exact Nat.le_succ 1
  | completed => exact Nat.le_refl 2

/-- Each event is one with the totals of the transaction, or that of a finished stream. -/
theorem cases_of_mem (member : e ∈ told) : e = event .error "Transaction aborted" tally ∨
    e = event .debug "Transaction complete" tally ∨ e = p.finishEvent := by
  cases h with
  | aborted => exact .inl (List.mem_singleton.mp member)
  | finished => exact .inr (.inr (List.mem_singleton.mp member))
  | completed =>
      rcases List.mem_cons.mp member with first | second
      · exact .inr (.inr first)
      · exact .inr (.inl (List.mem_singleton.mp second))

theorem event_of_mem (member : e ∈ told) :
    e.event ∈ ["Transaction aborted", "Transaction complete", "Projection finished"] := by
  rcases h.cases_of_mem member with rfl | rfl | rfl
  · exact List.mem_cons_self
  · exact List.mem_cons_of_mem _ List.mem_cons_self
  · exact List.mem_cons_of_mem _ (List.mem_cons_of_mem _ List.mem_cons_self)

/-- An abortion is told with the totals of the transaction. -/
theorem eq_of_aborted (member : e ∈ told) (aborted : e.event = "Transaction aborted") :
    e = event .error "Transaction aborted" tally := by
  rcases h.cases_of_mem member with rfl | rfl | rfl
  · rfl
  · simp [event] at aborted
  · simp [Projector.finishEvent] at aborted

theorem attributed (id : String) (member : e ∈ told) :
    (e.within (context id)).Attributed id := by
  have totals : ["pages_in", "records_in"].Nodup := by decide
  have finished : ["pages_in", "records_in", "records_out", "pages_out"].Nodup := by decide
  rcases h.cases_of_mem member with rfl | rfl | rfl
  · exact LogEvent.attributed_within id totals rfl (.inl rfl)
  · exact LogEvent.attributed_within id totals rfl (.inl rfl)
  · exact LogEvent.attributed_within id finished rfl (.inl rfl)

end Tells

end

section

variable {pool : BufferPool} {config : Document} {input : Schema} {source : Source} {sink : Sink}
variable {accept : Option (Schema → Bool)} {told : List LogEvent} {e : LogEvent}

/-- What a transaction logs after its proposal: nothing if this is not settled on, and else the end
of the stream that is opened. -/
inductive Sequel [Host] (pool : BufferPool) (config : Document) (input : Schema) (source : Source)
    (sink : Sink) (accept : Option (Schema → Bool)) : List LogEvent → Prop where
  | unsettled {e : Error}
      (failed : ((removeColumns.propose config input).settle removeColumns.name accept).outcome =
        .error e) :
      Sequel pool config input source sink accept []
  | streamed {task : Document} {output : Schema} {p p' : Projector} {pool' : BufferPool}
      {streamed : Except Error Unit} {tally : Tally} {told : List LogEvent}
      (settled : ((removeColumns.propose config input).settle removeColumns.name accept).outcome =
        .ok (task, output))
      (opened : removeColumns.openStream pool task input output sink = .opened p pool')
      (hstream : stream source p = (streamed, tally, p')) (tells : Tells tally p' streamed told) :
      Sequel pool config input source sink accept told

theorem exists_sequel [Host] (pool : BufferPool) (config : Document) (input : Schema)
    (source : Source) (sink : Sink) (accept : Option (Schema → Bool)) (id : String) :
    ∃ told, Sequel pool config input source sink accept told ∧
      (run removeColumns pool config input source sink accept id).log =
        ((removeColumns.propose config input).log ++ told).map (.within (context id)) := by
  cases settled :
      ((removeColumns.propose config input).settle removeColumns.name accept).outcome with
  | error e =>
      refine ⟨[], .unsettled settled, ?_⟩
      rw [run]
      simp only [settled]
      rfl
  | ok settlement =>
      obtain ⟨task, output⟩ := settlement
      obtain ⟨p, opened, -⟩ := opened_of_settled settled pool sink
      refine ⟨_, .streamed settled opened rfl (.conduct id output pool.allocate.2 rfl), ?_⟩
      rw [run]
      simp only [settled, opened]
      rfl

namespace Sequel

variable [Host] (h : Sequel pool config input source sink accept told)
include h

theorem length_le : told.length ≤ 2 := by
  cases h with
  | unsettled => exact Nat.zero_le 2
  | streamed _ _ _ tells => exact tells.length_le

theorem event_of_mem (member : e ∈ told) :
    e.event ∈ ["Transaction aborted", "Transaction complete", "Projection finished"] := by
  cases h with
  | unsettled => cases member
  | streamed _ _ _ tells => exact tells.event_of_mem member

theorem attributed (id : String) (member : e ∈ told) :
    (e.within (context id)).Attributed id := by
  cases h with
  | unsettled => cases member
  | streamed _ _ _ tells => exact tells.attributed id member

end Sequel

/-! ## What the log says -/

variable {projection : Projection}

/-- A configuration of which nothing can be made leaves the log empty. -/
theorem log_of_projectionOf_error [Host] {cause : Error} (id : String)
    (failed : projectionOf config input = .error cause) :
    (run removeColumns pool config input source sink accept id).log = [] := by
  obtain ⟨told, sequel, log⟩ := exists_sequel pool config input source sink accept id
  have unsettled (name : String) :
      ((removeColumns.propose config input).settle name accept).outcome = .error cause :=
    Filter.settle_of_projectionOf_error failed
  cases sequel with
  | unsettled =>
      rw [log]
      change ((Filter.proposeSelection config input).log ++ []).map _ = []
      rw [Filter.proposeSelection_of_projectionOf_error failed]
      rfl
  | streamed settled =>
      rw [unsettled] at settled
      cases settled

theorem worded_of_sequel [Host] (text : String)
    (h : Sequel pool config input source sink accept told)
    (other : text ∉ ["Transaction aborted", "Transaction complete", "Projection finished"]) :
    worded text told = [] :=
  LogEvent.worded_eq_nil fun _ member same => other (same ▸ h.event_of_mem member)

/-- The totals of an abortion are those of the pages that the stream was fed without an error. -/
theorem totals_of_aborted [Host] {id : String}
    (member : e ∈ (run removeColumns pool config input source sink accept id).log)
    (aborted : e.event = "Transaction aborted") :
    ∃ task output p pool' through rest q,
      ((removeColumns.propose config input).settle removeColumns.name accept).outcome =
        .ok (task, output) ∧
      removeColumns.openStream pool task input output sink = .opened p pool' ∧
      source.pages = through ++ rest ∧ p.Feeds through q ∧ q.Stops rest ∧
      e.fields.lookup "pages_in" = some (.ofNat through.length) ∧
      e.fields.lookup "records_in" = some (.ofNat through.flatten.length) := by
  obtain ⟨told, sequel, log⟩ := exists_sequel pool config input source sink accept id
  rw [log] at member
  obtain ⟨own, logged, rfl⟩ := List.mem_map.mp member
  rw [LogEvent.event_within] at aborted
  have ending : own.isEnding = true := by
    simp [LogEvent.isEnding, aborted]
  -- The filter reports no end while it proposes, so it is the stream that was aborted.
  rcases List.mem_append.mp logged with early | late
  · have found : own ∈ (removeColumns.propose config input).log.filter LogEvent.isEnding :=
      List.mem_filter.mpr ⟨early, ending⟩
    rw [filter_isEnding_propose] at found
    cases found
  · cases sequel with
    | unsettled => cases late
    | @streamed task output p p' pool' streamed tally _ settled opened hstream tells =>
        obtain rfl := tells.eq_of_aborted late aborted
        obtain ⟨through, rest, q, split, feeds, stops, pages, records⟩ := tally_of_stream hstream
        refine ⟨task, output, p, pool', through, rest, q, settled, opened, split, feeds, stops, ?_⟩
        rw [← pages, ← records]
        exact ⟨rfl, rfl⟩

section

variable (pool : BufferPool) (source : Source) (sink : Sink) (accept : Option (Schema → Bool))
variable (id : String) (made : projectionOf config input = .ok projection)
include made

/-- The log begins with what there is to say about the projection that is made. -/
theorem log_of_projectionOf [Host] :
    ∃ told, Sequel pool config input source sink accept told ∧
      (run removeColumns pool config input source sink accept id).log =
        (skipReport projection ++ resolvedEvent input projection :: told).map
          (.within (context id)) := by
  obtain ⟨told, sequel, log⟩ := exists_sequel pool config input source sink accept id
  refine ⟨told, sequel, ?_⟩
  rw [log]
  change ((Filter.proposeSelection config input).log ++ told).map _ = _
  rw [Filter.log_of_projectionOf made, List.append_assoc]
  rfl

theorem skips_of_projectionOf [Host] :
    worded "Skipping unmatched columns"
        (run removeColumns pool config input source sink accept id).log =
      (skipReport projection).map (.within (context id)) := by
  obtain ⟨told, sequel, log⟩ := log_of_projectionOf pool source sink accept id made
  have own : worded "Skipping unmatched columns" (skipReport projection) =
      skipReport projection := by
    rw [skipReport]
    split <;> rfl
  have later := worded_of_sequel "Skipping unmatched columns" sequel (by decide)
  rw [log, LogEvent.worded_within, LogEvent.worded_append, own, worded, List.filter_cons_of_neg,
    ← worded, later, List.append_nil]
  simp [resolvedEvent]

theorem resolutions_of_projectionOf [Host] :
    worded "Resolved column projection"
        (run removeColumns pool config input source sink accept id).log =
      [(resolvedEvent input projection).within (context id)] := by
  obtain ⟨told, sequel, log⟩ := log_of_projectionOf pool source sink accept id made
  have earlier : worded "Resolved column projection" (skipReport projection) = [] := by
    rw [skipReport]
    split <;> rfl
  have later := worded_of_sequel "Resolved column projection" sequel (by decide)
  rw [log, LogEvent.worded_within, LogEvent.worded_append, earlier, worded,
    List.filter_cons_of_pos rfl, ← worded, later]
  rfl

theorem attributed_of_projectionOf [Host] :
    ∀ e ∈ (run removeColumns pool config input source sink accept id).log, e.Attributed id := by
  obtain ⟨told, sequel, log⟩ := log_of_projectionOf pool source sink accept id made
  have names : ["mode", "columns"].Nodup := by decide
  have counts : ["plugin", "mode", "input_columns", "output_columns", "dropped"].Nodup := by decide
  rw [log, List.forall_mem_map, List.forall_mem_append, List.forall_mem_cons]
  refine ⟨?_, ?_, fun e member => sequel.attributed id member⟩
  · rw [skipReport]
    split
    · exact List.forall_mem_nil _
    · rw [List.forall_mem_singleton]
      exact LogEvent.attributed_within id names rfl (.inl rfl)
  · exact LogEvent.attributed_within id counts rfl (.inr rfl)

end

theorem length_log_le [Host] (id : String) :
    (run removeColumns pool config input source sink accept id).log.length ≤ 4 := by
  cases made : projectionOf config input with
  | error cause =>
      rw [log_of_projectionOf_error id made]
      exact Nat.zero_le 4
  | ok projection =>
      obtain ⟨told, sequel, log⟩ := log_of_projectionOf pool source sink accept id made
      have skipped : (skipReport projection).length ≤ 1 := by
        rw [skipReport]
        split
        · exact Nat.zero_le 1
        · exact Nat.le_refl 1
      have ended := sequel.length_le
      rw [log, List.length_map, List.length_append, List.length_cons]
      omega

section

variable (pool : BufferPool) (config : Document) (input : Schema) (source : Source) (sink : Sink)
variable (accept : Option (Schema → Bool)) (id : String)

/-- Names that no column has are reported once, if there are any and a projection is made. -/
theorem skips_tell [Host] :
    let skips := worded "Skipping unmatched columns"
      (run removeColumns pool config input source sink accept id).log
    skips.length ≤ 1 ∧
    (skips ≠ [] ↔ ∃ p, projectionOf config input = .ok p ∧ p.unmatched ≠ []) ∧
    ∀ p, projectionOf config input = .ok p →
      ∀ e ∈ skips, e.fields.lookup "columns" = some (.ofTexts p.unmatched) := by
  intro skips
  cases made : projectionOf config input with
  | error cause =>
      have none : skips = [] := congrArg (worded _) (log_of_projectionOf_error id made)
      rw [none]
      exact ⟨Nat.zero_le 1, iff_of_false (fun some => some rfl) nofun, nofun⟩
  | ok projection =>
      have whole : skips = (skipReport projection).map (.within (context id)) :=
        skips_of_projectionOf pool source sink accept id made
      by_cases none : projection.unmatched = []
      · rw [whole, Filter.skipReport_of_nil none]
        refine ⟨Nat.zero_le 1, iff_of_false (fun some => some rfl) ?_, nofun⟩
        rintro ⟨_, ⟨⟩, some⟩
        exact some none
      · rw [whole, Filter.skipReport_of_ne_nil none]
        refine ⟨Nat.le_refl 1, iff_of_true (List.cons_ne_nil _ _) ⟨_, rfl, none⟩, ?_⟩
        rintro _ ⟨⟩ e member
        obtain rfl := List.mem_singleton.mp member
        rfl

/-- A projection that is made is reported once, with counts that add up. -/
theorem resolutions_tell [Host] :
    let resolutions := worded "Resolved column projection"
      (run removeColumns pool config input source sink accept id).log
    resolutions.length ≤ 1 ∧
    (resolutions ≠ [] ↔ ∃ p, projectionOf config input = .ok p) ∧
    ∀ p, projectionOf config input = .ok p → p.dropped + p.output.size = input.size ∧
      ∀ e ∈ resolutions, e.fields.lookup "input_columns" = some (.ofNat input.size) ∧
        e.fields.lookup "output_columns" = some (.ofNat p.output.size) ∧
        e.fields.lookup "dropped" = some (.ofNat p.dropped) := by
  intro resolutions
  cases made : projectionOf config input with
  | error cause =>
      have none : resolutions = [] := congrArg (worded _) (log_of_projectionOf_error id made)
      rw [none]
      exact ⟨Nat.zero_le 1, iff_of_false (fun some => some rfl) nofun, nofun⟩
  | ok projection =>
      have single : resolutions = [(resolvedEvent input projection).within (context id)] :=
        resolutions_of_projectionOf pool source sink accept id made
      rw [single]
      refine ⟨Nat.le_refl 1, iff_of_true (List.cons_ne_nil _ _) ⟨_, rfl⟩, ?_⟩
      rintro _ ⟨⟩
      obtain ⟨s, -, resolved⟩ := Filter.projectionOf_eq_ok_iff.mp made
      refine ⟨Projection.dropped_add_size resolved, ?_⟩
      intro e member
      obtain rfl := List.mem_singleton.mp member
      exact ⟨rfl, rfl, rfl⟩

/-- What there is to say about a projection is said first. -/
theorem log_eq_append [Host] :
    let log := (run removeColumns pool config input source sink accept id).log
    ∃ others, log = worded "Skipping unmatched columns" log ++
      worded "Resolved column projection" log ++ others := by
  intro log
  cases made : projectionOf config input with
  | error cause =>
      have empty : log = [] := log_of_projectionOf_error id made
      exact ⟨[], by rw [empty]; rfl⟩
  | ok projection =>
      obtain ⟨told, -, whole⟩ := log_of_projectionOf pool source sink accept id made
      refine ⟨told.map (.within (context id)), ?_⟩
      rw [skips_of_projectionOf pool source sink accept id made,
        resolutions_of_projectionOf pool source sink accept id made]
      show (run removeColumns pool config input source sink accept id).log = _
      rw [whole, List.map_append, List.append_assoc]
      rfl

end

/-- What the log of a transaction of the built-in filter tells, whatever its configuration, its
source and its sink are. It has at most four events, and each bears the id of the transaction and
the name of the filter. If a projection is made, it is reported once, with counts that add up, and
the names that no column has are reported once before it if there are any; if none is made, there is
no such report. An abortion is told with the number of the pages that were fed without an error and
with the number of their records; the page that was to be fed next, if there was one, failed. -/
theorem log_accounts_for_run [Host] (pool : BufferPool) (config : Document) (input : Schema)
    (source : Source) (sink : Sink) (accept : Option (Schema → Bool)) (id : String) :
    let log := (run removeColumns pool config input source sink accept id).log
    let skips := worded "Skipping unmatched columns" log
    let resolutions := worded "Resolved column projection" log
    (log.filter (·.passes LogLevel.debug.rank)).length ≤ 4 ∧
    (∀ e ∈ log, e.fields.lookup "transaction_id" = some (.text id) ∧
      e.fields.lookup "plugin" = some (.text removeColumns.name)) ∧
    (∃ others, log = skips ++ resolutions ++ others) ∧
    skips.length ≤ 1 ∧
    (skips ≠ [] ↔ ∃ p, projectionOf config input = .ok p ∧ p.unmatched ≠ []) ∧
    (∀ p, projectionOf config input = .ok p →
      ∀ e ∈ skips, e.fields.lookup "columns" = some (.ofTexts p.unmatched)) ∧
    resolutions.length ≤ 1 ∧
    (resolutions ≠ [] ↔ ∃ p, projectionOf config input = .ok p) ∧
    (∀ p, projectionOf config input = .ok p → p.dropped + p.output.size = input.size ∧
      ∀ e ∈ resolutions, e.fields.lookup "input_columns" = some (.ofNat input.size) ∧
        e.fields.lookup "output_columns" = some (.ofNat p.output.size) ∧
        e.fields.lookup "dropped" = some (.ofNat p.dropped)) ∧
    ∀ e ∈ log, e.event = "Transaction aborted" → ∃ task output p pool' through rest q,
      ((removeColumns.propose config input).settle removeColumns.name accept).outcome =
        .ok (task, output) ∧
      removeColumns.openStream pool task input output sink = .opened p pool' ∧
      source.pages = through ++ rest ∧ p.Feeds through q ∧ q.Stops rest ∧
      e.fields.lookup "pages_in" = some (.ofNat through.length) ∧
      e.fields.lookup "records_in" = some (.ofNat through.flatten.length) := by
  intro log skips resolutions
  have bound : (log.filter (·.passes LogLevel.debug.rank)).length ≤ 4 :=
    Nat.le_trans (List.length_filter_le _ _) (length_log_le id)
  obtain ⟨skipped, skips_iff, names⟩ := skips_tell pool config input source sink accept id
  obtain ⟨once, resolutions_iff, counts⟩ :=
    resolutions_tell pool config input source sink accept id
  refine ⟨bound, ?_, log_eq_append pool config input source sink accept id, skipped, skips_iff,
    names, once, resolutions_iff, counts, fun e member aborted => totals_of_aborted member aborted⟩
  cases made : projectionOf config input with
  | error cause =>
      have empty : log = [] := log_of_projectionOf_error id made
      rw [empty]
      exact List.forall_mem_nil _
  | ok projection => exact attributed_of_projectionOf pool source sink accept id made

namespace Sample

/-- The second name is one that no column has. -/
def lenient : Document := .mapping [("remove", .ofTexts ["name", "ghost"]),
  ("accept_unmatched_columns", .flag true)]

end Sample

/-- The first record of the second page completes an output page, which is refused. So the second
page is not counted, although it has begun. -/
example : ((run removeColumns Sample.pool Sample.lenient Sample.input
      ⟨[[[.long 1, .null]], [[.long 2, .null], [.long 3, .null]]], none⟩ (Sample.unwilling false)
      none "t").log.map fun e =>
        (e.event, e.fields.lookup "columns", e.fields.lookup "records_in")) =
    [("Skipping unmatched columns", some (.ofTexts ["ghost"]), none),
      ("Resolved column projection", none, none),
      ("Transaction aborted", none, some (.ofNat 1))] := rfl

end

end Transaction

end TypedPages
