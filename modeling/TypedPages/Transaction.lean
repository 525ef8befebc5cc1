import TypedPages.Filter

/-!
# Transactions

One transaction settles what the filter proposes, opens its stream, feeds it every page of a
source in order, finishes it and closes it. The stream is closed also when feeding or finishing
failed, and a failure of closing is then the one that is reported. Nothing is tried twice.
-/

namespace TypedPages

/-- The pages that a source delivers, and the failure that comes after them, if one does. -/
structure Source where
  pages : List Page
  failure : Option Failure
  deriving Inhabited

/-- What a completed transaction tells about itself. -/
structure Summary where
  id : String
  output : Schema
  pages : Nat
  records : Nat
  deriving Inhabited

/-- Pages taken from the source, and of those that went through, their number and records. -/
structure Tally where
  pulled : Nat
  pages : Nat
  records : Nat
  deriving DecidableEq, Repr, Inhabited

/-- Everything that can be observed of a transaction. -/
structure Report where
  outcome : Except Error Summary
  sink : Sink
  pool : BufferPool
  offered : List Schema
  pulled : Nat
  log : List LogEvent

namespace Source

/-- A source that breaks instead of delivering the page of the given number, or after its last
page if there are fewer. -/
def breakingAt (pages : List Page) (number : Nat) (failure : Failure) : Source :=
  ⟨pages.take number, some failure⟩

end Source

namespace Tally

/-- Nothing taken yet. -/
def zero : Tally := ⟨0, 0, 0⟩

/-- A page was taken. -/
def pull (t : Tally) : Tally :=
  { t with pulled := t.pulled + 1 }

/-- The page taken last went through. -/
def count (t : Tally) (page : Page) : Tally :=
  { t with pages := t.pages + 1, records := t.records + page.length }

end Tally

namespace Transaction

/-- The id of a transaction: the one given, unless it is missing or empty. -/
def idOr (fresh : String) : Option String → String
  | none => fresh
  | some given => if given.isEmpty then fresh else given

/-- Feeds pages until one fails. -/
def feedAll [Host] : List Page → Tally → Projector → Except Error Unit × Tally × Projector
  | [], tally, p => (.ok (), tally, p)
  | page :: pages, tally, p =>
    match p.feed page with
    | (.ok (), p) => feedAll pages (tally.pull.count page) p
    | (.error e, p) => (.error e, tally.pull, p)

/-- Feeds all that a source delivers and finishes the stream, unless the source fails. -/
def stream [Host] (source : Source) (p : Projector) : Except Error Unit × Tally × Projector :=
  match feedAll source.pages .zero p with
  | (.error e, tally, p) => (.error e, tally, p)
  | (.ok (), tally, p) =>
    match source.failure with
    | some failure => (.error (.failure failure), tally, p)
    | none =>
      let (answer, p) := p.finish
      (answer, tally, p)

/-- An event of the transaction itself, with its tally. -/
def event (level : LogLevel) (text : String) (tally : Tally) : LogEvent where
  level := level
  logger := "colsieve.engine.runner"
  event := text
  fields := [("pages_in", .ofNat tally.pages), ("records_in", .ofNat tally.records)]

/-- Streams a source through an open projector and closes it. -/
def conduct [Host] (id : String) (output : Schema) (source : Source) (p : Projector)
    (pool : BufferPool) : Report :=
  let (streamed, tally, p) := stream source p
  let report := match streamed with
    | .ok () => p.finishEvent
    | .error _ => event .error "Transaction aborted" tally
  let (closed, p, pool) := p.close pool
  let (outcome, complete) : Except Error Summary × List LogEvent :=
    match closed, streamed with
    | .error e, _ => (.error e, [])
    | .ok (), .error e => (.error e, [])
    | .ok (), .ok () =>
      (.ok ⟨id, output, tally.pages, tally.records⟩, [event .debug "Transaction complete" tally])
  { outcome, sink := p.writer.sink, pool, offered := [], pulled := tally.pulled,
    log := report :: complete }

/-- Runs a filter over a source. All events carry the id and the filter's name. -/
def run [Host] (filter : Filter) (pool : BufferPool) (config : Document) (input : Schema)
    (source : Source) (sink : Sink) (accept : Option (Schema → Bool)) (id : String) : Report :=
  let negotiation := filter.propose config input
  let settlement := negotiation.settle filter.name accept
  let report : Report := match settlement.outcome with
    | .error e =>
      { outcome := .error e, sink, pool, offered := [], pulled := 0, log := [] }
    | .ok (task, output) =>
      match filter.openStream pool task input output sink with
      | .refused e sink pool =>
        { outcome := .error e, sink, pool, offered := [], pulled := 0, log := [] }
      | .opened p pool => conduct id output source p pool
  let context : Entries := [("transaction_id", .text id), ("plugin", .text filter.name)]
  { report with
    offered := settlement.offered
    log := (negotiation.log ++ report.log).map (.within context) }

/-- Runs a filter over a source under the id that is given, or under a fresh one. What holds of
`run` holds for every id, and so for this one. -/
def perform [Host] (filter : Filter) (pool : BufferPool) (config : Document) (input : Schema)
    (source : Source) (sink : Sink) (accept : Option (Schema → Bool)) (fresh : String)
    (given : Option String) : Report :=
  run filter pool config input source sink accept (idOr fresh given)

end Transaction

end TypedPages
