import TypedPages.Projector

/-!
# Filters and negotiation

A filter takes part in a transaction twice. First it proposes, from its configuration and the
input schema, a task and an output schema; a proposal is settled when exactly one was made, it is
complete, and whoever asked accepts its schema. Then it opens a stream between the two schemas.
-/

namespace TypedPages

/-- What a filter proposes: a task to be handed to the opening, and an output schema. -/
structure Proposal where
  task : Option Document
  output : Option Schema
  deriving Inhabited

/-- All that a filter does while it proposes: what it logs, the proposals that it makes in order,
and the error with which it breaks off, if it does. -/
structure Negotiation where
  log : List LogEvent
  proposals : List Proposal
  ending : Option Error
  deriving Inhabited

/-- How a negotiation ends, and the schemas on which the acceptor was asked. -/
structure Settlement where
  outcome : Except Error (Document × Schema)
  offered : List Schema

/-- The result of opening a stream. A refusal leaves the sink and the pool behind. -/
inductive Opening where
  | opened (projector : Projector) (pool : BufferPool)
  | refused (cause : Error) (sink : Sink) (pool : BufferPool)

/-- A plugin that derives an output schema and opens streams to it. -/
structure Filter where
  name : String
  propose : Document → Schema → Negotiation
  openStream : BufferPool → Document → Schema → Schema → Sink → Opening

namespace Negotiation

/-- Makes proposals one by one until one cannot be made. -/
def ofAttempts : List (Except Error Proposal) → Negotiation
  | [] => ⟨[], [], none⟩
  | .error e :: _ => ⟨[], [], some e⟩
  | .ok proposal :: rest =>
    let later := ofAttempts rest
    { later with proposals := proposal :: later.proposals }

/-- Settles a negotiation. A second proposal is refused when it is made, before the filter can
break off with an error of its own. -/
def settle (n : Negotiation) (filter : String) (accept : Option (Schema → Bool)) : Settlement :=
  match n.proposals, n.ending with
  | _ :: _ :: _, _ => ⟨.error (.violation .secondProposal), []⟩
  | _, some e => ⟨.error e, []⟩
  | [⟨some task, some output⟩], none =>
    match accept with
    | none => ⟨.ok (task, output), []⟩
    | some accepts =>
      if accepts output then ⟨.ok (task, output), [output]⟩
      else ⟨.error (.rejected filter output.specs), [output]⟩
  | _, none => ⟨.error (.violation (.noProposal filter)), []⟩

end Negotiation

namespace Opening

/-- Opens a projector between two schemas. If they do not match, the writer stays open. -/
def plain (pool : BufferPool) (input output : Schema) (sink : Sink) : Opening :=
  let (writer, pool) := Writer.ofPool pool output sink
  match Projector.ofParts (.ofSchema input) writer with
  | .ok projector => .opened projector pool
  | .error e => .refused e writer.sink pool

/-- Opens a projector between two schemas. If they do not match, the writer is closed, and a
failure of that is reported instead. -/
def careful (pool : BufferPool) (input output : Schema) (sink : Sink) : Opening :=
  let (writer, pool) := Writer.ofPool pool output sink
  match Projector.ofParts (.ofSchema input) writer with
  | .ok projector => .opened projector pool
  | .error e =>
    match writer.close pool with
    | (.ok (), writer, pool) => .refused e writer.sink pool
    | (.error failure, writer, pool) => .refused failure writer.sink pool

end Opening

namespace Filter

/-- The name of the built-in filter. -/
def removeColumnsName : String := "remove_columns"

/-- The event that reports names which no column has. -/
def unmatchedEvent (choice : Choice) (unmatched : List String) : LogEvent where
  level := .debug
  logger := "colsieve.core.projection"
  event := "Skipping unmatched columns"
  fields := [("mode", .text choice.name), ("columns", .ofTexts unmatched)]

/-- The event that reports a resolved selection. -/
def resolvedEvent (input : Schema) (p : Projection) : LogEvent where
  level := .info
  logger := "colsieve.plugins.filters.remove_columns"
  event := "Resolved column projection"
  fields := [("plugin", .text removeColumnsName), ("mode", .text p.choice.name),
    ("input_columns", .ofNat input.size), ("output_columns", .ofNat p.output.size),
    ("dropped", .ofNat p.dropped)]

/-- What is logged while a selection is resolved: the names that no column has, as soon as they are
told from the others. The output schema is made only afterwards. -/
def resolutionLog (input : Schema) (s : Selection) : List LogEvent :=
  match s.names with
  | .error _ => []
  | .ok (choice, names) =>
    match input.matchNames s.acceptUnmatched names with
    | .error _ => []
    | .ok (_, unmatched) => if unmatched.isEmpty then [] else [unmatchedEvent choice unmatched]

/-- Proposes what a selection comes to, with the selection itself as the task. -/
def proposeSelection (config : Document) (input : Schema) : Negotiation :=
  match Selection.ofDocument config with
  | .error e => ⟨[], [], some (.options e)⟩
  | .ok s =>
    let log := resolutionLog input s
    match Projection.resolve input s with
    | .error e => ⟨log, [], some e⟩
    | .ok p => {
        log := log ++ [resolvedEvent input p]
        proposals := [⟨some s.toDocument, some p.output⟩]
        ending := none }

/-- Opens a stream for a task, which has to be the document of a selection. -/
def openSelection (pool : BufferPool) (task : Document) (input output : Schema) (sink : Sink) :
    Opening :=
  match Selection.ofDocument task with
  | .error e => .refused (.options e) sink pool
  | .ok _ => .careful pool input output sink

/-- The built-in filter, which removes or keeps named columns. -/
def removeColumns : Filter where
  name := removeColumnsName
  propose := proposeSelection
  openStream := openSelection

/-- A filter that makes the same attempts at a proposal whatever its configuration. -/
def scripted (name : String) (attempts : List (Except Error Proposal)) : Filter where
  name := name
  propose := fun _ _ => .ofAttempts attempts
  openStream := fun pool _ input output sink => .plain pool input output sink

end Filter

end TypedPages
