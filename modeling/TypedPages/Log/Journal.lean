import TypedPages.Log
import TypedPages.Log.Template

/-!
# Journals

A journal records the events that pass its threshold, with the fields that are bound while they
are logged. Bindings nest: the inner one wins and is undone when it ends. The arguments of an
event's wording can themselves be bound.
-/

namespace TypedPages

/-- Why an event cannot be logged. -/
inductive LogError where
  | template (cause : TemplateError)
  | repeatedArgument (call name : String)
  | noMethod (className name : String)
  | notRecord (className : String)
  | noLength (className : String)
  | noFirst
  deriving DecidableEq, Repr, Inhabited

/-- The wording of a log error. -/
def LogError.message : LogError → String
  | template cause => cause.message
  | repeatedArgument call name => s!"BoundLogger.{call}() got multiple values for argument '{name}'"
  | noMethod className name => s!"'{className}' object has no attribute '{name}'"
  | notRecord className => s!"'{className}' object has no attribute 'name'"
  | noLength className => s!"object of type '{className}' has no len()"
  | noFirst => "0"

/-- The least rank that is recorded, the bound fields of each level of nesting, innermost first and
complete, and the recorded events in order. -/
structure Journal where
  threshold : Nat
  contexts : List Entries
  events : List LogEvent
  deriving Inhabited

namespace Journal

/-- What can happen to a journal. A message of the program has its template filled whatever its
level; one from elsewhere only when it is recorded, and a template that cannot be filled loses it.
-/
inductive Step where
  | log (method : LogMethod) (logger template : String) (arguments : List Document)
    (fields : Entries)
  | logForeign (method : LogMethod) (logger template : String) (arguments : List Document)
  | bind (context : Entries)
  | unbind
  deriving Inhabited

/-- The call of a name, which loggers of a class have to have. -/
def method (className name : String) : Except LogError LogMethod :=
  match LogMethod.ofName? name with
  | some method => .ok method
  | none => .error (.noMethod className name)

/-- An empty journal. -/
def ofThreshold (threshold : Nat) : Journal :=
  ⟨threshold, [], []⟩

/-- The fields that are bound now. -/
def context (j : Journal) : Entries :=
  j.contexts.headD []

/-- Records an event, which is complete, if it passes. -/
def record (j : Journal) (e : LogEvent) : Journal :=
  if e.passes j.threshold then { j with events := j.events ++ [e] } else j

/-- The field that holds the arguments of an event's wording. -/
def argumentsField : String := "positional_args"

/-- The arguments that a field supplies, if there are any: those of a list, a text as the only one,
or a mapping of several values. -/
def supplyOf? (d : Document) : Except LogError (Option Template.Supply) :=
  if d.isVoid then .ok none
  else match d with
    | .list [.mapping (entry :: entries)] => .ok (some (.ofValue (.mapping (entry :: entries))))
    | .mapping [_] => .error .noFirst
    | .list _ | .mapping _ | .text _ => .ok (some (.ofValue d))
    | _ => .error (.noLength d.className)

/-- Completes an event: its wording is filled with the arguments that a field supplies, and the
field goes. A field that is null is one like any other. -/
def complete (e : LogEvent) : Except LogError LogEvent :=
  match e.fields.lookup argumentsField with
  | none | some .null => .ok e
  | some d => do
    let e := { e with fields := e.fields.erase argumentsField }
    match ← supplyOf? d with
    | none => return e
    | some supply =>
      let event ← (Template.fillFrom supply e.event).mapError .template
      return { e with event := event }

/-- Arguments of the calls by which the program logs, which no field may be called like. -/
def checkFields (method : LogMethod) (fields : Entries) : Except LogError Unit :=
  match fields.find? fun field => field.1 == "event" || field.1 == "self" with
  | some field => .error (.repeatedArgument method.name field.1)
  | none =>
    if (fields.lookup "method_name").isSome then
      .error (.repeatedArgument "_proxy_to_logger" "method_name")
    else .ok ()

/-- A field that stands for a foreign record has to be one, and no document is. -/
def checkRecord (fields : Entries) : Except LogError Unit :=
  match fields.lookup "_record" with
  | none | some .null => .ok ()
  | some d => .error (.notRecord d.className)

/-- The event that a call of the program logs. Its own arguments win over those that are bound. -/
def eventOf (context : Entries) (method : LogMethod) (logger template : String)
    (arguments : List Document) (fields : Entries) : Except LogError LogEvent := do
  checkFields method fields
  let e := LogEvent.within context ⟨method.level, logger, template, fields⟩
  checkRecord e.fields
  if arguments.isEmpty then complete e
  else
    let text ← (Template.fill template arguments).mapError .template
    return { e with event := text, fields := e.fields.erase argumentsField }

/-- The event of a message from elsewhere. -/
def foreignEvent (context : Entries) (method : LogMethod) (logger template : String)
    (arguments : List Document) : Except LogError LogEvent := do
  let text ← (Template.fill template arguments).mapError .template
  complete ⟨method.level, logger, text, context⟩

/-- Performs a step. -/
def step (j : Journal) : Step → Except LogError Journal
  | .log method logger template arguments fields =>
    (eventOf j.context method logger template arguments fields).map j.record
  | .logForeign method logger template arguments =>
    match foreignEvent j.context method logger template arguments with
    | .ok e => .ok (j.record e)
    | .error _ => .ok j
  | .bind context =>
    let merged := context.foldl (fun fields (key, value) => fields.insert key value) j.context
    .ok { j with contexts := merged :: j.contexts }
  | .unbind => .ok { j with contexts := j.contexts.drop 1 }

end Journal

end TypedPages
