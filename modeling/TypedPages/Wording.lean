import TypedPages.Document.Json
import TypedPages.Log
import TypedPages.Validation

/-!
# Wording

Two texts are not put together here. A library that validates documents reports what is wrong with
one, and a library that logs lays out the lines of events. Whatever they write goes where it
belongs; what it looks like is left to them.
-/

namespace TypedPages

/-- How others word what is handed to them: the report on a document that is no good under the name
of a subject, and the line of the event at a place in the log, which may be asked for as JSON. A
line shows the time, so it depends on the place. -/
class Wording where
  report : String → Entries → List Issue → String
  line : Bool → Nat → LogEvent → String

namespace Wording

/-- The part of a report that is about one issue. The refused value is not repeated. -/
def paragraph (issue : Issue) : String :=
  let path := ".".intercalate (issue.path.map PathStep.text)
  s!"\n{path}\n  {issue.problem.message} [type={issue.problem.code}]"

/-- Reports without the refused values, and lines without the time, which are JSON in any case. -/
instance brief : Wording where
  report subject _ issues := Issue.heading issues subject ++ "".intercalate (issues.map paragraph)
  line _ _ e := Json.write e.toDocument ++ "\n"

/-- The lines of the events that are severe enough for a threshold. -/
def lines [Wording] (json : Bool) (threshold : Nat) (log : List LogEvent) : String :=
  "".intercalate ((log.filter (·.passes threshold)).zipIdx.map fun (e, place) => line json place e)

@[simp] theorem lines_nil [Wording] (json : Bool) (threshold : Nat) :
    lines json threshold [] = "" :=
  rfl

end Wording

end TypedPages
