/-!
# Validation issues

What can be wrong with a configuration document, and where. Reading a document collects every
issue before it gives up, so that all of them can be reported together.
-/

namespace TypedPages

/-- One step from a document into one of its parts. -/
inductive PathStep where
  | field (name : String)
  | item (index : Nat)
  deriving DecidableEq, Repr, Inhabited

/-- What is wrong with one part of a document. -/
inductive Problem where
  | unknownField
  | missingField
  | notText
  | notList
  | notMapping
  | notSection (name : String)
  | notFlag
  | unreadableFlag
  | notWhole
  | unreadableWhole
  | fractional
  | tooLarge
  | belowOne
  | refused (reason : String)
  | frozen
  deriving DecidableEq, Repr, Inhabited

/-- A problem and the path of the part that has it. -/
structure Issue where
  path : List PathStep
  problem : Problem
  deriving DecidableEq, Repr, Inhabited

namespace PathStep

/-- The written form of a step. -/
def text : PathStep → String
  | field name => name
  | item index => index.repr

end PathStep

namespace Problem

/-- The short name of a problem. -/
def code : Problem → String
  | unknownField => "extra_forbidden"
  | missingField => "missing"
  | notText => "string_type"
  | notList => "list_type"
  | notMapping => "dict_type"
  | notSection _ => "model_type"
  | notFlag => "bool_type"
  | unreadableFlag => "bool_parsing"
  | notWhole => "int_type"
  | unreadableWhole => "int_parsing"
  | fractional => "int_from_float"
  | tooLarge => "int_parsing_size"
  | belowOne => "greater_than_equal"
  | refused _ => "value_error"
  | frozen => "frozen_instance"

/-- The wording of a problem. -/
def message : Problem → String
  | unknownField => "Extra inputs are not permitted"
  | missingField => "Field required"
  | notText => "Input should be a valid string"
  | notList => "Input should be a valid list"
  | notMapping => "Input should be a valid dictionary"
  | notSection name => s!"Input should be a valid dictionary or instance of {name}"
  | notFlag => "Input should be a valid boolean"
  | unreadableFlag => "Input should be a valid boolean, unable to interpret input"
  | notWhole => "Input should be a valid integer"
  | unreadableWhole => "Input should be a valid integer, unable to parse string as an integer"
  | fractional => "Input should be a valid integer, got a number with a fractional part"
  | tooLarge => "Unable to parse input string as an integer, exceeded maximum size"
  | belowOne => "Input should be greater than or equal to 1"
  | refused reason => s!"Value error, {reason}"
  | frozen => "Instance is frozen"

end Problem

namespace Issue

/-- Places an issue of a part into the whole. -/
def under (step : PathStep) (issue : Issue) : Issue :=
  { issue with path := step :: issue.path }

/-- An issue of the document itself. -/
def here (problem : Problem) : Issue :=
  ⟨[], problem⟩

/-- The line by which a report shows an issue: its path with dots, and the wording. -/
def line (issue : Issue) : String :=
  let path := ".".intercalate (issue.path.map PathStep.text)
  s!"  - {path}: {issue.problem.message}"

/-- The heading over a report of issues. -/
def heading (issues : List Issue) (subject : String) : String :=
  let plural := if issues.length = 1 then "" else "s"
  s!"{issues.length} validation error{plural} for {subject}"

end Issue

end TypedPages
