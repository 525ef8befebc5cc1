import TypedPages.Document.Yaml.Moment
import TypedPages.Document.Yaml.Number

/-!
# Meanings of scalars

What a plain scalar stands for: nothing, a truth value, a number, a moment, or its own text.
-/

namespace TypedPages

namespace Yaml

/-- A scalar that stands for a document, for nothing that a document holds, or for its own text. -/
inductive Meaning where
  | document (d : Document)
  | nothing
  | itself
  deriving Inhabited

namespace Meaning

/-- The document of a meaning that must not fail. -/
def ofOption : Option Document → Meaning
  | some d => document d
  | none => nothing

end Meaning

/-- The words that stand for null. -/
def nullWords : List String := ["", "~", "null", "Null", "NULL"]

/-- The words of the truth values. -/
def flagWords : List (String × Bool) := [
  ("true", true), ("True", true), ("TRUE", true),
  ("false", false), ("False", false), ("FALSE", false)]

/-- The words that have a meaning as keys only. -/
def keyWords : List String := ["<<", "="]

/-- The meaning of a plain scalar. A number begins with a digit, a sign or a point; one with
underscores in place of all its digits stands for nothing, and so does a word for keys. -/
def meaning (s : String) : Meaning :=
  let cs := s.toList
  let (negative, digits) := splitSign cs
  if nullWords.contains s then .document .null
  else if let some value := flagWords.lookup s then .document (.flag value)
  else if infinityWords.contains (.ofList digits) then .document (.real (.infinity negative))
  else if nanWords.contains s then .document (.real .nan)
  else if cs.head? = some '_' then .itself
  else if isReal digits then .ofOption (real? negative digits)
  else if isWhole digits then .ofOption (whole? negative digits)
  else if keyWords.contains s then .nothing
  else match moment? cs with
    | some m => .ofOption (validMoment? m)
    | none => .itself

end Yaml

end TypedPages
