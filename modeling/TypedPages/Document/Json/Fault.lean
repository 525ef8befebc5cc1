/-!
# Faults in JSON texts

What is wrong with a text that is no JSON text, and where: the first character that cannot stand
where it does, or the start of what is not complete.
-/

namespace TypedPages

namespace Json

/-- What is wrong with a text. -/
inductive Problem where
  | noValue
  | noKey
  | noColon
  | noComma
  | openText
  | controlCharacter
  | badEscape
  | badCode
  | moreThanOne
  | byteOrderMark
  deriving DecidableEq, Repr, Inhabited

/-- How messages name a problem. -/
def Problem.message : Problem → String
  | noValue => "Expecting value"
  | noKey => "Expecting property name enclosed in double quotes"
  | noColon => "Expecting ':' delimiter"
  | noComma => "Expecting ',' delimiter"
  | openText => "Unterminated string starting at"
  | controlCharacter => "Invalid control character at"
  | badEscape => "Invalid \\escape"
  | badCode => "Invalid \\uXXXX escape"
  | moreThanOne => "Extra data"
  | byteOrderMark => "Unexpected UTF-8 BOM (decode using utf-8-sig)"

/-- A problem and the number of characters of the text that lie behind the place of it. -/
structure Fault where
  problem : Problem
  left : Nat
  deriving DecidableEq, Repr, Inhabited

/-- The report on a fault in a text. Lines and columns count from one, characters from zero. -/
def Fault.message (f : Fault) (cs : List Char) : String :=
  let before := cs.take (cs.length - f.left)
  let line := before.count '\n' + 1
  let column := (before.reverse.takeWhile (· ≠ '\n')).length + 1
  s!"{f.problem.message}: line {line} column {column} (char {before.length})"

end Json

end TypedPages
