import TypedPages.Document
import TypedPages.Validation

/-!
# Reading documents

Readers turn documents into typed values or into the list of everything that is wrong with them.
They are lenient where configuration files and environment variables need it: numbers and flags
may be written as texts.
-/

namespace TypedPages

/-- A value, or all issues of the document that it was read from. -/
abbrev Checked (α : Type) := Except (List Issue) α

namespace Checked

/-- The issues; none if a value was read. -/
def issues {α : Type} : Checked α → List Issue
  | .ok _ => []
  | .error issues => issues

/-- A single problem of the document itself. -/
def problem {α : Type} (p : Problem) : Checked α :=
  .error [.here p]

/-- Places the issues of a part into the whole. -/
def under {α : Type} (step : PathStep) (c : Checked α) : Checked α :=
  c.mapError (·.map (.under step))

/-- Reads a field that has to be there. -/
def required {α : Type} (name : String) (read : Document → Checked α) (entries : Entries) :
    Checked α :=
  match entries.lookup name with
  | some d => (read d).under (.field name)
  | none => .error [⟨[.field name], .missingField⟩]

/-- Reads a field that has a default. -/
def optional {α : Type} (name : String) (default : α) (read : Document → Checked α)
    (entries : Entries) : Checked α :=
  match entries.lookup name with
  | some d => (read d).under (.field name)
  | none => .ok default

/-- One issue for each field that is not declared, in the order of the document. -/
def unknownFields (declared : List String) (entries : Entries) : List Issue :=
  (entries.filter fun entry => !declared.contains entry.1).map fun entry =>
    ⟨[.field entry.1], .unknownField⟩

end Checked

namespace Document

/-- Reads a text. Nothing else is taken for one. -/
def readText : Document → Checked String
  | text value => .ok value
  | _ => .problem .notText

/-- Reads the texts of a list from position `index` on. -/
def readTextItems (index : Nat) : List Document → Checked (List String)
  | [] => .ok []
  | item :: items =>
    match (readText item).under (.item index), readTextItems (index + 1) items with
    | .ok first, .ok rest => .ok (first :: rest)
    | first, rest => .error (first.issues ++ rest.issues)

/-- Reads a list of texts. -/
def readTexts : Document → Checked (List String)
  | list items => readTextItems 0 items
  | _ => .problem .notList

/-- Reads null, or a list of texts. -/
def readOptionalTexts : Document → Checked (Option (List String))
  | null => .ok none
  | d => (readTexts d).map some

/-- The texts that stand for true, in lower case. -/
def trueTexts : List String := ["1", "t", "true", "y", "yes", "on"]

/-- The texts that stand for false, in lower case. -/
def falseTexts : List String := ["0", "f", "false", "n", "no", "off"]

/-- Whether a whole number is a signed word of 64 bits. -/
def isWord (n : Int) : Bool :=
  -(Nat.pow 2 63 : Int) ≤ n && n < Nat.pow 2 63

/-- Whether a real number lies strictly inside the range of words. Those outside are not taken for
whole numbers. -/
def insideWord (n : Int) : Bool :=
  n.natAbs < Nat.pow 2 63

/-- A flag written as a number: one or zero. Only words are looked at. -/
def flagOfWhole (n : Int) : Checked Bool :=
  if n = 0 then .ok false
  else if n = 1 then .ok true
  else if isWord n then .problem .unreadableFlag
  else .problem .notFlag

/-- Reads a flag: a truth value, one of the numbers zero and one, or a text for it in any letter
case. -/
def readFlag : Document → Checked Bool
  | flag value => .ok value
  | whole value => flagOfWhole value
  | real value =>
    match value.toInt? with
    | some n => if insideWord n then flagOfWhole n else .problem .notFlag
    | none => .problem .notFlag
  | text value =>
    let lowered := String.ofList (value.toList.map Char.toLower)
    if trueTexts.contains lowered then .ok true
    else if falseTexts.contains lowered then .ok false
    else .problem .unreadableFlag
  | _ => .problem .notFlag

/-- Drops zeros in front of a numeral, and underscores between and behind them. A numeral of
zeros keeps its last character, a zero before a point stays, and a negative numeral is left as it
is. Nothing else than a digit may follow the zeros. -/
def dropLeadingZeros? : List Char → Option (List Char)
  | '0' :: cs =>
    let rest := cs.dropWhile fun c => c == '0' || c == '_'
    match rest with
    | [] => some (('0' :: cs).drop cs.length)
    | '.' :: _ => some (('0' :: cs).drop (cs.length - rest.length))
    | c :: _ => if c.isDigit then some rest else none
  | c :: cs => if c.isDigit || c == '-' then some (c :: cs) else none
  | [] => none

/-- Drops a point and the zeros after it, at least one. -/
def dropZeroFraction (cs : List Char) : List Char :=
  match cs.dropWhile (· ≠ '.') with
  | _ :: c :: zeros => if (c :: zeros).all (· == '0') then cs.takeWhile (· ≠ '.') else cs
  | _ => cs

/-- Drops underscores if each of them stands alone between other characters. -/
def dropUnderscores (cs : List Char) : List Char :=
  let groups := cs.splitOn '_'
  if groups.any List.isEmpty then cs else groups.flatten

/-- A numeral without what may surround and divide it: blanks, a plus sign, leading zeros, a
fraction of zeros and underscores. -/
def cleanNumeral? (cs : List Char) : Option (List Char) :=
  let unsigned := match Text.stripBy Text.isWhiteSpace cs with
    | '+' :: '-' :: _ => none
    | '+' :: cs => some cs
    | cs => some cs
  (unsigned.bind dropLeadingZeros?).map fun cs => dropUnderscores (dropZeroFraction cs)

/-- The number of characters that a numeral may have. -/
def numeralLimit : Nat := 4300

/-- Reads a whole number off a numeral, which has no superfluous zeros. -/
def wholeOfNumeral (cs : List Char) : Checked Int :=
  let (negative, digits) := match cs with
    | '-' :: cs => (true, cs)
    | cs => (false, cs)
  if digits.head? = some '0' ∧ digits ≠ ['0'] then .problem .unreadableWhole
  else if numeralLimit < (if negative then 1 else 0) + (digits.takeWhile Char.isDigit).length then
    .problem .tooLarge
  else match Text.nat? digits with
    | some n => .ok (if negative then -(n : Int) else n)
    | none => .problem .unreadableWhole

/-- Reads a whole number off a text. -/
def wholeOfText (s : String) : Checked Int :=
  match cleanNumeral? s.toList with
  | some numeral => wholeOfNumeral numeral
  | none => .problem .unreadableWhole

/-- Reads a whole number: a number without a fraction, a truth value, or a text for it. -/
def readWhole : Document → Checked Int
  | whole value => .ok value
  | flag value => .ok (if value then 1 else 0)
  | real value =>
    match value.toInt? with
    | some n => if insideWord n then .ok n else .problem .tooLarge
    | none => .problem .fractional
  | text value => wholeOfText value
  | _ => .problem .notWhole

/-- Reads a whole number of at least one. -/
def readPositive (d : Document) : Checked Nat :=
  match readWhole d with
  | .ok n => if 1 ≤ n then .ok n.toNat else .problem .belowOne
  | .error issues => .error issues

/-- Reads a mapping of any entries. -/
def readMapping : Document → Checked Entries
  | mapping entries => .ok entries
  | _ => .problem .notMapping

end Document

end TypedPages
