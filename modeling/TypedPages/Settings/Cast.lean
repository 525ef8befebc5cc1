import TypedPages.Checked
import TypedPages.Document.Json
import TypedPages.Text.Blank
import TypedPages.Text.Case
import TypedPages.Text.Quoted

/-!
# Casts

A text in the settings can ask for a type: it begins with a mark, and what follows the mark is read
as a value of that type.
-/

namespace TypedPages

/-- Why a text cannot be cast: what follows the mark is no value of the type, or no mark is spelled
like this. -/
inductive CastError where
  | notWhole (text : String)
  | notReal (text : String)
  | notJson (report : String)
  | unknownMark (mark : String)
  deriving DecidableEq, Repr, Inhabited

namespace CastError

/-- A text behind what is wrong with it. -/
def about (problem text : String) : String :=
  problem ++ ": " ++ .ofList (Text.quoted text)

/-- The report on a text that cannot be cast. -/
def message : CastError → String
  | notWhole text => about "invalid literal for int() with base 10" text
  | notReal text => about "could not convert string to float" text
  | notJson report => report
  | unknownMark mark => .ofList (Text.quoted mark)

end CastError

namespace Cast

/-- What a mark asks for. -/
inductive Target where
  | text
  | whole
  | real
  | flag
  | json
  | nothing
  deriving DecidableEq, Repr, Inhabited

/-- The marks. -/
def marks : List (String × Target) := [
  ("@str", .text), ("@int", .whole), ("@float", .real), ("@bool", .flag), ("@json", .json),
  ("@note", .nothing), ("@comment", .nothing), ("@null", .nothing), ("@none", .nothing)]

/-- The texts that stand for true, in lower case. All others stand for false. -/
def trueTexts : List String := ["t", "true", "enabled", "1", "on", "yes"]

/-- The digits of a number without the blanks around it and without underscores that stand alone
between two digits. -/
def digitsOf (s : String) : List Char :=
  Document.dropUnderscores (Text.stripBy Text.isWhiteSpace s.toList)

/-- A text as a value of a type. -/
def toTarget (s : String) : Target → Except CastError Document
  | .text => .ok (.text s)
  | .whole =>
    match Text.int? (digitsOf s) with
    | some n => .ok (.whole n)
    | none => .error (.notWhole s)
  | .real =>
    match Double.ofText? ((digitsOf s).map Char.toLower) with
    | some x => .ok (.real x)
    | none => .error (.notReal s)
  | .flag => .ok (.flag (trueTexts.contains (Text.lower s)))
  | .json =>
    (Json.readChars s.toList).mapError fun fault => .notJson (fault.message s.toList)
  | .nothing => .ok .null

/-- Casts a text that begins like a mark; there is none for a text that does not. The mark ends at
the first blank. -/
def ofText? (s : String) : Option (Except CastError Document) :=
  if marks.any fun entry => s.startsWith entry.1 then
    let mark := String.ofList (s.toList.takeWhile (· ≠ ' '))
    let rest := String.ofList ((s.toList.dropWhile (· ≠ ' ')).drop 1)
    some (match marks.lookup mark with
      | some target => toTarget rest target
      | none => .error (.unknownMark mark))
  else none

end Cast

namespace Document

mutual

/-- Casts all texts of a document that ask for it. -/
def cast : Document → Except CastError Document
  | text s => (Cast.ofText? s).getD (.ok (text s))
  | list items => (castItems items).map list
  | mapping entries => (castEntries entries).map mapping
  | d => .ok d

def castItems : List Document → Except CastError (List Document)
  | [] => .ok []
  | item :: items => do
    let item ← cast item
    let items ← castItems items
    return item :: items

def castEntries : List (String × Document) → Except CastError (List (String × Document))
  | [] => .ok []
  | (key, value) :: entries => do
    let value ← cast value
    let entries ← castEntries entries
    return (key, value) :: entries

end

end Document

end TypedPages
