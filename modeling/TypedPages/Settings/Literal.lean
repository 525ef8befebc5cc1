import TypedPages.Settings.Literal.Moment
import TypedPages.Settings.Literal.Number
import TypedPages.Settings.Literal.Text
import TypedPages.Text.Blank
import TypedPages.Text.Case

/-!
# Literals

Values as they are written in variables of the environment: truth values, whole and real numbers,
dates and times, quoted texts, arrays and tables. What is none of these is a plain text.
-/

namespace TypedPages

namespace Literal

/-! ## Tables -/

/-- A table while it is read, and the paths of those of its parts that dotted keys have made. Only
to these can dotted keys add. -/
structure Table where
  entries : Entries
  opened : List (List String)
  deriving Inhabited

namespace Table

/-- Puts a value at a path of keys below the path walked so far. No value is given twice. -/
def insertAt (opened : List (List String)) (value : Document) (walked : List String) :
    List String → Entries → Option Entries
  | [], _ => none
  | [key], entries =>
    if (entries.lookup key).isSome then none else some (entries.insert key value)
  | key :: path, entries =>
    let walked := walked ++ [key]
    match entries.lookup key with
    | none =>
      (insertAt opened value walked path []).map fun inner => entries.insert key (.mapping inner)
    | some (.mapping inner) =>
      if opened.contains walked then
        (insertAt opened value walked path inner).map fun inner =>
          entries.insert key (.mapping inner)
      else none
    | some _ => none

/-- Puts a value at a path of keys. -/
def insert? (t : Table) (path : List String) (value : Document) : Option Table :=
  (insertAt t.opened value [] path t.entries).map fun entries =>
    ⟨entries, ((List.range path.length).drop 1).map path.take ++ t.opened⟩

end Table

/-- The characters of keys that need no quotes. -/
def isKeyChar (c : Char) : Bool :=
  c.isAlphanum || c == '_' || c == '-'

/-- Reads one key, which is quoted on one line or not at all. -/
def key? (cs : List Char) : Option (String × List Char) :=
  match cs with
  | '"' :: rest => readLine rest.length.succ '"' [] rest
  | '\'' :: rest => readLine rest.length.succ '\'' [] rest
  | cs =>
    let key := cs.takeWhile isKeyChar
    if key.isEmpty then none else some (.ofList key, cs.dropWhile isKeyChar)

/-- Reads keys with dots between them, of which there are `fuel` at most. -/
def path? : Nat → List Char → Option (List String × List Char)
  | 0, _ => none
  | fuel + 1, cs => do
    let (key, rest) ← key? cs
    match skip rest with
    | '.' :: rest =>
      let (path, rest) ← path? fuel (skip rest)
      return (key :: path, rest)
    | rest => return ([key], rest)

/-! ## Values -/

mutual

/-- Reads a value off the front; the fuel bounds the number of its parts. -/
def readValue : Nat → List Char → Option (Document × List Char)
  | 0, _ => none
  | fuel + 1, cs =>
    match cs with
    | 't' :: 'r' :: 'u' :: 'e' :: rest => some (.flag true, rest)
    | 'f' :: 'a' :: 'l' :: 's' :: 'e' :: rest => some (.flag false, rest)
    | '"' :: _ | '\'' :: _ => (text? cs).map fun (s, rest) => (.text s, rest)
    | '[' :: rest => (readItems fuel [] rest).map fun (items, rest) => (.list items, rest)
    | '\x7b' :: rest =>
      match skip rest with
      | '\x7d' :: rest => some (.mapping [], rest)
      | rest => (readTable fuel ⟨[], []⟩ rest).map fun (t, rest) => (.mapping t.entries, rest)
    | cs =>
      match moment? cs with
      | some (m, rest) => some (.moment m, rest)
      | none => number? cs

/-- Reads the items of an array and its closing bracket, on top of those read before, which stand
backwards. A comma may follow the last item, and items may stand on several lines. -/
def readItems : Nat → List Document → List Char → Option (List Document × List Char)
  | 0, _, _ => none
  | fuel + 1, read, cs => do
    match ← skipLines cs.length cs with
    | ']' :: rest => return (read.reverse, rest)
    | cs =>
      let (item, rest) ← readValue fuel cs
      match ← skipLines rest.length rest with
      | ']' :: rest => return ((item :: read).reverse, rest)
      | ',' :: rest => readItems fuel (item :: read) rest
      | _ => none

/-- Reads the entries of a table and its closing brace, on top of those read before. A table stands
on one line. -/
def readTable : Nat → Table → List Char → Option (Table × List Char)
  | 0, _, _ => none
  | fuel + 1, table, cs => do
    let (path, rest) ← path? cs.length cs
    match rest with
    | '=' :: rest =>
      let (value, rest) ← readValue fuel (skip rest)
      let table ← table.insert? path value
      match skip rest with
      | '\x7d' :: rest => return (table, rest)
      | ',' :: rest => readTable fuel table (skip rest)
      | _ => none
    | _ => none

end

/-- The characters of a text with one character for each line end. -/
def unixLines : List Char → List Char
  | '\r' :: '\n' :: cs => '\n' :: unixLines cs
  | c :: cs => c :: unixLines cs
  | [] => []

/-- Reads a literal that has nothing but blanks and comments behind it. -/
def read? (cs : List Char) : Option Document := do
  let (value, rest) ← readValue (cs.length + 1) (skip cs)
  let rest ← skipLines rest.length rest
  if rest.isEmpty then return value else none

/-- The two truth values may begin with a capital when they stand alone. -/
def lowerFlag (s : String) : String :=
  let alone := Text.trim s
  if alone = "True" ∨ alone = "False" then Text.lower s else s

/-- The value of a variable: what its literal says, or its text. -/
def value (s : String) : Document :=
  let s := lowerFlag s
  (read? (unixLines s.toList)).getD (.text s)

end Literal

end TypedPages
