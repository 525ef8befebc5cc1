import TypedPages.Document
import TypedPages.Document.Json.Fault

/-!
# JSON

Documents as JSON texts. A number with a point or a power of ten is read as a real number, every
other number as a whole number; the three special real numbers have names. Of entries that share
a key the last one gives the value.
-/

namespace TypedPages

namespace Json

/-- The blanks between the parts of a JSON text. -/
def isSpace (c : Char) : Bool :=
  c == ' ' || c == '\t' || c == '\n' || c == '\r'

/-- Drops blanks. -/
def skip (cs : List Char) : List Char :=
  cs.dropWhile isSpace

/-- The character that a short escape stands for. -/
def shortEscape? : Char → Option Char
  | '"' => some '"'
  | '\\' => some '\\'
  | '/' => some '/'
  | 'b' => some (.ofNat 8)
  | 'f' => some (.ofNat 12)
  | 'n' => some '\n'
  | 'r' => some '\r'
  | 't' => some '\t'
  | _ => none

/-- The character of two halves of a surrogate pair. -/
def paired (high low : Nat) : Char :=
  .ofNat (0x10000 + (high - 0xD800) * 0x400 + (low - 0xDC00))

/-- A fault at the front of a rest of the text. -/
def fault (problem : Problem) (rest : List Char) : Fault :=
  ⟨problem, rest.length⟩

/-- The number of the four digits of an escape, which begin behind the letter at the front. Text
has to follow them. -/
def code (cs : List Char) : Except Fault Nat :=
  match if (cs.drop 5).isEmpty then none else Text.hexNat? ((cs.drop 1).take 4) with
  | some n => .ok n
  | none => .error (fault .badCode cs)

/-- Whether the second half of a surrogate pair may begin here. -/
def mayPair (cs : List Char) : Bool :=
  cs.take 2 == ['\\', 'u'] && !(cs.drop 6).isEmpty

/-- Reads an escape behind its backslash, with the number of its characters. -/
def escape (cs : List Char) : Except Fault (Char × Nat) :=
  if cs.head? = some 'u' then do
    let high ← code cs
    let rest := cs.drop 5
    if 0xD800 ≤ high ∧ high < 0xDC00 ∧ mayPair rest then
      let low ← code (rest.drop 1)
      if 0xDC00 ≤ low ∧ low < 0xE000 then return (paired high low, 11)
    return (.ofNat high, 5)
  else match cs.head?.bind shortEscape? with
    | some c => .ok (c, 1)
    | none => .error ⟨.badEscape, cs.length + 1⟩

/-- Reads a text up to its closing mark, on top of the characters read before, which stand
backwards. The text began at the front of `opened`; `skipped` characters belong to an escape that
is read already. -/
def readText (opened read : List Char) : Nat → List Char → Except Fault (String × List Char)
  | skipped + 1, _ :: cs => readText opened read skipped cs
  | 0, '"' :: cs => .ok (.ofList read.reverse, cs)
  | 0, '\\' :: cs =>
    if cs.isEmpty then .error (fault .openText opened)
    else do
      let (c, length) ← escape cs
      readText opened (c :: read) length cs
  | 0, c :: cs =>
    if c.toNat < 0x20 then .error (fault .controlCharacter (c :: cs))
    else readText opened (c :: read) 0 cs
  | _, [] => .error (fault .openText opened)

/-- Reads a text with its opening mark. -/
def text (cs : List Char) : Except Fault (String × List Char) :=
  readText cs [] 0 (cs.drop 1)

/-- The digits at the front. -/
def digits (cs : List Char) : List Char :=
  cs.takeWhile Char.isDigit

/-- The whole part of a number, which has no superfluous zeros. -/
def wholePart : List Char → List Char
  | '0' :: _ => ['0']
  | cs => digits cs

/-- A point with digits after it. -/
def fraction : List Char → List Char
  | '.' :: cs => if (digits cs).isEmpty then [] else '.' :: digits cs
  | _ => []

/-- A power of ten: its mark, a sign or none, and digits. -/
def power : List Char → List Char
  | mark :: cs =>
    let sign := cs.takeWhile fun c => c == '+' || c == '-'
    let number := digits (cs.drop sign.length)
    if (mark = 'e' ∨ mark = 'E') ∧ sign.length ≤ 1 ∧ !number.isEmpty then mark :: sign ++ number
    else []
  | [] => []

/-- Reads a number off the front. It is real if it has a fraction or a power of ten. -/
def number? (cs : List Char) : Option (Document × List Char) :=
  let sign := if cs.head? = some '-' then ['-'] else []
  let whole := wholePart (cs.drop sign.length)
  let front := sign ++ whole
  let fraction := fraction (cs.drop front.length)
  let power := power (cs.drop (front.length + fraction.length))
  let all := front ++ fraction ++ power
  let d := if front.length = all.length then (Text.int? all).map Document.whole
    else (Double.ofText? all).map Document.real
  if whole.isEmpty then none else d.map fun d => (d, cs.drop all.length)

/-- The words that stand for a document, with what they stand for. -/
def words : List (List Char × Document) := [
  ("null".toList, .null), ("true".toList, .flag true), ("false".toList, .flag false),
  ("NaN".toList, .real .nan), ("Infinity".toList, .real (.infinity false)),
  ("-Infinity".toList, .real (.infinity true))]

/-- Reads a word or a number off the front. -/
def readScalar (cs : List Char) : Except Fault (Document × List Char) :=
  match words.find? fun word => word.1.isPrefixOf cs with
  | some (word, d) => .ok (d, cs.drop word.length)
  | none =>
    match number? cs with
    | some read => .ok read
    | none => .error (fault .noValue cs)

mutual

/-- Reads a value off the front, before which there are no blanks. The fuel bounds the number of
parts that it has. -/
def readValue : Nat → List Char → Except Fault (Document × List Char)
  | 0, cs => .error (fault .noValue cs)
  | fuel + 1, cs =>
    match cs with
    | '"' :: _ => (text cs).map fun (s, rest) => (.text s, rest)
    | '[' :: rest =>
      match skip rest with
      | ']' :: rest => .ok (.list [], rest)
      | rest => (readItems fuel rest).map fun (items, rest) => (.list items, rest)
    | '\x7b' :: rest =>
      match skip rest with
      | '\x7d' :: rest => .ok (.mapping [], rest)
      | rest => (readEntries fuel [] rest).map fun (entries, rest) => (.mapping entries, rest)
    | cs => readScalar cs

/-- Reads the items of a list and its closing bracket. -/
def readItems : Nat → List Char → Except Fault (List Document × List Char)
  | 0, cs => .error (fault .noValue cs)
  | fuel + 1, cs => do
    let (item, rest) ← readValue fuel cs
    match skip rest with
    | ',' :: rest =>
      let (items, rest) ← readItems fuel (skip rest)
      return (item :: items, rest)
    | ']' :: rest => return ([item], rest)
    | rest => throw (fault .noComma rest)

/-- Reads the entries of a mapping and its closing brace, on top of those read before. -/
def readEntries : Nat → Entries → List Char → Except Fault (Entries × List Char)
  | 0, _, cs => .error (fault .noKey cs)
  | fuel + 1, read, cs =>
    match cs with
    | '"' :: _ => do
      let (key, rest) ← text cs
      match skip rest with
      | ':' :: rest =>
        let (value, rest) ← readValue fuel (skip rest)
        let read := (key, value) :: read
        match skip rest with
        | ',' :: rest => readEntries fuel read (skip rest)
        | '\x7d' :: rest => return (Entries.mapKeys id read.reverse, rest)
        | rest => throw (fault .noComma rest)
      | rest => throw (fault .noColon rest)
    | cs => .error (fault .noKey cs)

end

/-- Reads characters that are one document with nothing but blanks around it. -/
def readChars (cs : List Char) : Except Fault Document := do
  if cs.head? = some '\uFEFF' then throw (fault .byteOrderMark cs)
  let (d, rest) ← readValue (2 * cs.length + 2) (skip cs)
  if (skip rest).isEmpty then return d else throw (fault .moreThanOne (skip rest))

/-- `readChars` on a string. -/
def read? (s : String) : Option Document :=
  (readChars s.toList).toOption

/-- One character of a written text. -/
def escaped (c : Char) : List Char :=
  if c = '"' ∨ c = '\\' then ['\\', c]
  else if c = '\n' then ['\\', 'n']
  else if c.toNat < 0x20 then '\\' :: 'u' :: Text.hex 4 c.toNat
  else [c]

/-- A text between quotation marks. -/
def textChars (s : String) : List Char :=
  '"' :: s.toList.flatMap escaped ++ ['"']

/-- A real number; the special ones by their names. -/
def realChars : Double → List Char
  | .nan => "NaN".toList
  | .infinity negative => Double.signText negative ++ "Infinity".toList
  | value => value.text

mutual

/-- The JSON text of a document, without blanks. -/
def chars : Document → List Char
  | .null => "null".toList
  | .flag value => (if value then "true" else "false").toList
  | .whole value => value.repr.toList
  | .real value => realChars value
  | .text value => textChars value
  | .moment value => textChars (.ofList value.text)
  | .list items => '[' :: Text.joined [','] (itemChars items) ++ [']']
  | .mapping entries => '\x7b' :: Text.joined [','] (entryChars entries) ++ ['\x7d']

def itemChars : List Document → List (List Char)
  | [] => []
  | item :: items => chars item :: itemChars items

def entryChars : List (String × Document) → List (List Char)
  | [] => []
  | (key, value) :: entries => (textChars key ++ ':' :: chars value) :: entryChars entries

end

/-- `chars` as a string. -/
def write (d : Document) : String :=
  .ofList (chars d)

end Json

end TypedPages
