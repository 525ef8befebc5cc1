import TypedPages.Document

/-!
# Numbers in literals

Whole numbers in four bases and real numbers, with single underscores between digits, and the
special real numbers.
-/

namespace TypedPages

namespace Literal

/-- The digits of a class up to the first other character. Single underscores between them are left
out. -/
def digits (isDigit : Char → Bool) : List Char → List Char × List Char
  | '_' :: c :: cs =>
    if isDigit c then let (read, rest) := digits isDigit cs; (c :: read, rest)
    else ([], '_' :: c :: cs)
  | c :: cs =>
    if isDigit c then let (read, rest) := digits isDigit cs; (c :: read, rest) else ([], c :: cs)
  | [] => ([], [])

/-- Reads one digit at least. -/
def digits? (isDigit : Char → Bool) : List Char → Option (List Char × List Char)
  | c :: cs =>
    if isDigit c then let (read, rest) := digits isDigit cs; some (c :: read, rest) else none
  | [] => none

/-- Reads the digits of a whole number in a base, which its marker names. -/
def inBase? (base : Nat) (cs : List Char) : Option (Document × List Char) := do
  let (read, rest) ← digits? (fun c => (Text.hexDigit? c).any (· < base)) cs
  let n ← Text.digitsValue? base Text.hexDigit? 0 read
  return (.whole n, rest)

/-- Reads the fraction of a number, if it has one. -/
def fraction : List Char → List Char × List Char
  | '.' :: cs => (digits? Char.isDigit cs).getD ([], '.' :: cs)
  | cs => ([], cs)

/-- Splits off a sign; without one a number is positive. -/
def sign : List Char → Bool × List Char
  | '-' :: cs => (true, cs)
  | '+' :: cs => (false, cs)
  | cs => (false, cs)

/-- Reads the power of ten of a number, if it has one. -/
def power? (cs : List Char) : Option (Int × List Char) :=
  match cs with
  | mark :: rest =>
    if mark = 'e' ∨ mark = 'E' then
      let (negative, rest) := sign rest
      (digits? Char.isDigit rest).map fun (read, rest) =>
        let n : Int := (Text.nat? read).getD 0
        (if negative then -n else n, rest)
    else none
  | [] => none

/-- Reads a decimal number. It has no superfluous zeros in front. -/
def decimal? (cs : List Char) : Option (Document × List Char) := do
  let (negative, cs) := sign cs
  let (front, rest) ← match cs with
    | '0' :: rest => some (['0'], rest)
    | cs => digits? Char.isDigit cs
  let n ← Text.nat? front
  let (back, after) := fraction rest
  match back, power? after with
  | [], none => return (.whole (if negative then -(n : Int) else n), rest)
  | back, power =>
    let (power, rest) := power.getD (0, after)
    let n ← Text.nat? (front ++ back)
    return (.real (.ofDecimal negative n (power - back.length)), rest)

/-- Reads a special real number behind its sign. -/
def special? (cs : List Char) : Option (Document × List Char) :=
  let (negative, cs) := sign cs
  match cs with
  | 'i' :: 'n' :: 'f' :: rest => some (.real (.infinity negative), rest)
  | 'n' :: 'a' :: 'n' :: rest => some (.real .nan, rest)
  | _ => none

/-- Reads a number. -/
def number? (cs : List Char) : Option (Document × List Char) :=
  let marked := match cs with
    | '0' :: 'x' :: rest => inBase? 16 rest
    | '0' :: 'o' :: rest => inBase? 8 rest
    | '0' :: 'b' :: rest => inBase? 2 rest
    | _ => none
  (marked.or (decimal? cs)).or (special? cs)

end Literal

end TypedPages
