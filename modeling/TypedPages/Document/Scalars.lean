import TypedPages.Text.Digits

/-!
# Sequences of quoted scalars

How a list of texts is written as a block sequence. Each text stands between apostrophes if all
its characters are printable ASCII, else between quotation marks with escapes. A text that runs
past the best width is continued on an indented line.
-/

namespace TypedPages

namespace Scalars

/-- The column after which a text is continued on the next line. -/
def bestWidth : Nat := 80

/-- What stands in front of a text: a hyphen, a blank and the opening mark. -/
def startColumn : Nat := 3

/-- The indentation of a continued line. -/
def indent : Nat := 2

/-- The end of a line and the indentation of the next. -/
def lineBreak : List Char :=
  '\n' :: .replicate indent ' '

/-- Printable ASCII. -/
def isPlain (c : Char) : Bool :=
  0x20 ≤ c.toNat && c.toNat ≤ 0x7E

/-- A text between apostrophes, of which `blanks` before the rest are not written yet. A single
blank between words becomes a line break when the column is past the best width. -/
def singleBody (column blanks : Nat) (leading : Bool) : List Char → List Char
  | [] => .replicate blanks ' '
  | c :: cs =>
    if c = ' ' then singleBody column (blanks + 1) leading cs
    else
      let breaks := blanks = 1 ∧ bestWidth < column ∧ leading = false
      let gap := if breaks then lineBreak else .replicate blanks ' '
      let column := if breaks then indent else column + blanks
      let written := if c = '\'' then ['\'', '\''] else [c]
      gap ++ written ++ singleBody (column + written.length) 0 false cs

/-- The letters of short escapes. -/
def shortEscapes : List (Nat × Char) := [
  (0x00, '0'), (0x07, 'a'), (0x08, 'b'), (0x09, 't'), (0x0A, 'n'), (0x0B, 'v'), (0x0C, 'f'),
  (0x0D, 'r'), (0x1B, 'e'), (0x22, '"'), (0x5C, '\\'), (0x85, 'N'), (0xA0, '_'), (0x2028, 'L'),
  (0x2029, 'P')]

/-- The escape of a character. -/
def escape (c : Char) : List Char :=
  match shortEscapes.lookup c.toNat with
  | some letter => ['\\', letter]
  | none =>
    if c.toNat < 0x100 then '\\' :: 'x' :: Text.hexUpper 2 c.toNat
    else if c.toNat < 0x10000 then '\\' :: 'u' :: Text.hexUpper 4 c.toNat
    else '\\' :: 'U' :: Text.hexUpper 8 c.toNat

/-- A continued line, and a mark before a blank that it begins with. -/
def continued (next : Option Char) : List Char :=
  '\\' :: lineBreak ++ (if next = some ' ' then ['\\'] else [])

/-- The column at which a continued line goes on. -/
def continuedColumn (next : Option Char) : Nat :=
  if next = some ' ' then indent + 1 else indent

/-- A text between quotation marks, of which the plain characters of `run` are not written yet. A
line may be continued at a blank and after an escape, but not before the first or the last
character. -/
def doubleBody (column : Nat) (first : Bool) (run : List Char) : List Char → List Char
  | [] => run
  | c :: cs =>
    if isPlain c && c != '"' && c != '\\' then
      if !first && !cs.isEmpty && (c == ' ' || run.isEmpty) && bestWidth < column + run.length then
        run ++ continued (some c) ++ doubleBody (continuedColumn (some c)) false [c] cs
      else doubleBody column false (run ++ [c]) cs
    else
      let written := run ++ escape c
      let column := column + written.length
      if !first && !cs.isEmpty && bestWidth + 1 < column then
        written ++ continued cs.head? ++ doubleBody (continuedColumn cs.head?) false [] cs
      else written ++ doubleBody column false [] cs

/-- A text as a scalar of a block sequence. -/
def scalar (s : String) : List Char :=
  let cs := s.toList
  if cs.all isPlain then '\'' :: singleBody startColumn 0 true cs ++ ['\'']
  else '"' :: doubleBody startColumn true [] cs ++ ['"']

/-- A key with a list of texts under it. -/
def sequence (key : String) (texts : List String) : String :=
  if texts.isEmpty then key ++ ": []\n"
  else
    let item := fun (s : String) => String.ofList ('-' :: ' ' :: scalar s ++ ['\n'])
    key ++ ":\n" ++ "".intercalate (texts.map item)

end Scalars

end TypedPages
