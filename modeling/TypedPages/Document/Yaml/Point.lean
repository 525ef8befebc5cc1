/-!
# Points of a text

A point is a place in a text that is being read: what follows it, and the line and the column in
which it stands. Indentation is told by columns.
-/

namespace TypedPages

namespace Yaml

/-- Whether documents may hold a character at all. -/
def isAllowed (c : Char) : Bool :=
  let code := c.toNat
  c == '\t' || c == '\n' || c == '\r' || (0x20 ≤ code && code ≤ 0x7E) || code == 0x85 ||
    (0xA0 ≤ code && code ≤ 0xD7FF) || (0xE000 ≤ code && code ≤ 0xFFFD) || 0x10000 ≤ code

/-- Whether a character ends a line. -/
def isLineEnd (c : Char) : Bool :=
  c == '\n' || c == '\u0085' || c == '\u2028' || c == '\u2029'

/-- What a line end reads as: the separators of lines and paragraphs stand for themselves, the
others for a line feed. -/
def lineEnd (c : Char) : Char :=
  if c = '\u0085' then '\n' else c

/-- A blank inside a line. -/
def isSpace (c : Char) : Bool :=
  c == ' ' || c == '\t'

/-- Whether a comment, a directive or a line of a block text goes on with a character. -/
def staysOnLine (c : Char) : Bool :=
  c != '\n' && c != '\u0085'

/-- Whether a text begins with what parts words: its end, a line end or a blank. -/
def isApart : List Char → Bool
  | [] => true
  | c :: _ => isSpace c || !staysOnLine c

/-- Whether a line begins with the mark of a document's start or end. -/
def marksDocument : List Char → Bool
  | '-' :: '-' :: '-' :: cs => isApart cs
  | '.' :: '.' :: '.' :: cs => isApart cs
  | _ => false

/-- What stands for line ends between two words: one alone is a blank, and the first of several
is left out. The first is kept if it is a separator of lines or paragraphs. -/
def folded (first : Char) (later : List Char) : List Char :=
  if first ≠ '\n' then first :: later
  else if later.isEmpty then [' ']
  else later

/-- A place in a text. Lines, columns and the index count from zero. -/
structure Point where
  rest : List Char
  index : Nat
  line : Nat
  column : Nat
  deriving DecidableEq, Repr, Inhabited

namespace Point

/-- The start of a text. -/
def ofText (cs : List Char) : Point :=
  ⟨cs, 0, 0, 0⟩

/-- The point behind the next character. A byte order mark takes up no column. -/
def next (p : Point) : Point :=
  match p.rest with
  | [] => p
  | c :: cs =>
    if isLineEnd c then ⟨cs, p.index + 1, p.line + 1, 0⟩
    else ⟨cs, p.index + 1, p.line, if c = '\uFEFF' then p.column else p.column + 1⟩

/-- The point behind a number of characters. -/
def drop : Nat → Point → Point
  | 0, p => p
  | n + 1, p => drop n p.next

/-- The point behind the characters of a class. -/
def skip (isIn : Char → Bool) (p : Point) : Point :=
  p.drop (p.rest.takeWhile isIn).length

/-- The next character, if it is a line end. -/
def lineEnd? (p : Point) : Option Char :=
  match p.rest with
  | c :: _ => if isLineEnd c then some (lineEnd c) else none
  | [] => none

end Point

end Yaml

end TypedPages
