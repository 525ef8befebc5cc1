import TypedPages.Document.Yaml.Point
import TypedPages.Document.Yaml.Token
import TypedPages.Text.Digits

/-!
# Block scalars

Scalars that consist of the indented lines below a vertical bar, or of those below a greater-than
sign, which are folded. The header says how the last line ends count and can give the indentation.
-/

namespace TypedPages

namespace Yaml

/-- What becomes of the line ends behind the last line: one counts, or none, or all. -/
inductive Chomping where
  | clip
  | strip
  | keep
  deriving DecidableEq, Repr, Inhabited

/-- How a block scalar is to be read. Without an indentation of its own the scalar has that of its
lines. -/
structure BlockHeader where
  chomping : Chomping
  indentation : Option Nat
  deriving DecidableEq, Repr, Inhabited

/-- The chomping that a sign asks for. -/
def chomping? : Char → Option Chomping
  | '+' => some .keep
  | '-' => some .strip
  | _ => none

/-- The signs of a header and the number of its characters; sign and digit come in either order. -/
def headerSigns (cs : List Char) : BlockHeader × Nat :=
  let first := cs.head?
  let second := (cs.drop 1).head?
  match first.bind chomping?, first.bind Text.digit? with
  | some chomping, _ =>
    match second.bind Text.digit? with
    | some n => (⟨chomping, some n⟩, 2)
    | none => (⟨chomping, none⟩, 1)
  | none, some n =>
    match second.bind chomping? with
    | some chomping => (⟨chomping, some n⟩, 2)
    | none => (⟨.clip, some n⟩, 1)
  | none, none => (⟨.clip, none⟩, 0)

/-- Reads a header and the rest of its line, which has room for a comment behind a blank. -/
def blockHeader (p : Point) : Except Fault (BlockHeader × Point) := do
  let (header, length) := headerSigns p.rest
  if header.indentation = some 0 then throw .malformed
  let p := p.drop length
  if !p.rest.isEmpty ∧ p.rest.head? ≠ some ' ' ∧ p.lineEnd? = none then throw .malformed
  let p := p.skip (· == ' ')
  let p := if p.rest.head? = some '#' then p.skip staysOnLine else p
  if !p.rest.isEmpty ∧ p.lineEnd? = none then throw .malformed
  return (header, p.next)

/-- The line ends in front of the first line, the widest indentation met, and the point of the
line. -/
def leadingLines : Nat → Nat → Point → List Char × Nat × Point
  | 0, widest, p => ([], widest, p)
  | fuel + 1, widest, p =>
    if p.rest.head? = some ' ' then leadingLines fuel (max widest p.next.column) p.next
    else match p.lineEnd? with
      | none => ([], widest, p)
      | some c =>
        let (later, widest, after) := leadingLines fuel widest p.next
        (c :: later, widest, after)

/-- Skips blanks up to a column. -/
def indentTo (column : Nat) (p : Point) : Point :=
  p.drop ((p.rest.take (column - p.column)).takeWhile (· == ' ')).length

/-- The line ends in front of the next line that has a character at or before a column, and the
point of the line. -/
def blankLines (column : Nat) : Nat → Point → List Char × Point
  | 0, p => ([], p)
  | fuel + 1, p =>
    let q := indentTo column p
    match q.lineEnd? with
    | none => ([], q)
    | some c =>
      let (later, after) := blankLines column fuel q.next
      (c :: later, after)

/-- The text of a block scalar up to its last line, the end of that line, the line ends after it
and the point behind them. -/
structure BlockBody where
  text : List Char
  lastEnd : List Char
  trailing : List Char
  after : Point
  deriving DecidableEq, Repr, Inhabited

/-- The lines of a block scalar that stand at a column, from a point behind the line ends
`before`. At column zero the mark of a document ends the scalar. Folding joins two lines with a
blank unless one of them is indented further or empty lines are between them. -/
def blockLines (isFolded atMargin : Bool) (column : Nat) : Nat → List Char → Point → BlockBody
  | 0, before, p => ⟨[], [], before, p⟩
  | fuel + 1, before, p =>
    if p.column ≠ column ∨ p.rest.isEmpty then ⟨[], [], before, p⟩
    else
      let line := p.rest.takeWhile staysOnLine
      let q := p.drop line.length
      let lastEnd := q.lineEnd?.toList
      let (trailing, after) := blankLines column fuel q.next
      let ended : BlockBody := ⟨before ++ line, lastEnd, trailing, after⟩
      if atMargin && after.column == 0 && marksDocument after.rest then ended
      else if after.column ≠ column ∨ after.rest.isEmpty then ended
      else
        let joins := isFolded && lastEnd == ['\n'] && !p.rest.head?.any isSpace &&
          !after.rest.head?.any isSpace
        let gap := if !joins then lastEnd else if trailing.isEmpty then [' '] else []
        let body := blockLines isFolded atMargin column fuel trailing after
        { body with text := before ++ line ++ gap ++ body.text }

/-- What chomping leaves of a body. -/
def BlockBody.chomped (body : BlockBody) : Chomping → List Char
  | .clip => body.text ++ body.lastEnd
  | .strip => body.text
  | .keep => body.text ++ body.lastEnd ++ body.trailing

/-- Reads a block scalar behind its sign. Its lines are indented to the column `margin` at least.
The fuel bounds the number of characters read. -/
def block (isFolded : Bool) (margin fuel : Nat) (p : Point) : Except Fault (List Char × Point) := do
  let (header, p) ← blockHeader p
  let body := match header.indentation with
    | none =>
      let (before, widest, p) := leadingLines fuel 0 p
      blockLines isFolded (margin == 0) (max margin widest) fuel before p
    | some n =>
      let column := max 1 margin + n - 1
      let (before, p) := blankLines column fuel p
      blockLines isFolded false column fuel before p
  return (body.chomped header.chomping, body.after)

end Yaml

end TypedPages
