import TypedPages.Document.Yaml.Point

/-!
# Plain scalars

Scalars without quotes. They end at a comment, at a colon that ends a word, at a bracket or comma
inside brackets, and in a block where the indentation does. They may go on over several lines.
-/

namespace TypedPages

namespace Yaml

/-- The characters that begin something other than a plain scalar. -/
def indicators : List Char :=
  "-?:,[]\x7b\x7d#&*!|>'\"%@`".toList

/-- Whether a plain scalar begins here. -/
def beginsPlain (inFlow : Bool) : List Char → Bool
  | [] => false
  | c :: cs =>
    if isSpace c || isLineEnd c then false
    else if !indicators.contains c then true
    else if c = '-' then !isApart cs
    else if c = ':' && inFlow then !cs.head?.any isSpace
    else (c = '?' || c = ':') && !isApart cs && !inFlow

/-- The characters that end a word inside brackets. -/
def endsFlowWord (c : Char) : Bool :=
  ",[]\x7b\x7d".toList.contains c

/-- The word of a plain scalar. A colon belongs to it if the word goes on after it. -/
def word (inFlow : Bool) : List Char → List Char
  | [] => []
  | c :: cs =>
    if c = ':' then if isApart cs then [] else c :: word inFlow cs
    else if isApart (c :: cs) || (inFlow && endsFlowWord c) then []
    else c :: word inFlow cs

/-- What parts the words of a plain scalar: the text that stands for it, which is empty where the
scalar ends, whether it has a line end, and the point behind it. -/
structure Gap where
  text : List Char
  hasLineEnd : Bool
  after : Point
  deriving DecidableEq, Repr, Inhabited

/-- The line ends up to the next word, and the point of that word; there are none if the mark of a
document comes first. The fuel bounds the number of characters read. -/
def lineEnds : Nat → Point → Option (List Char) × Point
  | 0, p => (some [], p)
  | fuel + 1, p =>
    if p.rest.head? = some ' ' then lineEnds fuel p.next
    else match p.lineEnd? with
      | none => (some [], p)
      | some c =>
        if marksDocument p.next.rest then (none, p.next)
        else
          let (later, after) := lineEnds fuel p.next
          (later.map (c :: ·), after)

/-- Reads what parts two words; the fuel bounds the number of characters read. -/
def gap (fuel : Nat) (p : Point) : Gap :=
  let blanks := p.rest.takeWhile (· == ' ')
  let q := p.drop blanks.length
  match q.lineEnd? with
  | none => ⟨blanks, false, q⟩
  | some first =>
    if marksDocument q.next.rest then ⟨[], true, q.next⟩
    else
      let (later, after) := lineEnds fuel q.next
      ⟨(later.map (folded first)).getD [], true, after⟩

/-- The words of a plain scalar, with what stands for the gaps between them, and the last gap. In a
block all lines are indented to the column `margin` at least. -/
def words (inFlow : Bool) (margin : Nat) : Nat → Gap → List Char × Gap
  | 0, before => ([], before)
  | fuel + 1, before =>
    let p := before.after
    let read := if p.rest.head? = some '#' then [] else word inFlow p.rest
    if read.isEmpty then ([], before)
    else
      let after := gap fuel (p.drop read.length)
      if after.text.isEmpty || (!inFlow && after.after.column < margin) then
        (before.text ++ read, after)
      else
        let (later, last) := words inFlow margin fuel after
        (before.text ++ read ++ later, last)

/-- Reads a plain scalar. -/
def plain (inFlow : Bool) (margin fuel : Nat) (p : Point) : List Char × Gap :=
  words inFlow margin fuel ⟨[], false, p⟩

end Yaml

end TypedPages
