import TypedPages.Document.Yaml.Point
import TypedPages.Document.Yaml.Token
import TypedPages.Text.Digits

/-!
# Quoted scalars

Scalars between apostrophes, where two of them stand for one, and between quotation marks, where a
backslash escapes. Line ends are folded together with the blanks around them.
-/

namespace TypedPages

namespace Yaml

/-- The character that a short escape stands for. -/
def shortEscape? : Char → Option Char
  | '0' => some '\x00'
  | 'a' => some '\x07'
  | 'b' => some '\x08'
  | 't' | '\t' => some '\t'
  | 'n' => some '\n'
  | 'v' => some '\x0B'
  | 'f' => some '\x0C'
  | 'r' => some '\r'
  | 'e' => some '\x1B'
  | ' ' => some ' '
  | '"' => some '"'
  | '/' => some '/'
  | '\\' => some '\\'
  | 'N' => some '\u0085'
  | '_' => some '\u00A0'
  | 'L' => some '\u2028'
  | 'P' => some '\u2029'
  | _ => none

/-- How many digits spell the code point of an escaped character. -/
def codeWidth? : Char → Option Nat
  | 'x' => some 2
  | 'u' => some 4
  | 'U' => some 8
  | _ => none

/-- The character with a code point in hexadecimal. -/
def codeEscape (width : Nat) (cs : List Char) : Except Fault Char :=
  match if cs.length < width then none else Text.hexNat? (cs.take width) with
  | none => .error .malformed
  | some code => if code.isValidChar then .ok (.ofNat code) else .error .meaningless

/-- The line ends in front of the next word of a quoted scalar, and the point of that word. The
mark of a document may not begin a line. -/
def quotedLineEnds : Nat → Point → Except Fault (List Char × Point)
  | 0, p => .ok ([], p)
  | fuel + 1, p =>
    if marksDocument p.rest then .error .malformed
    else
      let q := p.skip isSpace
      match q.lineEnd? with
      | none => .ok ([], q)
      | some c => do
        let (later, after) ← quotedLineEnds fuel q.next
        return (c :: later, after)

/-- Reads an escape behind its backslash. An escaped line end leaves nothing but the line ends
after it. -/
def escape (fuel : Nat) (p : Point) : Except Fault (List Char × Point) :=
  match p.rest with
  | [] => .error .malformed
  | c :: cs =>
    match shortEscape? c, codeWidth? c, p.lineEnd? with
    | some d, _, _ => .ok ([d], p.next)
    | none, some width, _ => (codeEscape width cs).map fun d => ([d], p.drop (width + 1))
    | none, none, some _ => quotedLineEnds fuel p.next
    | none, none, none => .error .malformed

/-- Reads blanks inside a quoted scalar, with the line ends among them. -/
def quotedGap (fuel : Nat) (p : Point) : Except Fault (List Char × Point) :=
  let blanks := p.rest.takeWhile isSpace
  let q := p.drop blanks.length
  match q.lineEnd? with
  | none => .ok (blanks, q)
  | some first => do
    let (later, after) ← quotedLineEnds fuel q.next
    return (folded first later, after)

/-- Reads a quoted scalar behind its opening mark, with the point behind its closing mark. The fuel
bounds the number of characters read. -/
def quoted (mark : Char) : Nat → Point → Except Fault (List Char × Point)
  | 0, _ => .error .malformed
  | fuel + 1, p =>
    match p.rest with
    | [] => .error .malformed
    | c :: cs => do
      if c = mark ∧ ¬(mark = '\'' ∧ cs.head? = some '\'') then return ([], p.next)
      let (read, after) ←
        if c = mark then pure ([mark], p.drop 2)
        else if c = '\\' ∧ mark = '"' then escape fuel p.next
        else if isSpace c || isLineEnd c then quotedGap fuel p
        else pure ([c], p.next)
      let (later, last) ← quoted mark fuel after
      return (read ++ later, last)

end Yaml

end TypedPages
