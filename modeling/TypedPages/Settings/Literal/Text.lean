import TypedPages.Text.Digits

/-!
# Texts in literals

Texts between apostrophes or quotation marks, on one line or on several, and the blanks and
comments around the parts of a literal.
-/

namespace TypedPages

namespace Literal

/-- The blanks inside a line. -/
def isSpace (c : Char) : Bool :=
  c == ' ' || c == '\t'

/-- Control characters, which may not stand in texts and comments; the tabulator is none here. -/
def isControl (c : Char) : Bool :=
  (c.toNat < 0x20 && c != '\t') || c.toNat == 0x7F

/-- Drops blanks. -/
def skip (cs : List Char) : List Char :=
  cs.dropWhile isSpace

/-- Drops a comment up to the end of its line; a control character in it is an error. -/
def skipComment (cs : List Char) : Option (List Char) :=
  match cs with
  | '#' :: cs =>
    let rest := cs.dropWhile (· ≠ '\n')
    if (cs.takeWhile (· ≠ '\n')).any isControl then none else some rest
  | cs => some cs

/-- Drops blanks, line ends and comments; `fuel` bounds the number of comments. -/
def skipLines : Nat → List Char → Option (List Char)
  | 0, cs => some cs
  | fuel + 1, cs =>
    match cs.dropWhile fun c => isSpace c || c == '\n' with
    | '#' :: rest => (skipComment ('#' :: rest)).bind (skipLines fuel)
    | rest => some rest

/-- The character that a short escape stands for. -/
def shortEscape? : Char → Option Char
  | 'b' => some (.ofNat 8)
  | 't' => some '\t'
  | 'n' => some '\n'
  | 'f' => some (.ofNat 12)
  | 'r' => some '\r'
  | '"' => some '"'
  | '\\' => some '\\'
  | _ => none

/-- The character with a code point in hexadecimal. -/
def codeEscape? (digits : List Char) : Option Char :=
  (Text.hexNat? digits).bind fun code =>
    if code.isValidChar then some (.ofNat code) else none

/-- Reads an escape behind its backslash. -/
def escape? : List Char → Option (Char × List Char)
  | 'u' :: cs =>
    if cs.length < 4 then none else (codeEscape? (cs.take 4)).map fun c => (c, cs.drop 4)
  | 'U' :: cs =>
    if cs.length < 8 then none else (codeEscape? (cs.take 8)).map fun c => (c, cs.drop 8)
  | c :: cs => (shortEscape? c).map fun c => (c, cs)
  | [] => none

/-- Skips the end of a line behind a backslash, with all blanks and line ends after it. -/
def continued? (cs : List Char) : Option (List Char) :=
  match skip cs with
  | '\n' :: rest => some (rest.dropWhile fun c => isSpace c || c == '\n')
  | _ => none

/-- Reads a text on one line up to its closing mark, on top of the characters read before, which
stand backwards. Only between quotation marks a backslash escapes. -/
def readLine : Nat → Char → List Char → List Char → Option (String × List Char)
  | 0, _, _, _ => none
  | _, _, _, [] => none
  | fuel + 1, mark, read, c :: cs =>
    if c = mark then some (.ofList read.reverse, cs)
    else if c = '\\' ∧ mark = '"' then
      (escape? cs).bind fun (c, rest) => readLine fuel mark (c :: read) rest
    else if isControl c then none
    else readLine fuel mark (c :: read) cs

/-- Reads a text on several lines up to its three closing marks. Up to two marks more in front of
them belong to the text. -/
def readLines : Nat → Char → List Char → List Char → Option (String × List Char)
  | 0, _, _, _ => none
  | _, _, _, [] => none
  | fuel + 1, mark, read, c :: cs =>
    if c = mark ∧ cs.take 2 = [mark, mark] then
      let extra := ((cs.drop 2).take 2).takeWhile (· == mark)
      some (.ofList (read.reverse ++ extra), (cs.drop 2).drop extra.length)
    else if c = '\\' ∧ mark = '"' then
      match continued? cs with
      | some rest => readLines fuel mark read rest
      | none => (escape? cs).bind fun (c, rest) => readLines fuel mark (c :: read) rest
    else if isControl c && c != '\n' then none
    else readLines fuel mark (c :: read) cs

/-- Drops one line end. -/
def dropLineEnd : List Char → List Char
  | '\n' :: cs => cs
  | cs => cs

/-- Reads a quoted text. A line end right behind three opening marks is not part of the text. -/
def text? (cs : List Char) : Option (String × List Char) :=
  match cs with
  | '"' :: '"' :: '"' :: rest => readLines rest.length.succ '"' [] (dropLineEnd rest)
  | '\'' :: '\'' :: '\'' :: rest => readLines rest.length.succ '\'' [] (dropLineEnd rest)
  | '"' :: rest => readLine rest.length.succ '"' [] rest
  | '\'' :: rest => readLine rest.length.succ '\'' [] rest
  | _ => none

end Literal

end TypedPages
