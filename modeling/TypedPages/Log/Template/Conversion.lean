import TypedPages.Document
import TypedPages.Double.Rounded
import TypedPages.Log.Template.Mark

/-!
# Conversions

What a mark makes of its argument. The letter says how the argument is written: as a text (`s`),
as a literal (`r`, and `a` in ASCII), as a whole number (`d`, `i`, `u`, `o`, `x`, `X`), as a real
number (`e`, `f`, `g` and their capitals) or as one character (`c`). Flags, width and precision
then lay it out.
-/

namespace TypedPages

/-- Why a template cannot be filled. -/
inductive TemplateError where
  | tooFewArguments
  | tooManyArguments
  | noMapping
  | noPosition (key : String)
  | noKey (key : String)
  | notReal (letter : Char) (className : String)
  | notWhole (letter : Char) (className : String)
  | notFloat (className : String)
  | undefinedWhole
  | infiniteWhole
  | tooLargeFloat
  | notCharacter
  | noCharacter
  | notSize
  | sizeOverflow (range : String)
  | wideSize
  | preciseSize
  | tooLong
  | incomplete
  | incompleteKey
  | unknownMark (mark : Char) (index : Nat)
  deriving DecidableEq, Repr, Inhabited

namespace TemplateError

/-- The code point of a mark in hexadecimal. -/
def markCode (mark : Char) : String :=
  .ofList (Nat.toDigits 16 mark.toNat)

/-- How a mark is shown: a question mark stands for what is not printable ASCII, the last of the
control characters apart. -/
def shownMark (mark : Char) : Char :=
  if 31 ≤ mark.toNat ∧ mark.toNat < 127 then mark else '?'

/-- The wording of a template error. -/
def message : TemplateError → String
  | tooFewArguments => "not enough arguments for format string"
  | tooManyArguments => "not all arguments converted during string formatting"
  | noMapping => "format requires a mapping"
  | noPosition _ => "list indices must be integers or slices, not str"
  | noKey key => .ofList (Text.quoted key)
  | notReal letter className => s!"%{letter} format: a real number is required, not {className}"
  | notWhole letter className => s!"%{letter} format: an integer is required, not {className}"
  | notFloat className => s!"must be real number, not {className}"
  | undefinedWhole => "cannot convert float NaN to integer"
  | infiniteWhole => "cannot convert float infinity to integer"
  | tooLargeFloat => "int too large to convert to float"
  | notCharacter => "%c requires int or char"
  | noCharacter => "%c arg not in range(0x110000)"
  | notSize => "* wants int"
  | sizeOverflow range => s!"Python int too large to convert to C {range}"
  | wideSize => "width too big"
  | preciseSize => "precision too big"
  | tooLong => ""
  | incomplete => "incomplete format"
  | incompleteKey => "incomplete format key"
  | unknownMark mark index =>
    s!"unsupported format character '{shownMark mark}' (0x{markCode mark}) at index {index}"

end TemplateError

namespace Template

/-- The layout of one argument, once width and precision are known. -/
structure Layout where
  left : Bool
  zeros : Bool
  plus : Bool
  blank : Bool
  marked : Bool
  width : Nat
  precision : Option Nat
  deriving DecidableEq, Repr, Inhabited

/-- An argument as it is written: a number may have a sign and a base marker in front. -/
structure Written where
  numeric : Bool
  sign : List Char
  marker : List Char
  body : List Char
  deriving DecidableEq, Repr, Inhabited

namespace Layout

/-- The sign of a number. -/
def sign (l : Layout) (negative : Bool) : List Char :=
  if negative then ['-'] else if l.plus then ['+'] else if l.blank then [' '] else []

/-- Lays out an argument. Zeros pad numbers only, behind their signs and markers. -/
def place (l : Layout) (w : Written) : List Char :=
  let front := w.sign ++ w.marker
  let gap := l.width - (front.length + w.body.length)
  if l.left then front ++ w.body ++ .replicate gap ' '
  else if l.zeros && w.numeric then front ++ .replicate gap '0' ++ w.body
  else .replicate gap ' ' ++ front ++ w.body

/-- A text, cut off at the precision. -/
def text (l : Layout) (cs : List Char) : Written :=
  ⟨false, [], [], match l.precision with
    | some n => cs.take n
    | none => cs⟩

/-- A whole number, padded with zeros to the precision. -/
def whole (l : Layout) (n : Int) (marker : List Char) (digits : Nat → List Char) : Written :=
  let digits := digits n.natAbs
  let zeros := .replicate (l.precision.getD 0 - digits.length) '0'
  ⟨true, l.sign (n < 0), if l.marked then marker else [], zeros ++ digits⟩

end Layout

/-- The text of an argument: a text stands for itself, everything else for its literal. -/
def argumentText : Document → List Char
  | .text value => value.toList
  | d => d.literal.toList

/-- A text in ASCII; everything else is escaped. -/
def asciiText (cs : List Char) : List Char :=
  cs.flatMap fun c => if c.toNat < 0x80 then [c] else Text.codeEscape c.toNat

/-- The whole number of an argument; a fraction is cut off. -/
def wholeOf (letter : Char) : Document → Except TemplateError Int
  | .whole value => .ok value
  | .flag value => .ok (if value then 1 else 0)
  | .real .nan => .error .undefinedWhole
  | .real value =>
    match value.truncate? with
    | some n => .ok n
    | none => .error .infiniteWhole
  | d => .error (.notReal letter d.className)

/-- The whole number of an argument that has no fraction to begin with. -/
def exactWholeOf (letter : Char) : Document → Except TemplateError Int
  | .whole value => .ok value
  | .flag value => .ok (if value then 1 else 0)
  | d => .error (.notWhole letter d.className)

/-- The real number of an argument. -/
def realOf : Document → Except TemplateError Double
  | .real value => .ok value
  | .whole value =>
    match Double.ofInt? value with
    | some x => .ok x
    | none => .error .tooLargeFloat
  | .flag value => .ok (.finite false (if value then 1 else 0) 0)
  | d => .error (.notFloat d.className)

/-- The character of a code point. -/
def characterOf (code : Int) : Except TemplateError Char :=
  if 0 ≤ code ∧ code < 0x110000 then .ok (.ofNat code.toNat) else .error .noCharacter

/-- The one character that an argument is or has as its code point. -/
def character : Document → Except TemplateError Char
  | .text value =>
    match value.toList with
    | [c] => .ok c
    | _ => .error .notCharacter
  | .whole code => characterOf code
  | .flag value => characterOf (if value then 1 else 0)
  | _ => .error .notCharacter

/-- How a letter writes a ratio in so many digits. -/
def ratioText (letter : Char) (l : Layout) : Ratio → List Char :=
  let size := l.precision.getD 6
  if letter = 'e' then Double.scientificText l.marked size
  else if letter = 'f' then Double.fixedText l.marked size
  else Double.generalText l.marked size

/-- A real number as a lower-case letter writes it. -/
def writeReal (letter : Char) (l : Layout) (x : Double) : Written :=
  ⟨true, l.sign x.isNegative, [], x.roundedText (ratioText letter l)⟩

/-- The written form of an argument; `letter` is one at `index`. -/
def write (l : Layout) (letter : Char) (index : Nat) (argument : Document) :
    Except TemplateError Written :=
  match letter with
  | 's' => .ok (l.text (argumentText argument))
  | 'r' => .ok (l.text argument.literal.toList)
  | 'a' => .ok (l.text (asciiText argument.literal.toList))
  | 'd' | 'i' | 'u' => (wholeOf letter argument).map fun n => l.whole n [] (Nat.toDigits 10)
  | 'o' => (exactWholeOf letter argument).map fun n => l.whole n ['0', 'o'] (Nat.toDigits 8)
  | 'x' => (exactWholeOf letter argument).map fun n => l.whole n ['0', 'x'] (Nat.toDigits 16)
  | 'X' => (exactWholeOf letter argument).map fun n =>
      l.whole n ['0', 'X'] fun n => (Nat.toDigits 16 n).map Char.toUpper
  | 'e' | 'f' | 'g' => (realOf argument).map (writeReal letter l)
  | 'E' | 'F' | 'G' => (realOf argument).map fun x =>
      let written := writeReal letter.toLower l x
      { written with body := written.body.map Char.toUpper }
  | 'c' => (character argument).map fun c => ⟨false, [], [], [c]⟩
  | _ => .error (.unknownMark letter index)

end Template

end TypedPages
