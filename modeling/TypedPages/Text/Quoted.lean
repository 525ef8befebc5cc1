import TypedPages.Text.Digits
import TypedPages.Text.Printable

/-!
# Quoted literals

How messages quote texts and byte strings. A literal stands between apostrophes, unless it holds
an apostrophe and no quotation mark: then it stands between quotation marks. Inside, only the mark
in use, the backslash and what is not printable are escaped.
-/

namespace TypedPages.Text

/-- The mark that a literal stands between. -/
def quoteFor (cs : List Char) : Char :=
  if cs.contains '\'' && !cs.contains '"' then '"' else '\''

/-- The numeric escape of a character, as short as its code point allows. -/
def codeEscape (code : Nat) : List Char :=
  if code < 0x100 then '\\' :: 'x' :: hex 2 code
  else if code < 0x10000 then '\\' :: 'u' :: hex 4 code
  else '\\' :: 'U' :: hex 8 code

/-- One character of a literal between two `quote`s, where `plain` says what may stand as it is. -/
def quotedChar (plain : Char → Bool) (quote c : Char) : List Char :=
  if c = quote ∨ c = '\\' then ['\\', c]
  else if c = '\n' then ['\\', 'n']
  else if c = '\r' then ['\\', 'r']
  else if c = '\t' then ['\\', 't']
  else if plain c then [c]
  else codeEscape c.toNat

/-- The literal of a text. -/
def quoted (s : String) : List Char :=
  let quote := quoteFor s.toList
  quote :: s.toList.flatMap (quotedChar isPrintable quote) ++ [quote]

/-- The literal of a byte string: printable ASCII as it is, every other byte escaped. -/
def quotedBytes (bytes : List UInt8) : List Char :=
  let cs := bytes.map fun byte => Char.ofNat byte.toNat
  let quote := quoteFor cs
  let plain := fun (c : Char) => 0x20 ≤ c.toNat && c.toNat ≤ 0x7E
  'b' :: quote :: cs.flatMap (quotedChar plain quote) ++ [quote]

/-- Joins texts with a separator between each two. -/
def joined (separator : List Char) : List (List Char) → List Char
  | [] => []
  | [cs] => cs
  | cs :: rest => cs ++ separator ++ joined separator rest

/-- Literals between square brackets, separated by commas. -/
def bracketed (items : List (List Char)) : List Char :=
  '[' :: joined [',', ' '] items ++ [']']

/-- Literals between round brackets: a single one is followed by a comma. -/
def parenthesized : List (List Char) → List Char
  | [item] => '(' :: item ++ [',', ')']
  | items => '(' :: joined [',', ' '] items ++ [')']

/-- The literal of a list of texts. -/
def quotedList (texts : List String) : String :=
  .ofList (bracketed (texts.map quoted))

end TypedPages.Text
