/-!
# Blank characters

The white space that may surround a column spec, a type name or a plugin name. It is wider than
the blanks of ASCII: it has the separators of every script and the four information separators.
-/

namespace TypedPages.Text

/-- White space and the separators of lines, paragraphs, files, groups, records and units. -/
def isBlank (c : Char) : Bool :=
  let code := c.toNat
  (0x09 ≤ code && code ≤ 0x0D) || (0x1C ≤ code && code ≤ 0x20) || code == 0x85 || code == 0xA0 ||
    code == 0x1680 || (0x2000 ≤ code && code ≤ 0x200A) || code == 0x2028 || code == 0x2029 ||
    code == 0x202F || code == 0x205F || code == 0x3000

/-- The white space of number texts: the information separators do not belong to it. -/
def isWhiteSpace (c : Char) : Bool :=
  isBlank c && !(0x1C ≤ c.toNat && c.toNat ≤ 0x1F)

/-- Drops the characters of a class from both ends; those inside stay. -/
def stripBy (drop : Char → Bool) (cs : List Char) : List Char :=
  ((cs.dropWhile drop).reverse.dropWhile drop).reverse

/-- Drops the blanks at both ends. -/
def strip (cs : List Char) : List Char :=
  stripBy isBlank cs

/-- `strip` on strings. -/
def trim (s : String) : String :=
  .ofList (strip s.toList)

end TypedPages.Text
