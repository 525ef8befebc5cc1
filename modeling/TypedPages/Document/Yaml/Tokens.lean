import TypedPages.Document.Yaml.Block
import TypedPages.Document.Yaml.Name
import TypedPages.Document.Yaml.Plain
import TypedPages.Document.Yaml.Quoted
import TypedPages.Document.Yaml.Reading

/-!
# Tokens of a text

Reads a text token by token. What a character begins depends on what follows it, on whether the
point lies inside brackets, and for some on its column.
-/

namespace TypedPages

namespace Yaml

namespace Reading

/-- Goes on behind a number of characters. -/
def moveBy (n : Nat) (r : Reading) : Reading :=
  { r with point := r.point.drop n }

/-- Goes on at a point, where a key may begin or not. -/
def moveTo (p : Point) (allowsKey : Bool) (r : Reading) : Reading :=
  { r with point := p, allowsKey := allowsKey }

/-- Reads what ends the blocks of a document: a mark of `length` characters or the rest of a
line. -/
def readOutside (t : Token) (p : Point) (r : Reading) : Except Fault Reading := do
  let r ← r.closeAll.dropPlace
  return (r.push t).moveTo p false

/-- Reads an opening bracket, which may begin a key. -/
def readOpening (bracket : Bracket) (t : Token) (r : Reading) : Except Fault Reading := do
  let r ← r.savePlace
  let r := { r with level := ⟨some bracket, none⟩, outer := r.level :: r.outer }
  return (r.push t).moveTo r.point.next true

/-- Reads a closing bracket. -/
def readClosing (t : Token) (r : Reading) : Except Fault Reading := do
  let r ← r.dropPlace
  let r := match r.outer with
    | [] => r
    | level :: outer => { r with level := level, outer := outer }
  return (r.push t).moveTo r.point.next false

/-- Reads a comma. -/
def readComma (r : Reading) : Except Fault Reading := do
  let r ← r.dropPlace
  return (r.push .comma).moveTo r.point.next true

/-- Reads the hyphen of an entry. -/
def readEntry (r : Reading) : Except Fault Reading := do
  let r ← r.openBlock .sequenceBlock
  let r ← r.dropPlace
  return (r.push .entry).moveTo r.point.next true

/-- Reads the question mark of a key. -/
def readKey (r : Reading) : Except Fault Reading := do
  let r ← r.openBlock .mappingBlock
  let r ← r.dropPlace
  return (r.push .key).moveTo r.point.next (!r.inFlow)

/-- Reads the colon of a value. It makes a key of what began at the place of its level; without
one the key is empty or has a question mark. -/
def readValue (r : Reading) : Except Fault Reading :=
  match r.level.place with
  | some place =>
    let r := r.insertKey place
    .ok ((r.push .value).moveTo r.point.next false)
  | none => do
    let r ← r.openBlock .mappingBlock
    return (r.push .value).moveTo r.point.next (!r.inFlow)

/-- Reads something that may be a key or stand in front of one. -/
def readKeyLike (read : Point → Except Fault (Token × Point)) (r : Reading) :
    Except Fault Reading := do
  let r ← r.savePlace
  let (t, after) ← read r.point
  return (r.push t).moveTo after false

/-- Reads a block scalar, behind which a key may begin. -/
def readBlock (isFolded : Bool) (r : Reading) : Except Fault Reading := do
  let r ← r.dropPlace
  let (text, after) ← block isFolded r.margin r.size r.point.next
  return (r.push (.scalar (.ofList text) false)).moveTo after true

/-- Reads a plain scalar. If a line ends behind it, a key may begin. -/
def readPlain (r : Reading) : Except Fault Reading := do
  let r ← r.savePlace
  let (text, gap) := plain r.inFlow r.margin r.size r.point
  return (r.push (.scalar (.ofList text) true)).moveTo gap.after gap.hasLineEnd

/-- Whether a colon at the point begins a value. Inside braces it does so even within a word,
unless it stands behind the colon of a value. -/
def beginsValue (behindValue : Bool) (r : Reading) : Bool :=
  match r.level.bracket with
  | some .mapping => !behindValue || isApart (r.point.rest.drop 1)
  | _ => isApart (r.point.rest.drop 1)

/-- Reads the token that a character begins. -/
def readToken (behindValue : Bool) (r : Reading) : Except Fault Reading :=
  let p := r.point
  match p.rest with
  | [] => do
    let r ← r.closeAll.dropPlace
    return r.push .finish
  | c :: cs =>
    if p.column = 0 ∧ c = '%' then r.readOutside .directive (p.skip staysOnLine)
    else if p.column = 0 ∧ marksDocument p.rest then
      r.readOutside (if c = '-' then .documentStart else .documentEnd) (p.drop 3)
    else if c = '[' then r.readOpening .list .openList
    else if c = '\x7b' then r.readOpening .mapping .openMapping
    else if c = ']' then r.readClosing .closeList
    else if c = '\x7d' then r.readClosing .closeMapping
    else if c = ',' then r.readComma
    else if c = '-' ∧ isApart cs then r.readEntry
    else if c = '?' ∧ (r.inFlow ∨ isApart cs) then r.readKey
    else if c = ':' ∧ r.beginsValue behindValue then r.readValue
    else if c = '*' then r.readKeyLike fun p => (name p.next).map fun (s, p) => (.aliasOf s, p)
    else if c = '&' then r.readKeyLike fun p => (name p.next).map fun (s, p) => (.anchor s, p)
    else if c = '!' then r.readKeyLike fun p => (readTag p).map fun (t, p) => (.tag t, p)
    else if (c = '|' ∨ c = '>') ∧ !r.inFlow then r.readBlock (c = '>')
    else if c = '\'' ∨ c = '"' then
      r.readKeyLike fun p =>
        (quoted c r.size p.next).map fun (s, p) => (.scalar (.ofList s) false, p)
    else if beginsPlain r.inFlow p.rest then r.readPlain
    else .error .malformed

/-- Reads the next token, with the blocks that end in front of it. -/
def step (r : Reading) : Except Fault Reading := do
  let r ← r.dropPlacesBehind
  let behindValue := r.tokens.head? == some .value && r.hasPlace
  let r ← (r.toNextToken r.size).dropPlacesBehind
  r.closeDeeper.readToken behindValue

/-- Reads all tokens. The fuel bounds their number. -/
def readAll : Nat → Reading → List Token
  | 0, r => r.tokens
  | fuel + 1, r =>
    match r.step with
    | .error fault => .stop fault :: r.tokens
    | .ok r => if r.tokens.head?.any Token.isLast then r.tokens else readAll fuel r

end Reading

/-- The tokens of a text. -/
def tokens (cs : List Char) : List Token :=
  let start := Reading.ofText cs
  let start := if cs.head? = some '\uFEFF' then start.moveBy 1 else start
  (start.readAll start.size).reverse

end Yaml

end TypedPages
