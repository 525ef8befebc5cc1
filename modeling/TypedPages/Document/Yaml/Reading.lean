import TypedPages.Document.Yaml.Point
import TypedPages.Document.Yaml.Token

/-!
# Readings of a text

How far a text is read: the tokens so far, the collections that are open, and the places where a
mapping key may have begun. Whether something is a key shows only when its colon is met; then the
token of the key is put in where it began. A key lies on one line and has a limited length.
-/

namespace TypedPages

namespace Yaml

/-- A place where a mapping key may have begun, with the number of tokens before it. At the
indentation of the open block there must be one. -/
structure KeyPlace where
  before : Nat
  isDue : Bool
  index : Nat
  line : Nat
  column : Nat
  deriving DecidableEq, Repr, Inhabited

/-- The length that a key may have. -/
def longestKey : Nat := 1024

/-- Whether a place is too far behind a point for a key to have begun there. -/
def KeyPlace.isBehind (place : KeyPlace) (p : Point) : Bool :=
  place.line != p.line || longestKey < p.index - place.index

/-- The brackets of flow collections. -/
inductive Bracket where
  | list
  | mapping
  deriving DecidableEq, Repr, Inhabited

/-- What is open at one depth of brackets; outside all brackets there is none. -/
structure Level where
  bracket : Option Bracket
  place : Option KeyPlace
  deriving DecidableEq, Repr, Inhabited

namespace Level

/-- Gives up the place of a level; at a place where a key is due one must begin. -/
def giveUp (level : Level) : Except Fault Level :=
  if level.place.any KeyPlace.isDue then .error .malformed else .ok { level with place := none }

/-- Gives up the place of a level if it is too far behind a point. -/
def giveUpBehind (p : Point) (level : Level) : Except Fault Level :=
  if level.place.any (·.isBehind p) then level.giveUp else .ok level

end Level

/-- A text while it is read. The tokens and the columns of the open blocks stand backwards. No part
of the text has more than `size` characters. -/
structure Reading where
  size : Nat
  point : Point
  count : Nat
  tokens : List Token
  blocks : List Nat
  level : Level
  outer : List Level
  allowsKey : Bool
  deriving DecidableEq, Repr, Inhabited

namespace Reading

/-- The reading of a text at its start. -/
def ofText (cs : List Char) : Reading :=
  ⟨cs.length + 1, .ofText cs, 0, [], [], ⟨none, none⟩, [], true⟩

/-- Whether the point lies inside brackets. -/
def inFlow (r : Reading) : Bool :=
  r.level.bracket.isSome

/-- The least column of the lines of a scalar in the open block. -/
def margin (r : Reading) : Nat :=
  match r.blocks with
  | [] => 0
  | column :: _ => column + 1

/-- Adds a token. -/
def push (t : Token) (r : Reading) : Reading :=
  { r with count := r.count + 1, tokens := t :: r.tokens }

/-- Whether somewhere a key may have begun. -/
def hasPlace (r : Reading) : Bool :=
  r.level.place.isSome || r.outer.any (·.place.isSome)

/-- Gives up the place of the innermost level. -/
def dropPlace (r : Reading) : Except Fault Reading :=
  r.level.giveUp.map fun level => { r with level := level }

/-- Gives up the places that are too far behind. -/
def dropPlacesBehind (r : Reading) : Except Fault Reading := do
  let outer ← r.outer.mapM (Level.giveUpBehind r.point)
  let level ← r.level.giveUpBehind r.point
  return { r with level := level, outer := outer }

/-- Remembers that a key may begin at the point, if it may. -/
def savePlace (r : Reading) : Except Fault Reading :=
  if !r.allowsKey then .ok r
  else do
    let r ← r.dropPlace
    let isDue := !r.inFlow && r.blocks.head? == some r.point.column
    let place : KeyPlace := ⟨r.count, isDue, r.point.index, r.point.line, r.point.column⟩
    return { r with level := { r.level with place := some place } }

/-- The columns of blocks from the innermost on, less those that end before a column. -/
def blocksUpTo (column : Nat) (blocks : List Nat) : List Nat :=
  blocks.dropWhile (column < ·)

/-- Closes blocks until the given ones are left. -/
def closeBlocks (left : List Nat) (r : Reading) : Reading :=
  let closed := r.blocks.length - left.length
  { r with
    blocks := left
    count := r.count + closed
    tokens := .replicate closed .blockEnd ++ r.tokens }

/-- Closes the blocks that are indented further than the point. Brackets keep all blocks open. -/
def closeDeeper (r : Reading) : Reading :=
  if r.inFlow then r else r.closeBlocks (blocksUpTo r.point.column r.blocks)

/-- Closes all blocks. -/
def closeAll (r : Reading) : Reading :=
  if r.inFlow then r else r.closeBlocks []

/-- Whether a block at a column would lie deeper than the open one. -/
def isDeeper (column : Nat) (r : Reading) : Bool :=
  r.blocks.head?.all (· < column)

/-- Opens a block at the point unless one is open there. Blocks open only where a key may begin. -/
def openBlock (t : Token) (r : Reading) : Except Fault Reading :=
  if r.inFlow then .ok r
  else if !r.allowsKey then .error .malformed
  else if r.isDeeper r.point.column then
    .ok { r.push t with blocks := r.point.column :: r.blocks }
  else .ok r

/-- Puts tokens in behind the first `before` ones. They stand backwards, as all tokens do. -/
def insertTokens (before : Nat) (ts : List Token) (r : Reading) : Reading :=
  let later := r.count - before
  { r with
    count := r.count + ts.length
    tokens := r.tokens.take later ++ ts ++ r.tokens.drop later }

/-- Puts in the key that began at a place, and the mapping that it begins. -/
def insertKey (place : KeyPlace) (r : Reading) : Reading :=
  let r := { r with level := { r.level with place := none }, allowsKey := false }
  if !r.inFlow && r.isDeeper place.column then
    { r.insertTokens place.before [.key, .mappingBlock] with blocks := place.column :: r.blocks }
  else r.insertTokens place.before [.key]

/-- Skips blanks, comments and line ends. A key may begin on a new line outside brackets. -/
def toNextToken : Nat → Reading → Reading
  | 0, r => r
  | fuel + 1, r =>
    let p := r.point.skip (· == ' ')
    let p := if p.rest.head? = some '#' then p.skip staysOnLine else p
    match p.lineEnd? with
    | none => { r with point := p }
    | some _ => toNextToken fuel { r with point := p.next, allowsKey := r.allowsKey || !r.inFlow }

end Reading

end Yaml

end TypedPages
