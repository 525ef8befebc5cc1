import TypedPages.Document.Yaml.Point
import TypedPages.Document.Yaml.Token
import TypedPages.Text.Digits

/-!
# Names of nodes

Anchors give a node a name, under which it can be used again; tags tell the kind of a node.
-/

namespace TypedPages

namespace Yaml

/-- The characters of the names of nodes. -/
def isNameChar (c : Char) : Bool :=
  isAllowed c && !c.isWhitespace && c != '\u0085' && c != '\uFEFF' &&
    !",[]\x7b\x7d".toList.contains c

/-- Reads the name of a node behind its sign. -/
def name (p : Point) : Except Fault (String × Point) :=
  let read := p.rest.takeWhile isNameChar
  let after := p.drop read.length
  if read.isEmpty || after.rest.head? == some '\uFEFF' then .error .malformed
  else .ok (.ofList read, after)

/-- The characters of tags. -/
def isTagChar (c : Char) : Bool :=
  c.isAlphanum || "-;/?:@&=+$,_.!~*'()[]%#".toList.contains c

/-- The characters of the handles of tags. -/
def isHandleChar (c : Char) : Bool :=
  c.isAlphanum || c == '-' || c == '_'

/-- Whether each percent sign has two hexadecimal digits behind it. -/
def hasWholeEscapes : List Char → Bool
  | [] => true
  | '%' :: cs => (cs.take 2).length == 2 && (Text.hexNat? (cs.take 2)).isSome && hasWholeEscapes cs
  | _ :: cs => hasWholeEscapes cs

/-- Reads the name in a tag. -/
def tagName (p : Point) : Except Fault (String × Point) :=
  let read := p.rest.takeWhile isTagChar
  if read.isEmpty || !hasWholeEscapes read then .error .malformed
  else .ok (.ofList read, p.drop read.length)

/-- The handle at the start of a tag. It has one exclamation mark or, if a second one comes before
the end of the word, two with letters between them. -/
def handle (cs : List Char) : Except Fault (List Char) :=
  let word := (cs.drop 1).takeWhile fun c => c != ' ' && !isLineEnd c
  if !word.contains '!' then .ok ['!']
  else
    let letters := word.takeWhile isHandleChar
    if (word.drop letters.length).head? = some '!' then .ok ('!' :: letters ++ ['!'])
    else .error .malformed

/-- Reads a tag with its sign. Behind it the word ends. -/
def readTag (p : Point) : Except Fault (Tag × Point) := do
  let (tag, after) ←
    if (p.rest.drop 1).head? = some '<' then do
      let (name, after) ← tagName (p.drop 2)
      if after.rest.head? = some '>' then pure (Tag.full name, after.next) else throw .malformed
    else if isApart (p.rest.drop 1) then pure (Tag.full "!", p.next)
    else do
      let handle ← handle p.rest
      let (name, after) ← tagName (p.drop handle.length)
      pure (Tag.short (.ofList handle) name, after)
  if after.rest.isEmpty ∨ after.rest.head? = some ' ' ∨ after.lineEnd?.isSome then
    return (tag, after)
  else throw .malformed

end Yaml

end TypedPages
