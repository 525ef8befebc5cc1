import TypedPages.Document.Yaml.Source

/-!
# Trees of tokens

Reads nodes off tokens. Collections nest; inside brackets no blocks begin. Of the documents in a
text the first is read, and there may be no second one.
-/

namespace TypedPages

namespace Yaml

mutual

/-- Reads a node. The collections of blocks stand only inside blocks. Where `hanging` holds, the
items of a sequence may be indented as far as the key whose value it is. The fuel bounds the
number of parts. -/
def readNode (inBlock hanging : Bool) : Nat → Source → Except Fault (Node × Source)
  | 0, _ => .error .malformed
  | fuel + 1, s => do
    if let some (.aliasOf name) := s.next? then
      match s.anchors.lookup name with
      | some node => return (node, s.skip)
      | none => throw .meaningless
    let (properties, s) ← Properties.read s
    let opened := s.skip.define properties.anchor .cyclic
    let sequence := fun (items, s) =>
      let node := Node.sequence properties.kind items
      (node, Source.complete properties.anchor node s)
    let mapping := fun (entries, s) =>
      let node := Node.mapping properties.kind entries
      (node, Source.complete properties.anchor node s)
    match s.next? with
    | some (.scalar text plain) =>
      let node := Node.scalar properties.kind text plain
      return (node, s.skip.define properties.anchor node)
    | some .openList => return sequence (← readListItems true fuel opened)
    | some .openMapping => return mapping (← readFlowEntries true fuel opened)
    | t =>
      if t = some .sequenceBlock ∧ inBlock then return sequence (← readItems fuel opened)
      else if t = some .mappingBlock ∧ inBlock then return mapping (← readEntries fuel opened)
      else if t = some .entry ∧ hanging then
        return sequence (← readHangingItems fuel (s.define properties.anchor .cyclic))
      else if properties.isEmpty then throw s.fault
      else
        let node := Node.scalar properties.kind "" true
        return (node, s.define properties.anchor node)

/-- Reads a node, or nothing in front of some tokens. -/
def readNodeUnless (ts : List Token) (inBlock hanging : Bool) :
    Nat → Source → Except Fault (Node × Source)
  | 0, _ => .error .malformed
  | fuel + 1, s => if s.isAt ts then .ok (.blank, s) else readNode inBlock hanging fuel s

/-- Reads the items of a sequence up to the end of its block. -/
def readItems : Nat → Source → Except Fault (List Node × Source)
  | 0, _ => .error .malformed
  | fuel + 1, s => do
    if s.next? = some .blockEnd then return ([], s.skip)
    let s ← s.expect .entry
    let (item, s) ← readNodeUnless [.entry, .blockEnd] true false fuel s
    let (items, s) ← readItems fuel s
    return (item :: items, s)

/-- Reads the items of a sequence that is indented as far as its key. It ends at the next key. -/
def readHangingItems : Nat → Source → Except Fault (List Node × Source)
  | 0, _ => .error .malformed
  | fuel + 1, s => do
    if s.next? ≠ some .entry then return ([], s)
    let (item, s) ← readNodeUnless [.entry, .key, .value, .blockEnd] true false fuel s.skip
    let (items, s) ← readHangingItems fuel s
    return (item :: items, s)

/-- Reads the entries of a mapping up to the end of its block. Keys and values may be missing. -/
def readEntries : Nat → Source → Except Fault (List (Node × Node) × Source)
  | 0, _ => .error .malformed
  | fuel + 1, s => do
    if s.next? = some .blockEnd then return ([], s.skip)
    let (key, s) ←
      if s.next? = some .key then
        readNodeUnless [.key, .value, .blockEnd] true true fuel s.skip
      else if s.next? = some .value then pure (Node.blank, s)
      else throw s.fault
    let (value, s) ←
      if s.next? = some .value then
        readNodeUnless [.key, .value, .blockEnd] true true fuel s.skip
      else pure (Node.blank, s)
    let (entries, s) ← readEntries fuel s
    return ((key, value) :: entries, s)

/-- Reads the items of a list and its closing bracket. A comma may follow the last item. An item
can be a single entry, which stands for a mapping. -/
def readListItems (first : Bool) : Nat → Source → Except Fault (List Node × Source)
  | 0, _ => .error .malformed
  | fuel + 1, s => do
    if s.next? = some .closeList then return ([], s.skip)
    let s ← if first then pure s else s.expect .comma
    if s.next? = some .closeList then return ([], s.skip)
    let (item, s) ←
      if s.next? = some .key then do
        let (key, s) ← readNodeUnless [.value, .comma, .closeList] false false fuel s.skip
        let (value, s) ← readFlowValue .closeList fuel s
        pure (Node.mapping none [(key, value)], s)
      else readNode false false fuel s
    let (items, s) ← readListItems false fuel s
    return (item :: items, s)

/-- Reads the value of an entry between brackets, if it has one. -/
def readFlowValue (closing : Token) : Nat → Source → Except Fault (Node × Source)
  | 0, _ => .error .malformed
  | fuel + 1, s =>
    if s.next? = some .value then readNodeUnless [.comma, closing] false false fuel s.skip
    else .ok (.blank, s)

/-- Reads the entries of a mapping between braces and its closing brace. A key without a question
mark or a colon has no value. -/
def readFlowEntries (first : Bool) : Nat → Source → Except Fault (List (Node × Node) × Source)
  | 0, _ => .error .malformed
  | fuel + 1, s => do
    if s.next? = some .closeMapping then return ([], s.skip)
    let s ← if first then pure s else s.expect .comma
    if s.next? = some .closeMapping then return ([], s.skip)
    let (entry, s) ←
      if s.next? = some .key then do
        let (key, s) ← readNodeUnless [.value, .comma, .closeMapping] false false fuel s.skip
        let (value, s) ← readFlowValue .closeMapping fuel s
        pure ((key, value), s)
      else if s.next? = some .value then do
        let (value, s) ← readFlowValue .closeMapping fuel s
        pure ((Node.blank, value), s)
      else do
        let (key, s) ← readNode false false fuel s
        pure ((key, Node.blank), s)
    let (entries, s) ← readFlowEntries false fuel s
    return (entry :: entries, s)

end

/-- Reads a directive's tokens up to the start of its document. -/
def toDocumentStart (s : Source) : Except Fault Source :=
  Source.expect .documentStart { s with tokens := s.tokens.dropWhile (· == .directive) }

/-- Checks that nothing follows a document but the mark of its end. A second document is well
formed, but there may be only one. -/
def checkAlone (s : Source) : Except Fault Unit := do
  let ended := s.next? = some .documentEnd
  let s := if ended then s.skip else s
  if s.next? = some .finish then return
  if ended ∧ !s.isAt [.directive, .documentStart] then
    throw (if s.next?.any Token.isLast then s.fault else .meaningless)
  let _ ← toDocumentStart s
  throw .meaningless

/-- The node of a text's only document; an empty text has none. -/
def node? (ts : List Token) : Except Fault (Option Node) := do
  let fuel := 4 * ts.length + 4
  let s : Source := ⟨ts, []⟩
  if s.next? = some .finish then return none
  let (node, s) ←
    if s.isAt [.directive, .documentStart] then do
      let s ← toDocumentStart s
      readNodeUnless [.directive, .documentStart, .documentEnd, .finish] true false fuel s
    else readNode true false fuel s
  checkAlone s
  return some node

end Yaml

end TypedPages
