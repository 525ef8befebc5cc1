import TypedPages.Log.Template.Conversion

/-!
# Filling templates

The marks of a template take the arguments in order, one each, and one more for a width or a
precision that is not given. Marks with a key look into the mapping that the arguments are; after
one of them the value found is all that is left to be taken.
-/

namespace TypedPages

namespace Template

/-- The arguments of a template: those that are left to be taken, and the mapping or list into
which keys look, if the arguments are one. -/
structure Supply where
  left : List Document
  source : Option Document
  deriving Inhabited

namespace Supply

/-- Takes the next argument. -/
def next (s : Supply) : Except TemplateError (Document × Supply) :=
  match s.left with
  | [] => .error .tooFewArguments
  | argument :: left => .ok (argument, { s with left })

/-- Looks up a key. The value that it has is what is left to be taken. -/
def lookUp (s : Supply) (key : String) : Except TemplateError Supply :=
  match s.source with
  | some (.mapping entries) =>
    match entries.lookup key with
    | some value => .ok { s with left := [value] }
    | none => .error (.noKey key)
  | some _ => .error (.noPosition key)
  | none => .error .noMapping

/-- Takes an argument that is a whole number. -/
def nextWhole (s : Supply) : Except TemplateError (Int × Supply) := do
  match ← s.next with
  | (.whole n, s) => return (n, s)
  | (.flag value, s) => return (if value then 1 else 0, s)
  | _ => throw .notSize

/-- Arguments that are given one by one. -/
def ofRow (arguments : List Document) : Supply :=
  ⟨arguments, none⟩

/-- A single argument, into which keys can look if it is a mapping or a list. -/
def ofValue (d : Document) : Supply :=
  match d with
  | .mapping _ | .list _ => ⟨[d], some d⟩
  | _ => ⟨[d], none⟩

end Supply

/-- The length that no filled template can have. -/
def lengthLimit : Nat := Nat.pow 2 36

/-- The width of a mark and whether it asks for the left side: a negative one does. -/
def widthOf (s : Supply) : Size → Except TemplateError (Nat × Bool × Supply)
  | .given n => if n < Nat.pow 2 63 then .ok (n, false, s) else .error .wideSize
  | .taken => do
    let (n, s) ← s.nextWhole
    if -(Nat.pow 2 63 : Int) ≤ n ∧ n < Nat.pow 2 63 then return (n.natAbs, decide (n < 0), s)
    else throw (.sizeOverflow "ssize_t")

/-- The precision of a mark; a negative one is zero. -/
def precisionOf (s : Supply) : Option Size → Except TemplateError (Option Nat × Supply)
  | none => .ok (none, s)
  | some (.given n) => if n < Nat.pow 2 31 then .ok (some n, s) else .error .preciseSize
  | some .taken => do
    let (n, s) ← s.nextWhole
    if -(Nat.pow 2 31 : Int) ≤ n ∧ n < Nat.pow 2 31 then return (some n.toNat, s)
    else throw (.sizeOverflow "int")

/-- Fills a mark. Its argument is taken before its letter is judged. -/
def fillMark (s : Supply) (m : Mark) : Except TemplateError (List Char × Supply) := do
  let s ← match m.key with
    | some key => s.lookUp key
    | none => pure s
  let (width, left, s) ← widthOf s m.width
  let (precision, s) ← precisionOf s m.precision
  match m.letter with
  | none => throw .incomplete
  | some (letter, index) =>
    let (argument, s) ← s.next
    let layout : Layout := {
      left := left || m.flags.contains '-'
      zeros := m.flags.contains '0'
      plus := m.flags.contains '+'
      blank := m.flags.contains ' '
      marked := m.flags.contains '#'
      width, precision }
    let written ← write layout letter index argument
    if lengthLimit ≤ width then throw .tooLong
    else return (layout.place written, s)

/-- Fills the parts of a template. In the end no argument may be left, unless there is something
that keys can look into. -/
def fillPieces (s : Supply) : List Piece → Except TemplateError (List Char)
  | [] => if s.left.isEmpty || s.source.isSome then .ok [] else .error .tooManyArguments
  | .char c :: pieces => (fillPieces s pieces).map (c :: ·)
  | .openMark :: _ => if s.source.isSome then .error .incompleteKey else .error .noMapping
  | .mark m :: pieces =>
    match fillMark s m with
    | .error e => .error e
    | .ok (cs, s) => (fillPieces s pieces).map (cs ++ ·)

/-- Fills a template from a supply of arguments. -/
def fillFrom (s : Supply) (template : String) : Except TemplateError String :=
  (fillPieces s (pieces template)).map String.ofList

/-- Fills a template from a row of arguments. A template without arguments is taken as it stands. A
single argument that is a mapping with entries gives its values by key. -/
def fill (template : String) (arguments : List Document) : Except TemplateError String :=
  match arguments with
  | [] => .ok template
  | [.mapping (entry :: entries)] => fillFrom (.ofValue (.mapping (entry :: entries))) template
  | _ => fillFrom (.ofRow arguments) template

end Template

end TypedPages
