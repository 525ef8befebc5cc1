import TypedPages.Text.CaseTable

/-!
# Upper and lower case

Case mappings of whole texts. A character can grow (`ß` becomes `SS`, a dotted capital I keeps its
dot as a mark of its own), and a capital sigma is lowered to its final form at the end of a word.
-/

namespace TypedPages.Text

/-- Moves a code point by the first run that steps on it; all others stay where they are. -/
def moveBy (runs : List CaseRun) (c : Char) : Char :=
  match runs.find? (·.moves c.toNat) with
  | some run => .ofNat (c.toNat + run.shift).toNat
  | none => c

/-- Membership of a character in a list of runs. -/
def inRuns (runs : List (Nat × Nat)) (c : Char) : Bool :=
  runs.any fun run => run.1 ≤ c.toNat && c.toNat ≤ run.2

/-- A lower-case sigma takes its final form after a cased letter and before none, where the
characters that words may contain besides letters do not count. `before` is read backwards. -/
def endsWord (before after : List Char) : Bool :=
  let cased := fun (cs : List Char) =>
    match cs.dropWhile (inRuns caseIgnorableRuns) with
    | [] => false
    | c :: _ => inRuns casedRuns c
  cased before && !cased after

/-- The lower case of one character that stands between `before`, read backwards, and `after`. -/
def lowerAt (before : List Char) (c : Char) (after : List Char) : List Char :=
  if c.toNat < 0x80 then [c.toLower]
  else if c.toNat = 0x130 then ['i', .ofNat 0x307]
  else if c.toNat = 0x3A3 then [.ofNat (if endsWord before after then 0x3C2 else 0x3C3)]
  else [moveBy lowerRuns c]

/-- Lowers the characters that follow `before`, which is read backwards. -/
def lowerFrom (before : List Char) : List Char → List Char
  | [] => []
  | c :: after => lowerAt before c after ++ lowerFrom (c :: before) after

/-- The lower case of a text. -/
def lower (s : String) : String :=
  .ofList (lowerFrom [] s.toList)

/-- The upper case of one character. -/
def upperChar (c : Char) : List Char :=
  if c.toNat < 0x80 then [c.toUpper]
  else match upperSequences.lookup c.toNat with
    | some codes => codes.map Char.ofNat
    | none => [moveBy upperRuns c]

/-- The upper case of a text. -/
def upper (s : String) : String :=
  .ofList (s.toList.flatMap upperChar)

end TypedPages.Text
