import TypedPages.Text.Digits

/-!
# Marks of templates

A template is a text in which marks stand for arguments. A mark begins with a per cent sign; it can
name its argument between round brackets, has flags, a width and a precision, and ends with a
letter. Two per cent signs side by side are no mark but stand for one.
-/

namespace TypedPages

namespace Template

/-- A width or a precision: a number, or taken from the arguments. -/
inductive Size where
  | given (n : Nat)
  | taken
  deriving DecidableEq, Repr, Inhabited

/-- A mark. The letter comes with its position; it is missing when the template ends before it. -/
structure Mark where
  key : Option String
  flags : List Char
  width : Size
  precision : Option Size
  letter : Option (Char × Nat)
  deriving DecidableEq, Repr, Inhabited

/-- A part of a template. The key that an open mark begins has no closing bracket. -/
inductive Piece where
  | char (c : Char)
  | mark (m : Mark)
  | openMark
  deriving DecidableEq, Repr, Inhabited

/-- The flags of marks. -/
def isFlag (c : Char) : Bool :=
  c == '-' || c == '+' || c == ' ' || c == '#' || c == '0'

/-- The letters in front of the last that mean nothing. -/
def isFiller (c : Char) : Bool :=
  c == 'h' || c == 'l' || c == 'L'

/-- Reads a number, which is zero if it has no digits, or the sign for one that is taken. -/
def readSize : List Char → Size × List Char
  | '*' :: cs => (.taken, cs)
  | cs =>
    (.given ((Text.digitsValue? 10 Text.digit? 0 (cs.takeWhile Char.isDigit)).getD 0),
      cs.dropWhile Char.isDigit)

/-- Reads a point and the number after it, if there is a point. -/
def readPrecision : List Char → Option Size × List Char
  | '.' :: cs => ((readSize cs).map some id)
  | cs => (none, cs)

/-- Skips one filler. -/
def skipFiller : List Char → List Char
  | c :: cs => if isFiller c then cs else c :: cs
  | [] => []

/-- Reads a key and its closing bracket, on top of the characters read before, which stand
backwards; `depth` brackets that belong to the key are open. -/
def readKey (depth : Nat) (read : List Char) : List Char → Option (String × List Char)
  | [] => none
  | c :: cs =>
    if c = ')' ∧ depth = 0 then some (.ofList read.reverse, cs)
    else
      readKey (if c = '(' then depth + 1 else if c = ')' then depth - 1 else depth) (c :: read) cs

/-- Reads a mark behind its key. Positions count from the start of a template that is `total`
characters long. -/
def readMark (total : Nat) (key : Option String) (cs : List Char) : Mark × List Char :=
  let (width, rest) := readSize (cs.dropWhile isFlag)
  let (precision, rest) := readPrecision rest
  let rest := skipFiller rest
  let letter := rest.head?.map fun c => (c, total - rest.length)
  (⟨key, cs.takeWhile isFlag, width, precision, letter⟩, rest.drop 1)

theorem length_readSize_le (cs : List Char) : (readSize cs).2.length ≤ cs.length := by
  unfold readSize
  split
  · simp
  · exact (List.dropWhile_sublist _).length_le

theorem length_readPrecision_le (cs : List Char) : (readPrecision cs).2.length ≤ cs.length := by
  unfold readPrecision
  split
  · exact Nat.le_succ_of_le (length_readSize_le _)
  · simp

theorem length_skipFiller_le (cs : List Char) : (skipFiller cs).length ≤ cs.length := by
  unfold skipFiller
  split
  · split <;> simp
  · simp

theorem length_readKey_le {depth : Nat} {read cs rest : List Char} {key : String}
    (h : readKey depth read cs = some (key, rest)) : rest.length ≤ cs.length := by
  induction cs generalizing depth read with
  | nil => simp [readKey] at h
  | cons c cs ih =>
    unfold readKey at h
    split at h
    · simp only [Option.some.injEq, Prod.mk.injEq] at h
      simp [h.2]
    · exact Nat.le_succ_of_le (ih h)

theorem length_readMark_le (total : Nat) (key : Option String) (cs : List Char) :
    (readMark total key cs).2.length ≤ cs.length := by
  have flags : (cs.dropWhile isFlag).length ≤ cs.length := (List.dropWhile_sublist _).length_le
  have width := length_readSize_le (cs.dropWhile isFlag)
  have precision := length_readPrecision_le (readSize (cs.dropWhile isFlag)).2
  have filler := length_skipFiller_le (readPrecision (readSize (cs.dropWhile isFlag)).2).2
  simp only [readMark, List.length_drop]
  omega

/-- The parts of the rest of a template that is `total` characters long. Nothing is read behind a
key that is not closed. -/
def piecesFrom (total : Nat) : List Char → List Piece
  | [] => []
  | '%' :: '%' :: cs => .char '%' :: piecesFrom total cs
  | '%' :: '(' :: cs =>
    match _found : readKey 0 [] cs with
    | none => [.openMark]
    | some (key, rest) =>
      .mark (readMark total (some key) rest).1 ::
        piecesFrom total (readMark total (some key) rest).2
  | '%' :: cs => .mark (readMark total none cs).1 :: piecesFrom total (readMark total none cs).2
  | c :: cs => .char c :: piecesFrom total cs
termination_by cs => cs.length
decreasing_by
  · simp only [List.length_cons]; omega
  · have shorter := length_readKey_le _found
    have mark := length_readMark_le total (some key) rest
    simp only [List.length_cons]
    omega
  · exact Nat.lt_succ_of_le (length_readMark_le total none cs)
  · simp

/-- The parts of a template. -/
def pieces (template : String) : List Piece :=
  piecesFrom template.toList.length template.toList

end Template

end TypedPages
