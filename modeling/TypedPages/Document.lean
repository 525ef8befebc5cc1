import TypedPages.Cell

/-!
# Documents

The data of configuration files, of tasks and of log fields: trees of texts, numbers and flags.
The entries of a mapping keep their order, because issues are reported in that order.
-/

namespace TypedPages

/-- A tree of plain data. Whole numbers and numbers with a fraction part are kept apart, and so are
texts and the moments that they spell. -/
inductive Document where
  | null
  | flag (value : Bool)
  | whole (value : Int)
  | real (value : Double)
  | text (value : String)
  | moment (value : Moment)
  | list (items : List Document)
  | mapping (entries : List (String × Document))
  deriving Inhabited

/-- The entries of a mapping in order. -/
abbrev Entries := List (String × Document)

namespace Entries

/-- Sets the value of a key: in its old place, or at the end if the key is new. -/
def insert (key : String) (value : Document) : Entries → Entries
  | [] => [(key, value)]
  | (k, v) :: rest => if k = key then (k, value) :: rest else (k, v) :: insert key value rest

theorem lookup_insert (key k : String) (value : Document) (entries : Entries) :
    (insert key value entries).lookup k = if k = key then some value else entries.lookup k := by
  induction entries with
  | nil => grind [insert]
  | cons entry rest ih =>
    by_cases he : entry.1 = key <;> by_cases hk : k = key <;> grind [insert]

/-- The entries without a key. -/
def erase (key : String) (entries : Entries) : Entries :=
  entries.filter (·.1 ≠ key)

/-- Renames every key. Of entries that come to share a key the last one gives the value. -/
def mapKeys (rename : String → String) (entries : Entries) : Entries :=
  entries.foldl (fun renamed (key, value) => renamed.insert (rename key) value) []

end Entries

namespace Document

/-- The class that messages give a document. -/
def className : Document → String
  | null => "NoneType"
  | flag _ => "bool"
  | whole _ => "int"
  | real _ => "float"
  | text _ => "str"
  | moment value => value.className
  | list _ => "list"
  | mapping _ => "dict"

/-- Whether a document says nothing: null, false, a zero, or something empty. -/
def isVoid : Document → Bool
  | null => true
  | flag value => !value
  | whole value => value == 0
  | real (.finite _ digits _) => digits == 0
  | real _ => false
  | text value => value.isEmpty
  | moment _ => false
  | list items => items.isEmpty
  | mapping entries => entries.isEmpty

/-- The whole number that a number or a truth value is. -/
def wholeValue? : Document → Option Int
  | flag value => some (if value then 1 else 0)
  | whole value => some value
  | real value => value.toInt?
  | _ => none

/-- Whether two documents that are neither lists nor mappings have the same value. Numbers and
truth values are compared by value. -/
def agreesAtTop (a b : Document) : Bool :=
  match a.wholeValue?, b.wholeValue? with
  | some m, some n => m == n
  | none, none =>
    match a, b with
    | null, null => true
    | real .nan, real .nan => false
    | real x, real y => x == y
    | text s, text t => s == t
    | moment x, moment y => x == y
    | _, _ => false
  | _, _ => false

mutual

/-- Whether two documents have the same value; the order of entries does not matter. -/
def agrees : Document → Document → Bool
  | list as, list bs => agreeItems as bs
  | mapping as, mapping bs => as.length == bs.length && agreeEntries bs as
  | a, b => a.agreesAtTop b

def agreeItems : List Document → List Document → Bool
  | [], [] => true
  | a :: as, b :: bs => agrees a b && agreeItems as bs
  | _, _ => false

def agreeEntries (others : List (String × Document)) : List (String × Document) → Bool
  | [] => true
  | (key, a) :: as =>
    (match others.lookup key with
      | some b => agrees a b
      | none => false) && agreeEntries others as

end

mutual

/-- A document as a cell, of the type that its top has. -/
def toCell : Document → Cell
  | null => .null
  | flag value => .boolean value
  | whole value => .long value
  | real value => .double value
  | text value => .string value
  | moment (.date value) => .date value
  | moment (.timestamp value) => .timestamp value
  | moment (.clock value) => .string (.ofList value.text)
  | list items => .list (toCells items)
  | mapping entries => .object (toEntryCells entries)

def toCells : List Document → List Cell
  | [] => []
  | item :: items => toCell item :: toCells items

def toEntryCells : List (String × Document) → List (String × Cell)
  | [] => []
  | (key, item) :: entries => (key, toCell item) :: toEntryCells entries

end

/-- The literal by which messages show a document. -/
def literal (d : Document) : String :=
  d.toCell.literal

/-- A list of texts as a document. -/
def ofTexts (texts : List String) : Document :=
  .list (texts.map .text)

/-- A number of things as a document. -/
def ofNat (n : Nat) : Document :=
  .whole n

end Document

end TypedPages
