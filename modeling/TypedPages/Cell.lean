import TypedPages.ColumnType
import TypedPages.Double
import TypedPages.Host
import TypedPages.Time

/-!
# Cells

The values that records hold. A cell can be null, a value of one of the column types, or a value
that no column accepts at its top: such cells reach the library from outside and are refused when
a retained column holds them. Below the top of a JSON cell anything may stand.
-/

namespace TypedPages

/-- One value of a record. -/
inductive Cell where
  | null
  | boolean (value : Bool)
  | long (value : Int)
  | double (value : Double)
  | string (value : String)
  | timestamp (value : Timestamp)
  | list (items : List Cell)
  | object (entries : List (String × Cell))
  | tuple (items : List Cell)
  | bytes (value : List UInt8)
  | date (value : Date)
  | decimal (text : String)
  deriving Inhabited

/-- One cell per column. -/
abbrev Record := List Cell

/-- A batch of records in arrival order: the unit that travels between the stages. -/
abbrev Page := List Record

namespace Cell

/-- Sets the value of a key: in its old place, or at the end if the key is new. -/
def setEntry (key : String) (cell : Cell) : List (String × Cell) → List (String × Cell)
  | [] => [(key, cell)]
  | (k, c) :: rest => if k = key then (k, cell) :: rest else (k, c) :: setEntry key cell rest

/-- The object of entries that are set one after the other. -/
def ofEntries (entries : List (String × Cell)) : Cell :=
  .object (entries.foldl (fun object (key, cell) => setEntry key cell object) [])

/-- Whether the cell is the null marker. -/
def isNull : Cell → Bool
  | null => true
  | _ => false

/-- Whether the cell is a value of a column type. Null is a value of none; a truth value is not
a whole number; a JSON value is judged by its top alone. -/
def fits : ColumnType → Cell → Bool
  | .boolean, boolean _ => true
  | .long, long _ => true
  | .double, double _ => true
  | .string, string _ => true
  | .timestamp, timestamp _ => true
  | .json, boolean _ => true
  | .json, long _ => true
  | .json, double _ => true
  | .json, string _ => true
  | .json, list _ => true
  | .json, object _ => true
  | _, _ => false

/-- The class that messages give a cell. -/
def className : Cell → String
  | null => "NoneType"
  | boolean _ => "bool"
  | long _ => "int"
  | double _ => "float"
  | string _ => "str"
  | timestamp _ => "datetime"
  | list _ => "list"
  | object _ => "dict"
  | tuple _ => "tuple"
  | bytes _ => "bytes"
  | date _ => "date"
  | decimal _ => "Decimal"

mutual

/-- The literal by which messages show a cell, unless something keeps it from being written; see
`obstacle?`. -/
def literalChars : Cell → List Char
  | null => "None".toList
  | boolean value => (if value then "True" else "False").toList
  | long value => value.repr.toList
  | double value => value.text
  | string value => Text.quoted value
  | timestamp value => value.literal
  | list items => Text.bracketed (literals items)
  | object entries => '{' :: Text.joined [',', ' '] (entryLiterals entries) ++ ['}']
  | tuple items => Text.parenthesized (literals items)
  | bytes value => Text.quotedBytes value
  | date value => value.literal
  | decimal text => "Decimal('".toList ++ text.toList ++ ['\'', ')']

def literals : List Cell → List (List Char)
  | [] => []
  | cell :: cells => literalChars cell :: literals cells

def entryLiterals : List (String × Cell) → List (List Char)
  | [] => []
  | (key, cell) :: entries =>
    (Text.quoted key ++ ':' :: ' ' :: literalChars cell) :: entryLiterals entries

end

/-- `literalChars` as a string. -/
def literal (cell : Cell) : String :=
  .ofList cell.literalChars

section

variable [Host]

mutual

/-- What keeps the literal of a cell from being written where the stack has room for so many values
inside each other. Parts are written from left to right, and the first obstacle counts. -/
def obstacleWithin? : Cell → Nat → Option Unwritable
  | _, 0 => some .nesting
  | long value, _ + 1 => Host.obstacle? value
  | timestamp value, room + 1 => if room < value.nesting then some .nesting else none
  | list items, room + 1 => itemsObstacle? items room
  | object entries, room + 1 => entriesObstacle? entries room
  | tuple items, room + 1 => itemsObstacle? items room
  | _, _ + 1 => none

def itemsObstacle? : List Cell → Nat → Option Unwritable
  | [], _ => none
  | cell :: cells, room => (obstacleWithin? cell room).or (itemsObstacle? cells room)

/-- A key needs no more room than its value, and nothing else keeps it from being written. -/
def entriesObstacle? : List (String × Cell) → Nat → Option Unwritable
  | [], _ => none
  | (_, cell) :: entries, room => (obstacleWithin? cell room).or (entriesObstacle? entries room)

end

/-- What keeps the literal of a cell from being written into a message. -/
def obstacle? (cell : Cell) : Option Unwritable :=
  cell.obstacleWithin? Host.room

end

end Cell

end TypedPages
