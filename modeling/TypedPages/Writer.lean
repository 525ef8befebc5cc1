import TypedPages.BufferPool
import TypedPages.Cursor
import TypedPages.Sink

/-!
# Writers

A writer assembles records cell by cell, gathers the finished ones in a buffer and hands them to
its sink as pages. Cells that were not set are null. A writer whose buffer has reached the page
size empties it at once.

Every operation answers and leaves a writer behind, also when it fails: what was done before the
failure stays done.
-/

namespace TypedPages

/-- A writer is open as long as it has a buffer. `sealedRecords` counts the finished records and
`pagesTaken` the pages that the sink did not refuse. -/
structure Writer where
  schema : Schema
  pageSize : Nat
  sink : Sink
  buffer : Option Buffer
  row : Record
  sealedRecords : Nat
  pagesTaken : Nat

namespace Writer

/-- A record of nulls, one per column. -/
def blankRow (schema : Schema) : Record :=
  .replicate schema.size .null

/-- Opens a writer with a buffer from the pool. -/
def ofPool (pool : BufferPool) (schema : Schema) (sink : Sink) : Writer × BufferPool :=
  let (buffer, pool) := pool.allocate
  ({ schema, pageSize := pool.pageSize, sink, buffer := some buffer, row := blankRow schema,
     sealedRecords := 0, pagesTaken := 0 }, pool)

/-- Whether the writer was closed. -/
def isClosed (w : Writer) : Bool :=
  w.buffer.isNone

/-- The records that wait for the next page. -/
def pending (w : Writer) : List Record :=
  (w.buffer.map Buffer.records).getD []

/-- The column at a position of the row, if the writer is open and has it. -/
def column [Host] (w : Writer) (index : Int) : Except Error Column :=
  if w.isClosed then .error (.violation .closedWriter)
  else if index < 0 ∨ (w.schema.size : Int) ≤ index then
    .error (Violation.outsideRow index w.schema.size).raised
  else match w.schema.columnAt? index with
    | some column => .ok column
    | none => .error (.beyondColumns index)

/-- Checks a write of a value: the column has the type asked for, and the value is of that type. -/
def checkWrite [Host] (w : Writer) (type : ColumnType) (index : Int) (cell : Cell) :
    Except Error Unit := do
  let column ← w.column index
  if column.type ≠ type then
    throw (.violation (.writeAs column.name column.type type))
  Cursor.checkValue column.name type cell

/-- Stores a cell in the row. -/
def place (w : Writer) (index : Int) (cell : Cell) : Writer :=
  { w with row := w.row.set index.toNat cell }

/-- Sets a cell of the row to a value of the given type. -/
def write [Host] (w : Writer) (type : ColumnType) (index : Int) (cell : Cell) :
    Except Error Unit × Writer :=
  match w.checkWrite type index cell with
  | .ok () => (.ok (), w.place index cell)
  | .error e => (.error e, w)

/-- Sets a cell of the row to null. -/
def writeNull [Host] (w : Writer) (index : Int) : Except Error Unit × Writer :=
  match w.column index with
  | .ok _ => (.ok (), w.place index .null)
  | .error e => (.error e, w)

/-- Makes a call of the sink. -/
def tell (w : Writer) (call : SinkCall) : Except Error Unit × Writer :=
  let (answer, sink) := w.sink.tell call
  (answer.mapError .failure, { w with sink })

/-- Hands the waiting records to the sink as one page; nothing happens if none wait. The buffer
is emptied before the sink is called, so a refused page is not offered again. -/
def flush (w : Writer) : Except Error Unit × Writer :=
  match w.buffer with
  | none => (.ok (), w)
  | some buffer =>
    if buffer.records.isEmpty then (.ok (), w)
    else
      match { w with buffer := some buffer.cleared }.tell (.add buffer.records) with
      | (.ok (), w) => (.ok (), { w with pagesTaken := w.pagesTaken + 1 })
      | (.error e, w) => (.error e, w)

/-- Finishes the row and starts a new one; a full buffer is flushed. -/
def sealRow (w : Writer) : Except Error Unit × Writer :=
  match w.buffer with
  | none => (.error (.violation .closedWriter), w)
  | some buffer =>
    let buffer := buffer.push w.row
    let w := { w with
      buffer := some buffer, row := blankRow w.schema, sealedRecords := w.sealedRecords + 1 }
    if w.pageSize ≤ buffer.records.length then w.flush else (.ok (), w)

/-- Flushes what waits and tells the sink that no more pages follow. -/
def finish (w : Writer) : Except Error Unit × Writer :=
  if w.isClosed then (.error (.violation .closedWriter), w)
  else match w.flush with
    | (.ok (), w) => w.tell .finish
    | (.error e, w) => (.error e, w)

/-- Gives the buffer back and closes the sink; records that wait are lost. Closing twice is
harmless. The sink is closed even if the pool refuses the buffer, and its failure is then the one
that is reported.

To be closed and to have no buffer is one mark here. They would be two after a refusal by the pool,
when a writer is closed and still has its buffer; but a pool takes back what it has lent to an open
writer, and a writer gives its buffer back nowhere else, so no refusal occurs. -/
def close (w : Writer) (pool : BufferPool) : Except Error Unit × Writer × BufferPool :=
  match w.buffer with
  | none => (.ok (), w, pool)
  | some buffer =>
    let (released, pool) := match pool.release buffer with
      | .ok (_, pool) => (.ok (), pool)
      | .error e => (.error e, pool)
    match { w with buffer := none }.tell .close with
    | (.ok (), w) => (released, w, pool)
    | (.error e, w) => (.error e, w, pool)

/-- Copies the cell of a column of the cursor's record to a position of the row. -/
def copy [Host] (w : Writer) (cursor : Cursor) (column : Column) (index : Int) :
    Except Error Unit × Writer :=
  match cursor.isNull column with
  | .error e => (.error e, w)
  | .ok true => w.writeNull index
  | .ok false =>
    match cursor.read column.type column with
    | .error e => (.error e, w)
    | .ok cell => w.write column.type index cell

end Writer

end TypedPages
