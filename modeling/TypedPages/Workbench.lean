import TypedPages.Writer

/-!
# Workbenches

One cursor and several writers that share a pool, worked step by step. Writers can be opened at any
time; after a failed step work goes on with the state that the step left behind.
-/

namespace TypedPages

/-- A cursor, a pool, and writers over the pool with a sink each. -/
structure Workbench where
  cursor : Cursor
  pool : BufferPool
  writers : List Writer

namespace Workbench

/-- What can be done to a single writer. -/
inductive WriterStep where
  | write (type : ColumnType) (index : Int) (cell : Cell)
  | writeNull (index : Int)
  | copy (column : Column) (index : Int)
  | sealRow
  | flush
  | finish
  | close
  deriving Inhabited

/-- What can be done at a workbench. -/
inductive Step where
  | bind (page : Page)
  | advance
  | isNull (column : Column)
  | read (type : ColumnType) (column : Column)
  | closeCursor
  | openWriter (schema : Schema) (sink : Sink)
  | writer (number : Nat) (step : WriterStep)
  deriving Inhabited

/-- What a step answers. -/
inductive Answer where
  | done
  | flag (value : Bool)
  | cell (cell : Cell)
  deriving Inhabited

/-- A workbench with a cursor for `reader` and no writers. -/
def ofReader (pool : BufferPool) (reader : Schema) : Workbench :=
  ⟨.ofSchema reader, pool, []⟩

/-- Opens a writer, whose number is the number of writers opened before. -/
def openWriter (bench : Workbench) (schema : Schema) (sink : Sink) : Workbench :=
  let (writer, pool) := Writer.ofPool bench.pool schema sink
  { bench with pool, writers := bench.writers ++ [writer] }

/-- A workbench with a cursor for `reader` and one writer per schema and sink. -/
def setUp (pool : BufferPool) (reader : Schema) (writers : List (Schema × Sink)) : Workbench :=
  writers.foldl (fun bench (schema, sink) => bench.openWriter schema sink) (ofReader pool reader)

/-- A step of a writer that shares the given cursor and pool with others. -/
def stepWriter [Host] (cursor : Cursor) (pool : BufferPool) (w : Writer) :
    WriterStep → Except Error Unit × Writer × BufferPool
  | .write type index cell => let (answer, w) := w.write type index cell; (answer, w, pool)
  | .writeNull index => let (answer, w) := w.writeNull index; (answer, w, pool)
  | .copy column index => let (answer, w) := w.copy cursor column index; (answer, w, pool)
  | .sealRow => let (answer, w) := w.sealRow; (answer, w, pool)
  | .flush => let (answer, w) := w.flush; (answer, w, pool)
  | .finish => let (answer, w) := w.finish; (answer, w, pool)
  | .close => w.close pool

/-- Performs a step. A writer that is not there answers nothing and changes nothing. -/
def step [Host] (bench : Workbench) : Step → Except Error Answer × Workbench
  | .bind page => (.ok .done, { bench with cursor := bench.cursor.bind page })
  | .advance =>
    let (answer, cursor) := bench.cursor.advance
    (answer.map .flag, { bench with cursor })
  | .isNull column => ((bench.cursor.isNull column).map .flag, bench)
  | .read type column => ((bench.cursor.read type column).map .cell, bench)
  | .closeCursor => (.ok .done, { bench with cursor := bench.cursor.close })
  | .openWriter schema sink => (.ok .done, bench.openWriter schema sink)
  | .writer number step =>
    match bench.writers[number]? with
    | none => (.ok .done, bench)
    | some w =>
      let (answer, w, pool) := stepWriter bench.cursor bench.pool w step
      (answer.map fun _ => .done, { bench with pool, writers := bench.writers.set number w })

end Workbench

end TypedPages
