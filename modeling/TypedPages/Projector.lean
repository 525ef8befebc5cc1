import TypedPages.Log
import TypedPages.Projection
import TypedPages.Writer

/-!
# Projectors

A projector sends pages through a column projection: for every record of every page it copies the
retained cells into their output places and seals the output record. It owns a cursor over the
input and a writer of the output for the life of a transaction.
-/

namespace TypedPages

/-- A cursor and a writer that are tied together by a lookup table, and what went through them:
`pages` counts the pages that were fed without a failure, `records` the records. -/
structure Projector where
  cursor : Cursor
  writer : Writer
  lookup : LookupTable
  closed : Bool
  pages : Nat
  records : Nat

namespace Projector

/-- Ties a cursor to a writer. The output schema has to be a projection of the input schema. -/
def ofParts (cursor : Cursor) (writer : Writer) : Except Error Projector :=
  (cursor.schema.lookupTable writer.schema).map fun lookup =>
    { cursor, writer, lookup, closed := false, pages := 0, records := 0 }

/-- The input columns with their places in the output. -/
def routes (p : Projector) : List (Column × Option Nat) :=
  p.cursor.schema.columns.zip p.lookup

/-- Copies the retained cells of the cursor's record, up to the first that is refused. Cells of
dropped columns are not looked at. -/
def copyCells [Host] (cursor : Cursor) :
    List (Column × Option Nat) → Writer → Except Error Unit × Writer
  | [], w => (.ok (), w)
  | (_, none) :: routes, w => copyCells cursor routes w
  | (column, some index) :: routes, w =>
    match w.copy cursor column index with
    | (.ok (), w) => copyCells cursor routes w
    | (.error e, w) => (.error e, w)

/-- Copies the cursor's record and seals it. -/
def transferRecord [Host] (p : Projector) : Except Error Unit × Projector :=
  match copyCells p.cursor p.routes p.writer with
  | (.error e, writer) => (.error e, { p with writer })
  | (.ok (), writer) =>
    match writer.sealRow with
    | (.error e, writer) => (.error e, { p with writer })
    | (.ok (), writer) => (.ok (), { p with writer, records := p.records + 1 })

/-- Advances the cursor over the given records, which lie ahead of it, and transfers each; one
more advance shows that the page has ended. -/
def transferAll [Host] : List Record → Projector → Except Error Unit × Projector
  | [], p => (.ok (), { p with cursor := p.cursor.advance.2 })
  | _ :: rest, p =>
    match p.cursor.advance with
    | (.error e, cursor) => (.error e, { p with cursor })
    | (.ok false, cursor) => (.ok (), { p with cursor })
    | (.ok true, cursor) =>
      match { p with cursor }.transferRecord with
      | (.error e, p) => (.error e, p)
      | (.ok (), p) => transferAll rest p

/-- Sends one page through. A page counts when all its records went through. -/
def feed [Host] (p : Projector) (page : Page) : Except Error Unit × Projector :=
  match transferAll page { p with cursor := p.cursor.bind page } with
  | (.ok (), p) => (.ok (), { p with pages := p.pages + 1 })
  | (.error e, p) => (.error e, p)

/-- Flushes what the writer holds and tells the sink that no more pages follow. -/
def finish (p : Projector) : Except Error Unit × Projector :=
  let (answer, writer) := p.writer.finish
  (answer, { p with writer })

/-- The event that reports a successful finish. -/
def finishEvent (p : Projector) : LogEvent where
  level := .info
  logger := "colsieve.core.transcoder"
  event := "Projection finished"
  fields := [("pages_in", .ofNat p.pages), ("records_in", .ofNat p.records),
    ("records_out", .ofNat p.writer.sealedRecords), ("pages_out", .ofNat p.writer.pagesTaken)]

/-- Lets go of the page and closes the writer. Closing twice is harmless. -/
def close (p : Projector) (pool : BufferPool) : Except Error Unit × Projector × BufferPool :=
  if p.closed then (.ok (), p, pool)
  else
    let (answer, writer, pool) := p.writer.close pool
    (answer, { p with cursor := p.cursor.close, writer, closed := true }, pool)

/-- What can be done with a projector. -/
inductive Step where
  | feed (page : Page)
  | finish
  | close
  deriving Inhabited

/-- Performs a step; after a failed step work goes on with what it left behind. -/
def step [Host] (p : Projector) (pool : BufferPool) :
    Step → Except Error Unit × Projector × BufferPool
  | .feed page => let (answer, p) := p.feed page; (answer, p, pool)
  | .finish => let (answer, p) := p.finish; (answer, p, pool)
  | .close => p.close pool

end Projector

end TypedPages
