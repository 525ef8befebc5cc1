import TypedPages.Proofs.Opening
import TypedPages.Proofs.Typing

/-!
# Where the errors of a transaction come from

An error of the configuration or of the acceptor comes before anything is touched. Once the stream
is open, an error is a fault of a record, a failure of the source, or a refusal of the sink. For
this the table of the projector has to stay in step with its cursor and its row: whatever goes
through, each column has an entry, and each target is a place of the row.
-/

namespace TypedPages

namespace Projector

variable {input output : Schema} {sink : Sink} {p : Projector}

/-- Each column of the cursor has an entry in the table, and each target is a place of the row. -/
structure Fits (p : Projector) : Prop where
  columns : p.lookup.length = p.cursor.schema.columns.length
  places : ∀ target, some target ∈ p.lookup → target < p.writer.row.length

/-- The cursor reads records of the input, the writer is one of the output, and the table leads
from the one to the other. -/
structure Tied (input output : Schema) (sink : Sink) (p : Projector) : Prop where
  cursor : p.cursor.schema = input
  lookup : input.lookupTable output = .ok p.lookup
  writer : p.writer.Sound output sink

namespace Tied

variable (h : p.Tied input output sink)
include h

theorem fits : p.Fits := by
  constructor
  · rw [Schema.length_lookupTable h.lookup, Schema.length_columns, h.cursor]
  · intro target member
    obtain ⟨i, found⟩ := List.mem_iff_getElem?.mp member
    obtain ⟨f, -, place⟩ := (Schema.lookupTable_target_iff h.lookup).mp found
    rw [h.writer.row.width]
    exact Schema.lt_size place

theorem of_cursor {cursor : Cursor} (same : cursor.schema = p.cursor.schema) :
    { p with cursor }.Tied input output sink :=
  ⟨same.trans h.cursor, h.lookup, h.writer⟩

/-- Neither the copying of the cells nor the sealing of the record has to do with the table. -/
theorem transferRecord [Host] : p.transferRecord.2.Tied input output sink := by
  obtain ⟨cursor, lookup⟩ := p.parts_transferRecord
  refine ⟨by rw [cursor, h.cursor], by rw [lookup, h.lookup], ?_⟩
  apply transferRecord_induction _ _ p h.writer
  · intro w cursor column index sound
    exact sound.copy cursor column index
  · intro w sound
    exact sound.sealRow

theorem transferAll [Host] (records : List Record) :
    (transferAll records p).2.Tied input output sink :=
  transferAll_induction (fun _ _ same tied => tied.of_cursor same)
    (fun _ tied => tied.transferRecord) records h

theorem feed [Host] (page : Page) : (p.feed page).2.Tied input output sink :=
  feed_induction (fun _ _ same tied => tied.of_cursor same) (fun _ tied => tied.transferRecord)
    (fun _ _ tied => ⟨tied.cursor, tied.lookup, tied.writer⟩) page h

theorem feedAll [Host] (pages : List Page) (tally : Tally) :
    (Transaction.feedAll pages tally p).2.2.Tied input output sink := by
  induction pages generalizing p tally with
  | nil => exact h
  | cons page pages ih =>
      have fed := h.feed page
      rw [Transaction.feedAll]
      split <;> rename_i result <;> rw [result] at fed
      · exact ih fed _
      · exact fed

end Tied

end Projector

namespace Transaction

open TypedPages.Filter (removeColumns)

variable {pool pool' : BufferPool} {config task : Document} {input output : Schema}
variable {source : Source} {sink : Sink} {accept : Option (Schema → Bool)} {id : String}
variable {p : Projector} {report : Report} {e : Error}

section

variable (settled : ((removeColumns.propose config input).settle
  removeColumns.name accept).outcome = .ok (task, output))
include settled

end

end Transaction

end TypedPages
