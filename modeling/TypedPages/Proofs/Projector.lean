import TypedPages.Proofs.Row
import TypedPages.Proofs.Writer

/-!
# Sending pages through

A projector that has sent records through is known by the records that its writer has sealed, no
matter in which pages they came. It goes on like this until its sink refuses a page or a record
cannot go through, and then it has stopped: the sink has been told what can be told by then, and
all that is left to do is to close the projector.
-/

namespace TypedPages

namespace Projector

section

variable [Host] {keeps : Writer → Prop}
variable (copies : ∀ (w : Writer) (cursor : Cursor) (column : Column) (index : Int),
  keeps w → keeps (w.copy cursor column index).2)
include copies

/-- What the copying of a cell cannot break is still there after all cells, or after those up to
the first that was refused. -/
theorem copyCells_induction (cursor : Cursor) (routes : List (Column × Option Nat)) {w : Writer}
    (h : keeps w) : keeps (copyCells cursor routes w).2 := by
  induction routes generalizing w with
  | nil => exact h
  | cons route routes ih =>
      obtain ⟨column, target⟩ := route
      cases target with
      | none => exact ih h
      | some index =>
          have copied := copies w cursor column index h
          rw [copyCells]
          split <;> rename_i result <;> rw [result] at copied
          · exact ih copied
          · exact copied

/-- A record is transferred by copying cells and sealing the row. -/
theorem transferRecord_induction (seals : ∀ w : Writer, keeps w → keeps w.sealRow.2)
    (p : Projector) (h : keeps p.writer) : keeps p.transferRecord.2.writer := by
  have copied := copyCells_induction copies p.cursor p.routes h
  rw [transferRecord]
  split <;> rename_i result <;> rw [result] at copied
  · exact copied
  · have row := seals _ copied
    split <;> rename_i last <;> rw [last] at row <;> exact row

end

/-- Of the parts of a projector, the transfer of a record concerns the writer alone. -/
theorem parts_transferRecord [Host] (p : Projector) :
    p.transferRecord.2.cursor = p.cursor ∧ p.transferRecord.2.lookup = p.lookup := by
  rw [transferRecord]
  split
  · exact ⟨rfl, rfl⟩
  · split <;> exact ⟨rfl, rfl⟩

section

variable [Host] {keeps : Projector → Prop} {p : Projector}
variable (moves : ∀ (p : Projector) (cursor : Cursor), cursor.schema = p.cursor.schema →
  keeps p → keeps { p with cursor })
variable (transfers : ∀ p : Projector, keeps p → keeps p.transferRecord.2)
include moves transfers

/-- What neither a move of the cursor nor the transfer of a record can break is still there after
records, whether they went through or not. -/
theorem transferAll_induction (records : List Record) (h : keeps p) :
    keeps (transferAll records p).2 := by
  induction records generalizing p with
  | nil => exact moves p _ (Cursor.schema_advance _) h
  | cons record records ih =>
      have moved := moves p p.cursor.advance.2 (Cursor.schema_advance _) h
      rw [transferAll]
      split <;> rename_i result <;> rw [result] at moved
      · exact moved
      · exact moved
      · have transferred := transfers _ moved
        split <;> rename_i answer <;> rw [answer] at transferred
        · exact transferred
        · exact ih transferred

/-- If it does not count pages either, it is still there after a page. -/
theorem feed_induction
    (counts : ∀ (p : Projector) (pages : Nat), keeps p → keeps { p with pages })
    (page : Page) (h : keeps p) : keeps (p.feed page).2 := by
  have bound := moves p (p.cursor.bind page) (Cursor.schema_bind _ _) h
  have fed := transferAll_induction moves transfers page bound
  rw [feed]
  split <;> rename_i result <;> rw [result] at fed
  · exact counts _ _ fed
  · exact fed

end

variable {start : Writer} {id : BufferId} {input : Schema} {p : Projector} {page : Page}
variable {sent later more : List Record} {record : Record} {v : Violation}

/-- The projector has sealed the records and handed on all pages that they filled. -/
structure Streams (start : Writer) (id : BufferId) (input : Schema) (sent : List Record)
    (p : Projector) : Prop where
  bound : p.cursor.schema = input
  lookup : input.lookupTable start.schema = .ok p.lookup
  unclosed : p.closed = false
  handed : ∃ t, start.sink.tellAll (Writer.handovers start.pageSize sent) = (.ok (), t) ∧
    p.writer = start.holding id t sent

/-- The projector has told its sink a script, up to the first call that was refused, and is still
to be closed. -/
structure Stopped (start : Writer) (id : BufferId) (script : List SinkCall)
    (answered : Except Failure Unit) (p : Projector) : Prop where
  unclosed : p.closed = false
  told : ∃ t, start.sink.tellAll script = (answered, t) ∧ p.writer.Keeps id t

/-- A projector whose page was refused has stopped for good: records that would have followed make
no difference. -/
theorem Stopped.append {failure : Failure}
    (h : p.Stopped start id (Writer.handovers start.pageSize sent) (.error failure))
    (later : List Record) :
    p.Stopped start id (Writer.handovers start.pageSize (sent ++ later)) (.error failure) := by
  obtain ⟨unclosed, t, told, keeps⟩ := h
  obtain ⟨others, split⟩ := Writer.handovers_prefix_append start.pageSize sent later
  refine ⟨unclosed, t, ?_, keeps⟩
  rw [← split]
  exact Sink.tellAll_append_of_error told others

/-- The result of work that ended because the sink refused one of the full pages of the records. -/
def Broken (start : Writer) (id : BufferId) (sent : List Record)
    (result : Except Error Unit × Projector) : Prop :=
  ∃ failure p', result = (.error (.failure failure), p') ∧
    p'.Stopped start id (Writer.handovers start.pageSize sent) (.error failure)

theorem Broken.append {result : Except Error Unit × Projector} (h : Broken start id sent result)
    (later : List Record) : Broken start id (sent ++ later) result := by
  obtain ⟨failure, p', refused, stopped⟩ := h
  exact ⟨failure, p', refused, stopped.append later⟩

/-- Whether a projector can be opened between two schemas is up to their lookup table. -/
theorem ofParts_ofPool (pool : BufferPool) (input output : Schema) (sink : Sink) :
    ofParts (.ofSchema input) (Writer.ofPool pool output sink).1 =
      (input.lookupTable output).map fun lookup => ⟨.ofSchema input,
        (Writer.ofPool pool output sink).1, lookup, false, 0, 0⟩ :=
  rfl

/-- Between two schemas that have a lookup table a projector can be opened. -/
theorem exists_ofParts_streams {output : Schema} {table : LookupTable} (pool : BufferPool)
    (sink : Sink) (found : input.lookupTable output = .ok table) :
    ∃ p, ofParts (.ofSchema input) (Writer.ofPool pool output sink).1 = .ok p ∧
      p.Streams (Writer.ofPool pool output sink).1 (.lent pool.key pool.loans) input [] := by
  rw [ofParts_ofPool, found]
  refine ⟨_, rfl, rfl, found, rfl, sink, ?_, (Writer.holding_nil pool output sink).symm⟩
  rw [Writer.handovers, Page.full_nil]
  rfl

/-- The cursor alone makes no difference to what was sent. -/
theorem Streams.of_cursor (h : p.Streams start id input sent) (cursor : Cursor)
    (bound : cursor.schema = input) : { p with cursor }.Streams start id input sent :=
  ⟨bound, h.lookup, h.unclosed, h.handed⟩

section

variable (h : p.Streams start id input sent)
include h

/-- The current record goes through, unless its page is refused. -/
theorem transferRecord_of_admits [Host] (pos : 0 < start.pageSize)
    (current : p.cursor.current = some record) (admitted : input.Admits start.schema.has record) :
    (∃ p', p.transferRecord = (.ok (), p') ∧ p'.cursor = p.cursor ∧
      p'.Streams start id input (sent ++ [input.rearrange start.schema record])) ∨
    Broken start id (sent ++ [input.rearrange start.schema record]) p.transferRecord := by
  obtain ⟨bound, lookup, unclosed, s, told, writer⟩ := h
  have schema : p.writer.schema = start.schema := by rw [writer, Writer.holding]
  have row : p.writer.row.length = start.schema.size := by
    rw [writer, Writer.holding]
    exact List.length_replicate
  have copied : copyCells p.cursor p.routes p.writer =
      (.ok (), { p.writer with row := input.rearrange start.schema record }) := by
    rw [routes, bound, copyCells_of_admits (by rwa [schema]) bound current
      (by rw [writer, Writer.holding]) (by rwa [schema]),
      Record.fill_eq_rearrange lookup admitted.1 row]
  rw [transferRecord, copied]
  rcases Writer.sealRow_holding writer (input.rearrange start.schema record) pos told with
    ⟨t, taken, sealed⟩ | ⟨failure, t, w', refused, sealed, keeps⟩
  · simp only [sealed]
    exact .inl ⟨_, rfl, rfl, bound, lookup, unclosed, t, taken, rfl⟩
  · simp only [sealed]
    exact .inr ⟨failure, _, rfl, unclosed, t, refused, keeps⟩

/-- A record of the right width that cannot go through changes nothing but the row. -/
theorem transferRecord_of_fault [Host] (current : p.cursor.current = some record)
    (width : record.length = input.size) {position : Nat}
    (fault : input.fault? start.schema.has position record = some v) :
    ∃ p', p.transferRecord = (.error v.raised, p') ∧
      p'.Stopped start id (Writer.handovers start.pageSize sent) (.ok ()) := by
  obtain ⟨bound, lookup, unclosed, s, told, writer⟩ := h
  have schema : p.writer.schema = start.schema := by rw [writer, Writer.holding]
  have keeps : p.writer.Keeps id s := writer ▸ Writer.keeps_holding start id s sent
  obtain ⟨row, copied⟩ := copyCells_of_fault (w := p.writer) (by rwa [schema]) bound current
    (by rw [writer, Writer.holding]) width (by rwa [schema])
  rw [transferRecord, routes, bound, copied]
  exact ⟨_, rfl, unclosed, s, told, keeps.of_row⟩

variable (ahead : p.cursor.ahead = record :: later)
include ahead

theorem transferAll_cons_of_admits [Host] (pos : 0 < start.pageSize)
    (admitted : input.Admits start.schema.has record) :
    (∃ p', transferAll (record :: later) p = transferAll later p' ∧
      p'.cursor.ahead = later ∧ p'.cursor.advances = p.cursor.advances + 1 ∧
      p'.Streams start id input (sent ++ [input.rearrange start.schema record])) ∨
    Broken start id (sent ++ [input.rearrange start.schema record])
      (transferAll (record :: later) p) := by
  have width : record.length = p.cursor.schema.size := by rw [h.bound, admitted.1]
  rw [transferAll, Cursor.advance_of_width ahead width]
  have moving := h.of_cursor (p.cursor.moved later width) h.bound
  rcases transferRecord_of_admits moving pos rfl admitted with
    ⟨p', sealed, cursor, streams⟩ | ⟨failure, p', refused, stopped⟩
  · simp only [sealed]
    exact .inl ⟨p', rfl, congrArg Cursor.ahead cursor, congrArg Cursor.advances cursor, streams⟩
  · simp only [refused]
    exact .inr ⟨failure, p', rfl, stopped⟩

theorem transferAll_cons_of_fault [Host]
    (fault : input.fault? start.schema.has p.cursor.advances record = some v) :
    ∃ p', transferAll (record :: later) p = (.error v.raised, p') ∧
      p'.Stopped start id (Writer.handovers start.pageSize sent) (.ok ()) := by
  by_cases width : record.length = p.cursor.schema.size
  · rw [transferAll, Cursor.advance_of_width ahead width]
    have moving := h.of_cursor (p.cursor.moved later width) h.bound
    obtain ⟨p', failed, stopped⟩ := transferRecord_of_fault moving rfl (h.bound ▸ width) fault
    simp only [failed]
    exact ⟨p', rfl, stopped⟩
  · have passed : p.cursor.advance = (.error v.raised, { p.cursor with
        ahead := later, advances := p.cursor.advances + 1 }) := by
      rw [Schema.fault?, ← h.bound, if_neg width] at fault
      cases fault
      rw [Cursor.advance]
      simp [ahead, width]
    rw [transferAll, passed]
    obtain ⟨-, -, unclosed, s, told, writer⟩ := h
    exact ⟨_, rfl, unclosed, s, told, writer ▸ Writer.keeps_holding start id s sent⟩

end

section

variable (pos : 0 < start.pageSize) (h : p.Streams start id input sent)
include pos h

/-- Records that can go through do so one after the other, up to a page that is refused. -/
theorem transferAll_append [Host] (ahead : p.cursor.ahead = more ++ later)
    (clean : ∀ record ∈ more, input.Admits start.schema.has record) :
    (∃ p', transferAll (more ++ later) p = transferAll later p' ∧
      p'.cursor.ahead = later ∧ p'.cursor.advances = p.cursor.advances + more.length ∧
      p'.Streams start id input (sent ++ more.map (input.rearrange start.schema))) ∨
    Broken start id (sent ++ more.map (input.rearrange start.schema))
      (transferAll (more ++ later) p) := by
  induction more generalizing p sent with
  | nil => exact .inl ⟨p, rfl, ahead, rfl, by simpa using h⟩
  | cons record more ih =>
      obtain ⟨admitted, others⟩ := List.forall_mem_cons.mp clean
      rw [List.cons_append] at ahead ⊢
      have split : sent ++ (record :: more).map (input.rearrange start.schema) =
          sent ++ [input.rearrange start.schema record] ++
            more.map (input.rearrange start.schema) := by simp
      rw [split]
      rcases transferAll_cons_of_admits h ahead pos admitted with
        ⟨p', step, ahead', advances, streams⟩ | broken
      · rw [step, List.length_cons]
        rw [show p.cursor.advances + (more.length + 1) = p'.cursor.advances + more.length by omega]
        exact ih streams ahead' others
      · exact .inr (broken.append _)

/-- A page of records that can go through is sent, unless a page that it fills is refused. -/
theorem feed_of_admits [Host] (clean : ∀ record ∈ page, input.Admits start.schema.has record) :
    (∃ p', p.feed page = (.ok (), p') ∧
      p'.Streams start id input (sent ++ page.map (input.rearrange start.schema))) ∨
    Broken start id (sent ++ page.map (input.rearrange start.schema)) (p.feed page) := by
  have bound := h.of_cursor (p.cursor.bind page) h.bound
  have ahead : (p.cursor.bind page).ahead = page ++ [] := (List.append_nil page).symm
  have sending := transferAll_append pos bound ahead clean
  rw [List.append_nil] at sending
  rw [feed]
  rcases sending with ⟨p', passed, -, -, streams⟩ | ⟨failure, p', refused, stopped⟩
  · rw [passed, transferAll]
    exact .inl ⟨_, rfl, (Cursor.schema_advance _).trans streams.bound, streams.lookup,
      streams.unclosed, streams.handed⟩
  · rw [refused]
    exact .inr ⟨failure, p', rfl, stopped⟩

/-- A page is sent up to its first record that cannot go through, unless a page that is filled
before is refused. -/
theorem feed_of_fault [Host] {good : List Record} (rest : List Record)
    (clean : ∀ record ∈ good, input.Admits start.schema.has record)
    (fault : input.fault? start.schema.has good.length record = some v) :
    (∃ p', p.feed (good ++ record :: rest) = (.error v.raised, p') ∧
      p'.Stopped start id (Writer.handovers start.pageSize
        (sent ++ good.map (input.rearrange start.schema))) (.ok ())) ∨
    Broken start id (sent ++ good.map (input.rearrange start.schema))
      (p.feed (good ++ record :: rest)) := by
  have bound := h.of_cursor (p.cursor.bind (good ++ record :: rest)) h.bound
  rw [feed]
  rcases transferAll_append pos bound rfl clean with
    ⟨p', passed, ahead, advances, streams⟩ | ⟨failure, p', refused, stopped⟩
  · have position : p'.cursor.advances = good.length := by
      rw [advances]
      exact Nat.zero_add _
    obtain ⟨p'', failed, stopped⟩ :=
      transferAll_cons_of_fault streams ahead (position.symm ▸ fault)
    rw [passed, failed]
    exact .inl ⟨p'', rfl, stopped⟩
  · rw [refused]
    exact .inr ⟨failure, p', rfl, stopped⟩

end

theorem finish_of_streams (h : p.Streams start id input sent) :
    ∃ p', p.finish =
        ((start.sink.tellAll (Writer.farewell start.pageSize sent)).1.mapError .failure, p') ∧
      p'.Stopped start id (Writer.farewell start.pageSize sent)
        (start.sink.tellAll (Writer.farewell start.pageSize sent)).1 := by
  obtain ⟨-, -, unclosed, s, told, writer⟩ := h
  obtain ⟨w', finished, keeps⟩ := Writer.finish_holding writer told
  rw [finish, finished]
  exact ⟨_, rfl, unclosed, _, rfl, keeps⟩

/-- Closing gives the buffer back and closes the sink, whatever has happened before. -/
theorem close_of_stopped {script : List SinkCall} {answered : Except Failure Unit}
    {pool : BufferPool} {loan : Nat} (h : p.Stopped start id script answered)
    (out : pool.loan? id = some loan) :
    ∃ p', p.close pool =
        (((start.sink.tellAll script).2.tell .close).1.mapError .failure, p', pool.settle loan) ∧
      p'.writer.sink = ((start.sink.tellAll script).2.tell .close).2 := by
  obtain ⟨unclosed, t, told, keeps⟩ := h
  obtain ⟨w', closed, sink⟩ := Writer.close_of_keeps keeps out
  rw [close, unclosed, told, closed]
  exact ⟨_, rfl, sink⟩

end Projector

end TypedPages
