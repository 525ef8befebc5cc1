import TypedPages.Proofs.Recovery
import TypedPages.Proofs.Tally

/-!
# How far a page gets

A page is sent through record by record. It stops at the first record that cannot go through, or
with the first page that the sink refuses; the record that completed the refused page is sealed by
then. So much is decided by the page and by the answer, and the counters follow from it.
-/

namespace TypedPages

namespace Projector

/-- How far a page gets from the record at a position on, by what is answered in the end: the
records that are sealed, each for one of the page. -/
inductive Sealing [Host] (input output : Schema) :
    Nat → Page → Except Error Unit → List Record → Prop
  | done {position : Nat} : Sealing input output position [] (.ok ()) []
  | faulty {position : Nat} {record : Record} {later : Page} {v : Violation}
      (fault : input.fault? output.has position record = some v) :
      Sealing input output position (record :: later) (.error v.raised) []
  | refused {position : Nat} {record : Record} {later : Page} {failure : Failure}
      (admitted : input.Admits output.has record) :
      Sealing input output position (record :: later) (.error (.failure failure))
        [input.rearrange output record]
  | more {position : Nat} {record : Record} {later : Page} {answer : Except Error Unit}
      {sealed : List Record} (admitted : input.Admits output.has record)
      (rest : Sealing input output (position + 1) later answer sealed) :
      Sealing input output position (record :: later) answer
        (input.rearrange output record :: sealed)

variable {input output : Schema} {sink : Sink} {p : Projector} {record : Record} {page : Page}
variable {position : Nat} {sealed : List Record}

/-- A page that gets to its end is sealed as a whole. -/
theorem Sealing.length_of_ok [Host] (h : Sealing input output position page (.ok ()) sealed) :
    sealed.length = page.length := by
  generalize answered : (.ok () : Except Error Unit) = answer at h
  induction h with
  | done => rfl
  | faulty => cases answered
  | refused => cases answered
  | more admitted rest ih =>
      rw [List.length_cons, List.length_cons, ih answered]

/-- What a projector has come to by sending records through, the first of which stood at the
position: the records are counted that were sealed and not refused. -/
structure Progress [Host] (input output : Schema) (p : Projector) (position : Nat) (page : Page)
    (result : Except Error Unit × Projector) (calls : List SinkCall) (sealed : List Record) :
    Prop where
  sealing : Sealing input output position page result.1 sealed
  writer : p.writer.Packs result.2.writer calls (passedOn? result.1).toList sealed
  records : result.2.records + (passedOn? result.1).toList.length = p.records + sealed.length

namespace Ready

variable (h : p.Ready input output sink) (short : p.writer.pending.length < p.writer.pageSize)
include h

/-- The current record is copied up to its fault. -/
theorem copyCells_of_fault [Host] {v : Violation} (current : p.cursor.current = some record)
    (width : record.length = input.size)
    (fault : input.fault? output.has position record = some v) :
    ∃ row, copyCells p.cursor p.routes p.writer =
      (.error v.raised, { p.writer with row }) := by
  obtain ⟨⟨cursor, lookup, sound⟩, id, found⟩ := h
  obtain ⟨b, buffer, -⟩ := Option.map_eq_some_iff.mp found
  rw [routes, cursor]
  exact Projector.copyCells_of_fault (by rwa [sound.schema_eq]) cursor current buffer width
    (by rwa [sound.schema_eq])

include short

/-- A record that cannot go through is not counted anywhere. -/
theorem transferRecord_of_fault [Host] {v : Violation} (current : p.cursor.current = some record)
    (width : record.length = input.size)
    (fault : input.fault? output.has position record = some v) :
    p.transferRecord.1 = .error v.raised ∧ p.transferRecord.2.records = p.records ∧
      p.writer.Packs p.transferRecord.2.writer [] [] [] := by
  obtain ⟨row, copied⟩ := h.copyCells_of_fault current width fault
  rw [Projector.transferRecord, copied]
  exact ⟨rfl, rfl, Writer.packs_row short row⟩

/-- A record that can go through is sealed. It is not counted if it completes a page that is
refused. -/
theorem transferRecord_of_admits [Host] (current : p.cursor.current = some record)
    (admitted : input.Admits output.has record) :
    ∃ calls, p.writer.Packs p.transferRecord.2.writer calls
        (passedOn? p.transferRecord.1).toList [input.rearrange output record] ∧
      (p.transferRecord.1 = .ok () ∧ p.transferRecord.2.records = p.records + 1 ∨
        ∃ failure, p.transferRecord.1 = .error (.failure failure) ∧
          p.transferRecord.2.records = p.records) := by
  have copied := h.copyCells_of_admits current admitted
  obtain ⟨-, id, found⟩ := h
  obtain ⟨b, buffer, -⟩ := Option.map_eq_some_iff.mp found
  have filled : { p.writer with row := input.rearrange output record }.buffer = some b := buffer
  obtain ⟨calls, packs⟩ := Writer.packs_sealRow filled short
  have answer := Writer.answer_sealRow filled
  refine ⟨calls, ?_⟩
  rw [Projector.transferRecord, copied]
  simp only
  split <;> rename_i result <;> rw [result] at packs answer
  · refine ⟨packs.of_row, .inr ?_⟩
    rcases answer with ⟨⟨⟩⟩ | ⟨failure, same⟩
    exact ⟨failure, same, rfl⟩
  · exact ⟨packs.of_row, .inl ⟨rfl, rfl⟩⟩

/-- A record that cannot go through is where the page ends. -/
theorem progress_cons_of_fault [Host] {v : Violation} (ahead : p.cursor.ahead = record :: page)
    (fault : input.fault? output.has p.cursor.advances record = some v) :
    Progress input output p p.cursor.advances (record :: page)
      (Projector.transferAll (record :: page) p) [] [] := by
  rw [Projector.transferAll]
  by_cases width : record.length = p.cursor.schema.size
  · have moving : { p with cursor := p.cursor.moved page width }.Ready input output sink :=
      h.of_cursor rfl
    have own : record.length = input.size := by rw [width, h.tied.cursor]
    obtain ⟨answer, records, packs⟩ := moving.transferRecord_of_fault short rfl own fault
    rw [Cursor.advance_of_width ahead width]
    simp only
    split <;> rename_i result <;> rw [result] at answer records packs <;> cases answer
    refine ⟨.faulty fault, ?_, ?_⟩ <;> rw [passedOn?_raised]
    · exact packs
    · exact records
  · rw [Cursor.advance_of_misfit ahead width]
    have misfit : v = .wrongWidth p.cursor.advances record.length p.cursor.schema.size := by
      rw [Schema.fault?, ← h.tied.cursor, if_neg width] at fault
      exact (Option.some.inj fault).symm
    rw [misfit] at fault
    exact ⟨.faulty fault, .refl short, rfl⟩

/-- After a record that can go through it is the rest of the page that decides. -/
theorem progress_cons_of_admits [Host] (ahead : p.cursor.ahead = record :: page)
    (admitted : input.Admits output.has record)
    (rest : ∀ q : Projector, q.Ready input output sink →
      q.writer.pending.length < q.writer.pageSize → q.cursor.ahead = page →
      ∃ calls sealed, Progress input output q q.cursor.advances page
        (Projector.transferAll page q) calls sealed) :
    ∃ calls sealed, Progress input output p p.cursor.advances (record :: page)
      (Projector.transferAll (record :: page) p) calls sealed := by
  have width : record.length = p.cursor.schema.size := by rw [h.tied.cursor, admitted.1]
  have moving : { p with cursor := p.cursor.moved page width }.Ready input output sink :=
    h.of_cursor rfl
  obtain ⟨calls, packs, answer⟩ := moving.transferRecord_of_admits short rfl admitted
  have next := moving.transferRecord
  obtain ⟨place, -⟩ := parts_transferRecord { p with cursor := p.cursor.moved page width }
  rw [Projector.transferAll, Cursor.advance_of_width ahead width]
  simp only
  split <;> rename_i q result <;> rw [result] at packs answer next place
  · rcases answer with ⟨⟨⟩, -⟩ | ⟨failure, same, records⟩
    cases same
    exact ⟨calls, _, .refused admitted, packs, congrArg (· + 1) records⟩
  · rcases answer with ⟨-, records⟩ | ⟨failure, ⟨⟩, -⟩
    obtain ⟨calls', sealed, sealing, writer, others⟩ :=
      rest q next packs.short (congrArg Cursor.ahead place)
    have counted : q.cursor.advances = p.cursor.advances + 1 := congrArg Cursor.advances place
    rw [counted] at sealing
    refine ⟨calls ++ calls', _, .more admitted sealing, packs.trans writer, ?_⟩
    have one : q.records = p.records + 1 := records
    rw [others, List.length_cons]
    omega

theorem progress_transferAll [Host] (ahead : p.cursor.ahead = page) :
    ∃ calls sealed, Progress input output p p.cursor.advances page
      (Projector.transferAll page p) calls sealed := by
  induction page generalizing p with
  | nil => exact ⟨[], [], .done, .refl short, rfl⟩
  | cons record page ih =>
      by_cases admitted : input.Admits output.has record
      · apply h.progress_cons_of_admits short ahead admitted
        intro q ready room left
        exact ih ready room left
      · obtain ⟨v, fault⟩ := Schema.exists_fault?_of_not_admits admitted p.cursor.advances
        exact ⟨[], [], h.progress_cons_of_fault short ahead fault⟩

/-- However a page fares, this is what has become of its records. -/
theorem progress_feed [Host] (page : Page) :
    ∃ calls sealed, Progress input output p 0 page (p.feed page) calls sealed := by
  have bound : { p with cursor := p.cursor.bind page }.Ready input output sink := h.of_cursor rfl
  have ahead : (p.cursor.bind page).ahead = page := rfl
  obtain ⟨calls, sealed, sealing, writer, records⟩ := bound.progress_transferAll short ahead
  refine ⟨calls, sealed, ?_⟩
  rw [Projector.feed]
  split <;> rename_i result <;> rw [result] at sealing writer records
  · exact ⟨sealing, writer, records⟩
  · exact ⟨sealing, writer, records⟩

end Ready

end Projector

end TypedPages
