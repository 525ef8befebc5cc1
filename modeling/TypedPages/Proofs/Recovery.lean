import TypedPages.Proofs.Leases
import TypedPages.Proofs.Origin

/-!
# After a failed page

A page that did not go through leaves things behind: cells in the row, a record under the cursor.
None of them gets into later records. Binding a page sets the cursor back, and every place of the
row is the target of a retained cell, so the next record overwrites all that is left.
-/

namespace TypedPages

/-- The record has under each column the cell of another record under the column of the same
name. -/
structure Record.Carries (input output : Schema) (whole record : Record) : Prop where
  width : record.length = output.size
  cells : ∀ (i j : Nat) (f g : Field), input.fields[i]? = some f → output.fields[j]? = some g →
    f.name = g.name → record[j]? = whole[i]?

/-- A record that is rearranged carries its cells along. -/
theorem Schema.carries_rearrange {input output : Schema} {table : LookupTable} {record : Record}
    (lookup : input.lookupTable output = .ok table) (width : record.length = input.size) :
    Record.Carries input output record (input.rearrange output record) := by
  refine ⟨List.length_map _, ?_⟩
  intro i j f g hf hg same
  obtain ⟨k, origin, target⟩ := exists_target lookup hg
  obtain rfl := position_unique hf origin same
  exact getElem?_rearrange lookup width target

/-- A sink takes calls if it takes the earlier ones and then the later ones. -/
theorem Sink.takes_append {s : Sink} {calls later : List SinkCall} :
    s.Takes (calls ++ later) ↔ s.Takes calls ∧ (s.hearing calls).Takes later := by
  induction calls generalizing s with
  | nil =>
      have nothing : s.Takes [] := fun front _ _ split => by simp at split
      rw [List.nil_append, hearing_nil]
      exact (and_iff_right nothing).symm
  | cons call calls ih =>
      have split : s.hearing (call :: calls) = (s.hearing [call]).hearing calls :=
        (hearing_hearing s [call] calls).symm
      rw [List.cons_append, takes_cons, takes_cons, ih, and_assoc, split]
      rfl

namespace Writer

variable {w w' w'' : Writer} {calls calls' : List SinkCall} {records records' : List Record}
variable {b : Buffer}

/-- One writer has become the other by sealing the records, while its sink received the calls: what
was offered and what now waits is what waited before, and then the records. -/
structure Seals (w w' : Writer) (calls : List SinkCall) (records : List Record) : Prop where
  sink : w'.sink = w.sink.hearing calls
  split : (SinkCall.pages calls).flatten ++ w'.pending = w.pending ++ records
  count : w'.sealedRecords = w.sealedRecords + records.length

theorem Seals.refl (w : Writer) : w.Seals w [] [] :=
  ⟨(Sink.hearing_nil w.sink).symm, (List.append_nil _).symm, rfl⟩

theorem Seals.trans (h : w.Seals w' calls records) (h' : w'.Seals w'' calls' records') :
    w.Seals w'' (calls ++ calls') (records ++ records') := by
  refine ⟨?_, ?_, ?_⟩
  · rw [h'.sink, h.sink, Sink.hearing_hearing]
  · rw [SinkCall.pages_append, List.flatten_append, List.append_assoc, h'.split,
      ← List.append_assoc, h.split, List.append_assoc]
  · rw [h'.count, h.count, List.length_append, Nat.add_assoc]

/-- Work of a writer, which has become the other one and answers, has sealed the records, unless
its sink has refused a call. -/
def Sends (w w' : Writer) (answer : Except Error Unit) (records : List Record) : Prop :=
  ∃ calls, w'.sink = w.sink.hearing calls ∧
    (w.sink.Takes calls → answer = .ok () ∧ w.Seals w' calls records)

theorem Sends.refl (w : Writer) : w.Sends w (.ok ()) [] :=
  ⟨[], (Sink.hearing_nil w.sink).symm, fun _ => ⟨rfl, .refl w⟩⟩

/-- After a refusal nothing is promised any more. -/
theorem Sends.of_error {e : Error} (h : w.Sends w' (.error e) records) (more : List Record) :
    w.Sends w' (.error e) more := by
  obtain ⟨calls, sink, sealed⟩ := h
  exact ⟨calls, sink, fun takes => nomatch (sealed takes).1⟩

theorem Sends.trans {answer answer' : Except Error Unit} (h : w.Sends w' answer records)
    (h' : w'.Sends w'' answer' records') : w.Sends w'' answer' (records ++ records') := by
  obtain ⟨calls, sink, sealed⟩ := h
  obtain ⟨calls', sink', sealed'⟩ := h'
  refine ⟨calls ++ calls', ?_, fun takes => ?_⟩
  · rw [sink', sink, Sink.hearing_hearing]
  · obtain ⟨early, late⟩ := Sink.takes_append.mp takes
    rw [← sink] at late
    exact ⟨(sealed' late).1, (sealed early).2.trans (sealed' late).2⟩

/-- An open writer seals whatever record its row has become. Only the page that may be full then
can be refused. -/
theorem sends_sealRow (buffer : w.buffer = some b) (record : Record) :
    w.Sends { w with row := record }.sealRow.2 { w with row := record }.sealRow.1 [record] := by
  have waits : w.pending = b.records := pending_of_buffer buffer
  have still : { w with row := record }.buffer = some b := buffer
  rw [sealRow_of_open still]
  split
  · have full : ({ w with row := record }.pushed b).buffer = some ⟨b.id, b.records ++ [record]⟩ :=
      rfl
    obtain ⟨⟨n, after⟩, -⟩ := flush_of_waiting full (by simp)
    refine ⟨[.add (b.records ++ [record])], by rw [after]; rfl, fun takes => ⟨?_, ?_⟩⟩
    · have taken := (Sink.takes_cons.mp takes).1
      rw [flush_of_taken full (by simp) (Sink.tell_of_taken taken)]
    · rw [after]
      refine ⟨rfl, ?_, rfl⟩
      rw [waits]
      simp [SinkCall.pages, SinkCall.page?, pending]
  · refine ⟨[], (Sink.hearing_nil _).symm, fun _ => ⟨rfl, (Sink.hearing_nil _).symm, ?_, rfl⟩⟩
    rw [waits]
    rfl

end Writer

namespace Projector

section

variable {input output : Schema} {sink : Sink} {p : Projector} {record : Record} {page : Page}

/-- The projector is tied to two schemas, and its writer is open. -/
structure Ready (input output : Schema) (sink : Sink) (p : Projector) : Prop where
  tied : p.Tied input output sink
  isOpen : ∃ id, p.writer.bufferId? = some id

/-- Feeds pages one after the other, whatever comes of each. -/
def feedEach [Host] : Projector → List Page → Projector
  | p, [] => p
  | p, page :: pages => (p.feed page).2.feedEach pages

theorem bufferId?_transferRecord [Host] (p : Projector) :
    p.transferRecord.2.writer.bufferId? = p.writer.bufferId? := by
  refine @transferRecord_induction _ (fun w => w.bufferId? = p.writer.bufferId?) ?_ ?_ p rfl
  · intro w cursor column index same
    exact (Writer.bufferId?_of_touchesRow (w.touchesRow_copy cursor column index)).trans same
  · intro w same
    exact w.bufferId?_sealRow.trans same

namespace Ready

variable (h : p.Ready input output sink)
include h

theorem of_cursor {cursor : Cursor} (same : cursor.schema = p.cursor.schema) :
    { p with cursor }.Ready input output sink :=
  ⟨h.tied.of_cursor same, h.isOpen⟩

theorem transferRecord [Host] : p.transferRecord.2.Ready input output sink := by
  refine ⟨h.tied.transferRecord, ?_⟩
  rw [bufferId?_transferRecord]
  exact h.isOpen

theorem feed [Host] (page : Page) : (p.feed page).2.Ready input output sink :=
  feed_induction (fun _ _ same ready => ready.of_cursor same) (fun _ ready => ready.transferRecord)
    (fun _ _ ready => ⟨⟨ready.tied.cursor, ready.tied.lookup, ready.tied.writer⟩, ready.isOpen⟩)
    page h

/-- A projector that is not closed stays ready, whatever pages it is fed. -/
theorem feedEach [Host] (pages : List Page) : (p.feedEach pages).Ready input output sink := by
  induction pages generalizing p with
  | nil => exact h
  | cons page pages ih => exact ih (h.feed page)

/-- The current record is copied over whatever the row holds. -/
theorem copyCells_of_admits [Host] (current : p.cursor.current = some record)
    (admitted : input.Admits output.has record) :
    copyCells p.cursor p.routes p.writer =
      (.ok (), { p.writer with row := input.rearrange output record }) := by
  obtain ⟨⟨cursor, lookup, sound⟩, id, found⟩ := h
  obtain ⟨b, buffer, -⟩ := Option.map_eq_some_iff.mp found
  have width : p.writer.row.length = output.size := sound.row.width
  rw [routes, cursor, Projector.copyCells_of_admits (by rwa [sound.schema_eq]) cursor current
    buffer (by rwa [sound.schema_eq]), Record.fill_eq_rearrange lookup admitted.1 width]

theorem sends_transferRecord [Host] (current : p.cursor.current = some record)
    (admitted : input.Admits output.has record) :
    p.writer.Sends p.transferRecord.2.writer p.transferRecord.1
      [input.rearrange output record] := by
  have copied := h.copyCells_of_admits current admitted
  obtain ⟨-, id, found⟩ := h
  obtain ⟨b, buffer, -⟩ := Option.map_eq_some_iff.mp found
  have sent := Writer.sends_sealRow buffer (input.rearrange output record)
  rw [Projector.transferRecord, copied]
  simp only
  split <;> rename_i answer <;> rw [answer] at sent <;> exact sent

/-- Records that can go through are sent, whatever row, cursor and buffer they meet with. -/
theorem sends_transferAll [Host] (ahead : p.cursor.ahead = page)
    (clean : ∀ record ∈ page, input.Admits output.has record) :
    p.writer.Sends (Projector.transferAll page p).2.writer (Projector.transferAll page p).1
      (page.map (input.rearrange output)) := by
  induction page generalizing p with
  | nil => exact .refl p.writer
  | cons record page ih =>
      obtain ⟨admitted, others⟩ := List.forall_mem_cons.mp clean
      have width : record.length = p.cursor.schema.size := by rw [h.tied.cursor, admitted.1]
      have moving : { p with cursor := p.cursor.moved page width }.Ready input output sink :=
        h.of_cursor rfl
      have sent := moving.sends_transferRecord rfl admitted
      have next := moving.transferRecord
      obtain ⟨place, -⟩ := parts_transferRecord { p with cursor := p.cursor.moved page width }
      rw [Projector.transferAll, Cursor.advance_of_width ahead width]
      simp only
      split <;> rename_i answer <;> rw [answer] at sent next place
      · exact sent.of_error _
      · exact sent.trans (ih next (congrArg Cursor.ahead place) others)

theorem sends_feed [Host] (clean : ∀ record ∈ page, input.Admits output.has record) :
    p.writer.Sends (p.feed page).2.writer (p.feed page).1 (page.map (input.rearrange output)) := by
  have bound : { p with cursor := p.cursor.bind page }.Ready input output sink := h.of_cursor rfl
  have ahead : (p.cursor.bind page).ahead = page := rfl
  have sent := bound.sends_transferAll ahead clean
  rw [Projector.feed]
  split <;> rename_i result <;> rw [result] at sent <;> exact sent

end Ready

/-- The sink refuses none of the calls that it receives while the page is fed. -/
def Unrefused [Host] (p : Projector) (page : Page) : Prop :=
  ∀ received, (p.feed page).2.writer.sink.calls = p.writer.sink.calls ++ received →
    p.writer.sink.Takes received

/-- A page of records that can go through is fed without an error if the sink refuses nothing, and
exactly its records are sealed. -/
theorem Ready.feed_of_clean [Host] (h : p.Ready input output sink)
    (clean : ∀ record ∈ page, input.Admits output.has record) (taken : p.Unrefused page) :
    ∃ q calls, p.feed page = (.ok (), q) ∧
      p.writer.Seals q.writer calls (page.map (input.rearrange output)) := by
  obtain ⟨calls, sink, sealed⟩ := h.sends_feed clean
  obtain ⟨answer, seals⟩ := sealed (taken calls (congrArg Sink.calls sink))
  exact ⟨_, calls, Prod.ext answer rfl, seals⟩

/-- Whatever cursor and open writer a projector is made of, it is ready. -/
theorem ready_of_parts {cursor : Cursor} {writer : Writer} (sound : writer.Sound output sink)
    (unclosed : writer.isClosed = false) (opened : ofParts cursor writer = .ok p) :
    p.Ready cursor.schema output sink := by
  rw [ofParts, sound.schema_eq] at opened
  cases lookup : cursor.schema.lookupTable output with
  | error e =>
      rw [lookup] at opened
      cases opened
  | ok table =>
      rw [lookup] at opened
      cases opened
      refine ⟨⟨rfl, lookup, sound⟩, ?_⟩
      cases buffer : writer.buffer with
      | none => simp [Writer.isClosed, buffer] at unclosed
      | some b => exact ⟨b.id, congrArg (Option.map Buffer.id) buffer⟩

/-- What comes of a page depends on the page alone. Take any projector, made of a cursor of the
input and of a writer that may have been used before but is open, and feed it any pages, whatever
comes of each. A page whose records can go through is then fed without an error if the sink refuses
no call meanwhile. It seals one record for each of its own, with the cells of that record under
their columns, just as a new projector does. -/
theorem feed_seals_page_alone [Host] {pool : BufferPool} {uses : List Writer.Use} {cursor : Cursor}
    {start : Projector} {page : Page}
    (unclosed : ((Writer.ofPool pool output sink).1.used uses).isClosed = false)
    (opened : ofParts cursor ((Writer.ofPool pool output sink).1.used uses) = .ok start)
    (history : List Page) (clean : ∀ record ∈ page, cursor.schema.Admits output.has record)
    (taken : (start.feedEach history).Unrefused page) :
    ∃ done calls sealed, (start.feedEach history).feed page = (.ok (), done) ∧
      (start.feedEach history).writer.Seals done.writer calls sealed ∧
      List.Forall₂ (Record.Carries cursor.schema output) page sealed ∧
      ∀ pool' sink' fresh,
        ofParts (.ofSchema cursor.schema) (Writer.ofPool pool' output sink').1 = .ok fresh →
        fresh.Unrefused page →
        ∃ done' calls', fresh.feed page = (.ok (), done') ∧
          fresh.writer.Seals done'.writer calls' sealed := by
  have sound := (Writer.sound_ofPool pool output sink).used uses
  have ready := (ready_of_parts sound unclosed opened).feedEach history
  obtain ⟨done, calls, answer, seals⟩ := ready.feed_of_clean clean taken
  refine ⟨done, calls, _, answer, seals, ?_, ?_⟩
  · rw [List.forall₂_map_right_iff, List.forall₂_same]
    intro record member
    exact Schema.carries_rearrange ready.tied.lookup (clean record member).1
  · intro pool' sink' fresh opened' taken'
    have new := ready_of_parts (Writer.sound_ofPool pool' output sink') rfl opened'
    exact new.feed_of_clean clean taken'

end

namespace Sample

def input : Schema := ⟨[⟨"id", .long⟩, ⟨"name", .string⟩, ⟨"score", .long⟩], by decide⟩

/-- Two of the columns, in the other order. -/
def output : Schema := ⟨[⟨"score", .long⟩, ⟨"id", .long⟩], by decide⟩

/-- A pool of pages of two records. -/
def pool : BufferPool := .fresh 0 2 Nat.two_pos

/-- A sink that refuses its first page. -/
def unwilling : Sink := .fresh (SinkScript.refuses ⟨[0], false, false⟩)

/-- A value is put into the row before the projector is made. -/
def uses : List Writer.Use := [⟨.ofSchema input, pool, .write .long 0 (.long 9)⟩]

def start : Projector :=
  ⟨.ofSchema input, (Writer.ofPool pool output unwilling).1.used uses, [some 1, none, some 0],
    false, 0, 0⟩

/-- A record that fails at its last cell, one that completes a page, which is refused, one that is
too short, and again one that fails at its last cell. -/
def history : List Page :=
  [[[.long 1, .null, .long 2], [.long 3, .null, .string "4"]], [[.long 5, .null, .long 6]],
    [[.null]], [[.long 7, .null, .boolean true]]]

/-- Where the last record of the history has left a value, the first one has none. -/
def page : Page := [[.null, .string "b", .null], [.long 10, .null, .long 11]]

def sealed : List Record := [[.null, .null], [.long 11, .long 10]]

theorem unrefused : (start.feedEach history).Unrefused page := by
  intro received same
  obtain rfl : [.add sealed] = received := List.append_cancel_left same
  exact (Sink.tellAll_eq_ok_iff.mp rfl).1

end Sample

/-- Nothing of the four failures is found in the two records. -/
theorem sample_feed_seals : ∃ done calls,
    (Sample.start.feedEach Sample.history).feed Sample.page = (.ok (), done) ∧
    (Sample.start.feedEach Sample.history).writer.Seals done.writer calls Sample.sealed := by
  have opened : ofParts (.ofSchema Sample.input)
      ((Writer.ofPool Sample.pool Sample.output Sample.unwilling).1.used Sample.uses) =
        .ok Sample.start := rfl
  obtain ⟨done, calls, sealed, answer, seals, -, -⟩ :=
    feed_seals_page_alone rfl opened Sample.history (by decide) Sample.unrefused
  have told : [.add Sample.sealed] = calls := by
    cases answer
    exact List.append_cancel_left (congrArg Sink.calls seals.sink)
  have own : Sample.sealed = sealed := by
    cases answer
    subst told
    exact seals.split
  rw [own]
  exact ⟨done, calls, answer, seals⟩

end Projector

end TypedPages
