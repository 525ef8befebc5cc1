import TypedPages.Filter
import TypedPages.Proofs.Projector
import TypedPages.Proofs.Resolution

/-!
# From a proposal to an open stream

The built-in filter settles on exactly what its selection comes to, and a task that it has handed
out opens a stream between the two schemas whenever it is given back. The buffer of the stream is
the only one that is then out in addition, and closing the stream ends its loan.
-/

namespace TypedPages

variable {input output : Schema} {config task : Document} {s : Selection} {p : Projection}
variable {name : String} {accept : Option (Schema → Bool)} {pool : BufferPool} {sink : Sink}

namespace Document

theorem readTextItems_map_text (index : Nat) (texts : List String) :
    readTextItems index (texts.map .text) = .ok texts := by
  induction texts generalizing index with
  | nil => rfl
  | cons text texts ih =>
      rw [List.map_cons, readTextItems, ih]
      rfl

end Document

namespace Selection

theorem readOptionalTexts_listDocument (names : Option (List String)) :
    Document.readOptionalTexts (listDocument names) = .ok names := by
  cases names with
  | none => rfl
  | some names =>
      change (Document.readTextItems 0 (names.map .text)).map some = .ok (some names)
      rw [Document.readTextItems_map_text]
      rfl

/-- The document that a selection is handed on as reads as the selection. -/
theorem ofDocument_toDocument (s : Selection) : ofDocument s.toDocument = .ok s := by
  obtain ⟨remove, keep, acceptUnmatched⟩ := s
  have field (key : String) (names : Option (List String)) :
      (Document.readOptionalTexts (listDocument names)).under (.field key) = .ok names := by
    rw [readOptionalTexts_listDocument]
    rfl
  rw [toDocument, ofDocument, ofEntries]
  have hremove : Checked.optional "remove" none Document.readOptionalTexts
      [("remove", listDocument remove), ("keep", listDocument keep),
        ("accept_unmatched_columns", .flag acceptUnmatched)] = .ok remove := field "remove" remove
  have hkeep : Checked.optional "keep" none Document.readOptionalTexts
      [("remove", listDocument remove), ("keep", listDocument keep),
        ("accept_unmatched_columns", .flag acceptUnmatched)] = .ok keep := field "keep" keep
  rw [hremove, hkeep]
  rfl

end Selection

namespace BufferPool

theorem loan?_allocate (pool : BufferPool) :
    pool.allocate.2.loan? (.lent pool.key pool.loans) = some pool.loans :=
  loan?_eq_some_iff.mpr ⟨rfl, by simp⟩

/-- Once a new loan is ended, the same buffers are out as before it. -/
theorem live_settle_allocate (pool : BufferPool) :
    (pool.allocate.2.settle pool.loans).live = pool.live := by
  have fresh : pool.loans ∉ pool.live := fun h => Nat.lt_irrefl _ (pool.live_lt _ h)
  change (pool.live ++ [pool.loans]).erase pool.loans = pool.live
  rw [List.erase_append_right _ fresh, List.erase_cons_head, List.append_nil]

end BufferPool

/-- One complete proposal is settled on unless its schema is not accepted. -/
theorem Negotiation.settle_single (log : List LogEvent) (d : Document) (offer : Schema) :
    (settle ⟨log, [⟨some d, some offer⟩], none⟩ name accept).outcome = .ok (task, output) ↔
      d = task ∧ offer = output ∧ ∀ accepts ∈ accept, accepts offer = true := by
  cases accept with
  | none => simp [settle]
  | some accepts => by_cases accepted : accepts offer = true <;> simp [settle, accepted]

namespace Filter

/-- What the built-in filter settles on. -/
theorem settle_proposeSelection_eq_ok_iff :
    ((proposeSelection config input).settle name accept).outcome = .ok (task, output) ↔
      ∃ s p, Selection.ofDocument config = .ok s ∧ Projection.resolve input s = .ok p ∧
        s.toDocument = task ∧ p.output = output ∧ ∀ accepts ∈ accept, accepts p.output = true := by
  rw [proposeSelection]
  cases Selection.ofDocument config with
  | error e => simp [Negotiation.settle]
  | ok s =>
      cases resolved : Projection.resolve input s with
      | error e => simp [Negotiation.settle, resolved]
      | ok p => simp [Negotiation.settle_single, resolved]

/-- A task that was settled on opens its stream, which has sent nothing yet. -/
theorem openSelection_of_resolve (resolved : Projection.resolve input s = .ok p) :
    ∃ q, openSelection pool s.toDocument input p.output sink = .opened q pool.allocate.2 ∧
      q.Streams (Writer.ofPool pool p.output sink).1 (.lent pool.key pool.loans) input [] := by
  obtain ⟨-, table⟩ := Projection.of_resolve resolved
  obtain ⟨q, opened, streams⟩ := Projector.exists_ofParts_streams pool sink table
  refine ⟨q, ?_, streams⟩
  rw [openSelection, Selection.ofDocument_toDocument]
  simp only [Opening.careful, opened]
  rfl

end Filter

end TypedPages
