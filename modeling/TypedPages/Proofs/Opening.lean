import TypedPages.Proofs.Transaction

/-!
# Which tasks open a stream

The opening reads its task, but what it has read it does not use: a task that is the document of a
selection opens a stream between any two schemas that match. What a transaction settles on is among
these, but so is much that no transaction would settle on: selections that cannot be resolved, and
output schemas that are not what the selection leaves.
-/

namespace TypedPages

namespace Filter

variable {task : Document} {input output : Schema} {pool : BufferPool} {sink : Sink}
variable {s : Selection} {name : String} {table : LookupTable}

/-- The task is the document of a selection that comes to the output when it is resolved against
the input. -/
def Settles (task : Document) (input output : Schema) : Prop :=
  ∃ s p, Selection.ofDocument task = .ok s ∧ Projection.resolve input s = .ok p ∧ p.output = output

/-- These are the schemas that a transaction settles on when the task is its configuration. -/
theorem settles_iff_settle : Settles task input output ↔
    ∃ task', ((proposeSelection task input).settle name none).outcome = .ok (task', output) := by
  simp only [settle_proposeSelection_eq_ok_iff]
  constructor
  · rintro ⟨s, p, parsed, resolved, comes⟩
    exact ⟨s.toDocument, s, p, parsed, resolved, rfl, comes, fun _ absent => nomatch absent⟩
  · rintro ⟨_, s, p, parsed, resolved, -, comes, -⟩
    exact ⟨s, p, parsed, resolved, comes⟩

/-- Settling asks for three things: a selection, which applies, and whose fields are the output. -/
theorem settles_iff : Settles task input output ↔
    ∃ s, Selection.ofDocument task = .ok s ∧ s.Applies input ∧
      output.fields = input.fields.filter (s.retains ·.name) := by
  constructor
  · rintro ⟨s, p, parsed, resolved, rfl⟩
    exact ⟨s, parsed, Projection.exists_resolve_iff.mp ⟨p, resolved⟩,
      (Projection.of_resolve resolved).1⟩
  · rintro ⟨s, parsed, applies, fields⟩
    obtain ⟨p, resolved⟩ := Projection.exists_resolve_iff.mpr applies
    refine ⟨s, p, parsed, resolved, Schema.eq_of_fields ?_⟩
    rw [fields, (Projection.of_resolve resolved).1]

/-- Between schemas that have a lookup table, a stream opens with one new buffer and with a sink
that has not been called. -/
theorem careful_of_lookupTable (found : input.lookupTable output = .ok table) (pool : BufferPool)
    (sink : Sink) : Opening.careful pool input output sink =
      .opened ⟨.ofSchema input, (Writer.ofPool pool output sink).1, table, false, 0, 0⟩
        pool.allocate.2 := by
  have parts := Projector.ofParts_ofPool pool input output sink
  rw [found] at parts
  simp only [Opening.careful, parts, Except.map]
  rfl

/-- Between other schemas nothing opens. The sink is told that it is closed, and the new buffer is
given back; if the sink fails at this, its failure is reported and not the mismatch. -/
theorem careful_of_mismatch {e : Error} (mismatch : input.lookupTable output = .error e)
    (pool : BufferPool) (sink : Sink) : Opening.careful pool input output sink =
      .refused (match (sink.tell .close).1 with | .ok () => e | .error failure => .failure failure)
        (sink.tell .close).2 (pool.allocate.2.settle pool.loans) := by
  have parts := Projector.ofParts_ofPool pool input output sink
  rw [mismatch] at parts
  have lender : (Writer.ofPool pool output sink).2 = pool.allocate.2 := rfl
  have closed := Writer.close_of_lent (w := (Writer.ofPool pool output sink).1) rfl
    pool.loan?_allocate
  have silent : (Writer.ofPool pool output sink).1.sink = sink := rfl
  simp only [Opening.careful, parts, Except.map, lender, closed, silent]
  cases (sink.tell .close).1 <;> rfl

/-- A stream is opened between two schemas exactly if the output has only fields of the input. -/
theorem opens_careful_iff :
    (∃ p pool', Opening.careful pool input output sink = .opened p pool') ↔
      output.fields ⊆ input.fields := by
  constructor
  · rintro ⟨p, pool', opened⟩
    cases found : input.lookupTable output with
    | ok table => exact (Schema.lookupTable_eq_ok_iff.mp found).1
    | error e =>
        rw [careful_of_mismatch found] at opened
        cases opened
  · intro projects
    have table := Schema.lookupTable_eq_ok_iff.mpr ⟨projects, rfl⟩
    exact ⟨_, _, careful_of_lookupTable table pool sink⟩

/-- All tasks that read as selections open the same. -/
theorem openSelection_of_parsed (parsed : Selection.ofDocument task = .ok s) :
    openSelection pool task input output sink = .careful pool input output sink := by
  rw [openSelection, parsed]

/-- An opening is refused for its task, before anything is touched, or for its schemas, and then it
has closed the writer; or it is done. -/
theorem openSelection_cases (pool : BufferPool) (task : Document) (input output : Schema)
    (sink : Sink) :
    (∃ cause, openSelection pool task input output sink = .refused cause sink pool) ∨
    (∃ cause, openSelection pool task input output sink =
      .refused cause (sink.tell .close).2 (pool.allocate.2.settle pool.loans)) ∨
    ∃ table, input.lookupTable output = .ok table ∧ openSelection pool task input output sink =
      .opened ⟨.ofSchema input, (Writer.ofPool pool output sink).1, table, false, 0, 0⟩
        pool.allocate.2 := by
  cases parsed : Selection.ofDocument task with
  | error invalid =>
      refine .inl ⟨.options invalid, ?_⟩
      rw [openSelection, parsed]
  | ok s =>
      rw [openSelection_of_parsed parsed]
      cases found : input.lookupTable output with
      | error mismatch => exact .inr (.inl ⟨_, careful_of_mismatch found pool sink⟩)
      | ok table => exact .inr (.inr ⟨table, rfl, careful_of_lookupTable found pool sink⟩)

/-- What the opening asks for, against what settling asks for: that the selection applies, and that
the output is what it leaves, is not looked at. Settling is what a negotiation does whose
configuration is the task. -/
theorem opens_iff_and_settles_iff :
    ((∃ p pool', openSelection pool task input output sink = .opened p pool') ↔
      (∃ s, Selection.ofDocument task = .ok s) ∧ output.fields ⊆ input.fields) ∧
    (Settles task input output ↔
      ∃ s, Selection.ofDocument task = .ok s ∧ s.Applies input ∧
        output.fields = input.fields.filter (s.retains ·.name)) ∧
    ∀ name, Settles task input output ↔
      ∃ task', ((proposeSelection task input).settle name none).outcome = .ok (task', output) := by
  refine ⟨?_, settles_iff, fun name => settles_iff_settle⟩
  cases parsed : Selection.ofDocument task with
  | error e => simp [openSelection, parsed]
  | ok s =>
      rw [openSelection_of_parsed parsed, opens_careful_iff]
      exact (and_iff_right ⟨s, rfl⟩).symm

/-- Not everything that opens a stream can be settled on: a task with both lists opens one that
keeps all columns, even the one that it says to remove. -/
theorem not_settles_of_opened :
    ¬ ∀ (pool pool' : BufferPool) (task : Document) (input output : Schema) (sink : Sink)
        (p : Projector),
      openSelection pool task input output sink = .opened p pool' → Settles task input output := by
  intro rejects
  let both : Document := .mapping [("remove", .ofTexts ["name"]), ("keep", .ofTexts ["id"])]
  obtain ⟨s, p, parsed, resolved, -⟩ := rejects Transaction.Sample.pool _ both
    Transaction.Sample.input Transaction.Sample.input Transaction.Sample.willing _ rfl
  have read : Selection.ofDocument both = .ok ⟨some ["name"], some ["id"], false⟩ := rfl
  rw [read] at parsed
  cases parsed
  have refused : Projection.resolve Transaction.Sample.input
    ⟨some ["name"], some ["id"], false⟩ = .error (.selection .bothLists) := rfl
  rw [refused] at resolved
  cases resolved

end Filter

end TypedPages
