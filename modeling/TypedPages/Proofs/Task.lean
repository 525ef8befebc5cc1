import TypedPages.Proofs.Opening

/-!
# Tasks that were handed out

A task is the selection itself, in a form that no longer depends on how the configuration spelled
it. Read again it is the same selection, so proposing from it repeats the proposal, and between the
two schemas it opens a stream. Nothing is compared with the negotiation when the stream opens: its
lookup table is made anew from the schemas, and comes out the same.
-/

namespace TypedPages

namespace Filter

variable {config task : Document} {input output : Schema} {s : Selection} {p : Projection}
variable {proposal : Proposal}

/-- A selection that can be resolved is proposed, once. -/
theorem proposals_of_resolve (parsed : Selection.ofDocument config = .ok s)
    (resolved : Projection.resolve input s = .ok p) :
    (proposeSelection config input).proposals = [⟨some s.toDocument, some p.output⟩] := by
  rw [proposeSelection]
  simp only [parsed, resolved]

/-- A proposal of the built-in filter is the selection with what it comes to. -/
theorem of_mem_proposals (made : proposal ∈ (proposeSelection config input).proposals) :
    ∃ s p, Selection.ofDocument config = .ok s ∧ Projection.resolve input s = .ok p ∧
      proposal = ⟨some s.toDocument, some p.output⟩ := by
  cases parsed : Selection.ofDocument config with
  | error e => simp [proposeSelection, parsed] at made
  | ok s =>
      cases resolved : Projection.resolve input s with
      | error e => simp [proposeSelection, parsed, resolved] at made
      | ok p =>
          rw [proposals_of_resolve parsed resolved] at made
          exact ⟨s, p, rfl, resolved, List.mem_singleton.mp made⟩

/-- What the built-in filter hands out is good for everything that follows. The task reads as the
selection of the configuration, and as a configuration it makes the same proposal again. It opens a
stream between the two schemas: the sink is not called, one buffer is lent, and the lookup table is
the one of the resolved selection. -/
theorem task_repeats_and_opens
    (made : ⟨some task, some output⟩ ∈ (removeColumns.propose config input).proposals) :
    ∃ s p, Selection.ofDocument config = .ok s ∧ Projection.resolve input s = .ok p ∧
      Selection.ofDocument task = .ok s ∧
      (removeColumns.propose task input).proposals = [⟨some task, some output⟩] ∧
      ∀ (pool : BufferPool) (sink : Sink), ∃ q pool',
        removeColumns.openStream pool task input output sink = .opened q pool' ∧
        q.writer.sink = sink ∧
        q.writer.buffer = some pool.allocate.1 ∧ pool' = pool.allocate.2 ∧
        pool'.liveCount = pool.liveCount + 1 ∧
        q.lookup = p.lookup := by
  obtain ⟨s, p, parsed, resolved, same⟩ := of_mem_proposals made
  obtain ⟨rfl, rfl⟩ : task = s.toDocument ∧ output = p.output := by
    simpa using same
  have again : Selection.ofDocument s.toDocument = .ok s := Selection.ofDocument_toDocument s
  have table : input.lookupTable p.output = .ok p.lookup := (Projection.of_resolve resolved).2
  refine ⟨s, p, parsed, resolved, again, proposals_of_resolve again resolved, ?_⟩
  intro pool sink
  have opened : openSelection pool s.toDocument input p.output sink =
      .opened ⟨.ofSchema input, (Writer.ofPool pool p.output sink).1, p.lookup, false, 0, 0⟩
        pool.allocate.2 := by
    rw [openSelection_of_parsed again]
    exact careful_of_lookupTable table pool sink
  exact ⟨_, _, opened, rfl, rfl, rfl, pool.liveCount_allocate, rfl⟩

namespace Sample

/-- A configuration that spells its flag as a text, names a column twice, and names another that
does not exist. -/
def loose : Document := .mapping [("accept_unmatched_columns", .text "Yes"),
  ("remove", .ofTexts ["name", "ssn", "name"])]

/-- Its task, in which every entry is there and the flag is a flag. -/
def plainTask : Document := .mapping [("remove", .ofTexts ["name", "ssn", "name"]), ("keep", .null),
  ("accept_unmatched_columns", .flag true)]

end Sample

/-- The task of a loosely spelled configuration is proposed again, and opens a stream that drops
the second column. -/
theorem sample_task_opens :
    (removeColumns.propose Sample.loose Transaction.Sample.input).proposals =
      [⟨some Sample.plainTask, some Transaction.Sample.output⟩] ∧
    (removeColumns.propose Sample.plainTask Transaction.Sample.input).proposals =
      [⟨some Sample.plainTask, some Transaction.Sample.output⟩] ∧
    ∃ q pool', removeColumns.openStream Transaction.Sample.pool Sample.plainTask
        Transaction.Sample.input Transaction.Sample.output Transaction.Sample.willing =
          .opened q pool' ∧
      q.writer.sink.calls = [] ∧ pool'.liveCount = 1 ∧ q.lookup = [some 0, none] := by
  have proposed : (removeColumns.propose Sample.loose Transaction.Sample.input).proposals =
      [⟨some Sample.plainTask, some Transaction.Sample.output⟩] := rfl
  have made : ⟨some Sample.plainTask, some Transaction.Sample.output⟩ ∈
      (removeColumns.propose Sample.loose Transaction.Sample.input).proposals := by
    rw [proposed]
    exact List.mem_singleton_self _
  obtain ⟨s, p, parsed, resolved, -, again, opens⟩ := task_repeats_and_opens made
  obtain ⟨q, pool', opened, sink, -, -, live, lookup⟩ :=
    opens Transaction.Sample.pool Transaction.Sample.willing
  have read : Selection.ofDocument Sample.loose =
      .ok ⟨some ["name", "ssn", "name"], none, true⟩ := rfl
  rw [read] at parsed
  cases parsed
  cases resolved
  refine ⟨proposed, again, q, pool', opened, ?_, live, lookup⟩
  rw [sink]
  rfl

end Filter

end TypedPages
