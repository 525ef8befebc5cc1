import TypedPages.Proofs.Leases
import TypedPages.Proofs.Opening

/-!
# Every buffer comes back

How many buffers are out is told by what was done with the writers: one for each writer that was
opened and has had no closing turn. A transaction and an opening that is refused close the writer
that they open, so neither leaves a trace in the count.
-/

namespace TypedPages

namespace Workbench

variable {bench : Workbench} {number : Nat} {w : Writer} {steps : List Step}

/-- Whether a turn closes the writer. -/
def Turn.closes (t : Turn) : Bool :=
  match t.step with
  | .close => true
  | _ => false

/-- Whether the writer of a number has no closing turn in the course of steps. -/
def unclosed [Host] (number : Nat) (bench : Workbench) (steps : List Step) : Bool :=
  (turns number bench steps).all fun t => !t.closes

/-- There are as many writers as were opened. -/
theorem length_writers_after [Host] (bench : Workbench) (steps : List Step) :
    (bench.after steps).writers.length = bench.writers.length + steps.countP Step.opens := by
  induction steps generalizing bench with
  | nil => rfl
  | cons step steps ih =>
      rw [after, ih, length_writers_step, List.countP_cons]
      omega

/-- The writer has a buffer exactly if it has had no closing turn. -/
def OpenUntilClosed (w : Writer) (past : List Turn) : Prop :=
  past.all (fun t => !t.closes) = w.bufferId?.isSome

/-- Only a closing turn takes the buffer away, and none gives a buffer. -/
theorem OpenUntilClosed.turn [Host] {past : List Turn} (h : OpenUntilClosed w past)
    (cursor : Cursor) (pool : BufferPool) (own : WriterStep) :
    OpenUntilClosed (stepWriter cursor pool w own).2.1
      (past ++ [⟨w, own, (stepWriter cursor pool w own).1⟩]) := by
  rw [OpenUntilClosed, List.all_append, List.all_cons, List.all_nil, Bool.and_true]
  by_cases closing : own = .close
  · subst closing
    show (_ && false) = (w.close pool).2.1.bufferId?.isSome
    rw [Writer.bufferId?_close, Bool.and_false]
    rfl
  · have still : Turn.closes ⟨w, own, (stepWriter cursor pool w own).1⟩ = false := by
      cases own <;> first | rfl | exact absurd rfl closing
    rw [(Writer.bufferId?_turn cursor pool closing).1, still, Bool.not_false, Bool.and_true]
    exact h

/-- Among the writers that were opened, those with a buffer are those without a closing turn. -/
theorem unclosed_eq [Host] (pool : BufferPool) (reader : Schema)
    (found : ((ofReader pool reader).after steps).writers[number]? = some w) :
    unclosed number (ofReader pool reader) steps = w.bufferId?.isSome := by
  have told : OpenUntilClosed w (turns number (ofReader pool reader) steps) := by
    apply opened_induction _ _ rfl found
    · intro pool schema sink
      rfl
    · intro w past cursor pool own h
      exact h.turn cursor pool own
  exact told

theorem countP_range_of_getElem? {α : Type} {p : Nat → Bool} {q : α → Bool} {list : List α}
    (h : ∀ i a, list[i]? = some a → p i = q a) :
    (List.range list.length).countP p = list.countP q := by
  induction list generalizing p with
  | nil => rfl
  | cons head list ih =>
      have later : (List.range list.length).countP (p ∘ Nat.succ) = list.countP q := by
        apply ih
        intro i a found
        exact h (i + 1) a found
      rw [List.length_cons, List.range_succ_eq_map, List.countP_cons, List.countP_map, later,
        List.countP_cons, h 0 head rfl]

/-- The writers that have a buffer, counted by what was done. -/
theorem length_held_after [Host] (pool : BufferPool) (reader : Schema) (steps : List Step) :
    ((ofReader pool reader).after steps).held.length =
      (List.range (steps.countP Step.opens)).countP
        fun number => unclosed number (ofReader pool reader) steps := by
  have opened : ((ofReader pool reader).after steps).writers.length = steps.countP Step.opens := by
    rw [length_writers_after]
    exact Nat.zero_add _
  rw [held, List.length_filterMap_eq_countP, ← opened]
  exact (countP_range_of_getElem? fun number w found => unclosed_eq pool reader found).symm

end Workbench

namespace BufferPool

/-- Lending a buffer and taking it back leaves as many buffers out as before. -/
theorem liveCount_settle_allocate (pool : BufferPool) :
    (pool.allocate.2.settle pool.loans).liveCount = pool.liveCount :=
  congrArg List.length pool.live_settle_allocate

open Workbench (Step ofReader unclosed)

variable {task config : Document} {input output : Schema} {pool pool' : BufferPool}
variable {sink sink' : Sink} {e : Error}

/-- An opening that is refused leaves no buffer behind, also if the sink refuses to be closed. -/
theorem liveCount_of_refused
    (refused : Filter.openSelection pool task input output sink = .refused e sink' pool') :
    pool'.liveCount = pool.liveCount := by
  rcases Filter.openSelection_cases pool task input output sink with
    ⟨cause, refused'⟩ | ⟨cause, refused'⟩ | ⟨table, -, opened⟩
  · rw [refused'] at refused
    cases refused
    rfl
  · rw [refused'] at refused
    cases refused
    exact pool.liveCount_settle_allocate
  · rw [opened] at refused
    cases refused

/-- Whatever a transaction comes to, it has given back what it was lent. -/
theorem liveCount_run [Host] (pool : BufferPool) (config : Document) (input : Schema)
    (source : Source) (sink : Sink) (accept : Option (Schema → Bool)) (id : String) :
    (Transaction.run .removeColumns pool config input source sink accept id).pool.liveCount =
      pool.liveCount := by
  cases settled : ((Filter.removeColumns.propose config input).settle
    Filter.removeColumns.name accept).outcome with
  | error e =>
      obtain ⟨_, _, ran⟩ := Transaction.run_of_unsettled pool source sink id settled
      rw [ran]
  | ok agreed =>
      obtain ⟨task, output⟩ := agreed
      obtain ⟨p, opened, -⟩ := Transaction.opened_of_settled settled pool sink
      obtain ⟨_, _, _, _, _, -, ran⟩ := Transaction.run_of_stream settled id opened rfl
      rw [ran]
      exact pool.liveCount_settle_allocate

/-- No buffer is lost and none is given back twice. However the steps of several writers come one
after the other, out are, besides the buffers that were out before, as many as there are writers
that were opened and not closed; the pool takes back the buffer of each of them, so closing a
writer fails for nothing but the sink. An opening that is refused and a transaction, whatever it
comes to, leave as many buffers out as before. -/
theorem loans_match_open_writers [Host] (pool : BufferPool) :
    (∀ (reader : Schema) (steps : List Step),
      ((ofReader pool reader).after steps).pool.liveCount = pool.liveCount +
        ((List.range (steps.countP Step.opens)).countP
          fun number => unclosed number (ofReader pool reader) steps) ∧
      (∀ w ∈ ((ofReader pool reader).after steps).writers, ∀ b ∈ w.buffer, ∃ released,
        ((ofReader pool reader).after steps).pool.release b = .ok released) ∧
      ∀ number e, (((ofReader pool reader).after steps).step (.writer number .close)).1 = .error e →
        ∃ failure, e = .failure failure) ∧
    (∀ task input output sink e sink' pool',
      Filter.removeColumns.openStream pool task input output sink = .refused e sink' pool' →
        pool'.liveCount = pool.liveCount) ∧
    ∀ config input source sink accept id,
      (Transaction.run .removeColumns pool config input source sink accept id).pool.liveCount =
        pool.liveCount := by
  refine ⟨?_, fun _ _ _ _ _ _ _ refused => liveCount_of_refused refused, pool.liveCount_run⟩
  intro reader steps
  have leased := (Workbench.leased_ofReader pool reader).after steps
  refine ⟨?_, ?_, ?_⟩
  · rw [leased.liveCount_eq, length_out, Workbench.length_held_after]
  · intro w member b buffer
    exact leased.exists_release member buffer
  · intro number e failed
    exact leased.failure_of_close failed

namespace Sample

/-- The sinks refuse to be closed. The first writer is closed twice, the second writer not at all,
and the third one is closed while a record waits. -/
def steps : List Step :=
  [.openWriter Transaction.Sample.output (Transaction.Sample.unwilling true),
    .openWriter Transaction.Sample.output (Transaction.Sample.unwilling true),
    .writer 0 .close, .writer 1 .sealRow, .writer 0 .close,
    .openWriter Transaction.Sample.output (Transaction.Sample.unwilling true),
    .writer 2 .sealRow, .writer 2 .close]

end Sample

/-- Of three writers only the second is still open. An opening between schemas that do not match is
refused with the failure of the sink, which is closed, and nothing is out behind it. -/
theorem sample_loans_match :
    ((ofReader Transaction.Sample.pool .empty).after Sample.steps).pool.liveCount = 1 ∧
    ∃ sink' pool', Filter.removeColumns.openStream Transaction.Sample.pool
        Transaction.Sample.selection.toDocument Transaction.Sample.output Transaction.Sample.input
        (Transaction.Sample.unwilling true) =
          .refused (.failure ⟨"sink close failed"⟩) sink' pool' ∧
      pool'.liveCount = 0 := by
  obtain ⟨steps, opening, -⟩ := loans_match_open_writers Transaction.Sample.pool
  obtain ⟨count, -, -⟩ := steps .empty Sample.steps
  obtain ⟨sink', pool', refused⟩ : ∃ sink' pool', Filter.removeColumns.openStream
      Transaction.Sample.pool Transaction.Sample.selection.toDocument Transaction.Sample.output
      Transaction.Sample.input (Transaction.Sample.unwilling true) =
        .refused (.failure ⟨"sink close failed"⟩) sink' pool' := ⟨_, _, rfl⟩
  exact ⟨count, sink', pool', refused, opening _ _ _ _ _ _ _ refused⟩

end BufferPool

end TypedPages
