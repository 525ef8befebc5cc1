import Mathlib.Data.List.Basic
import Mathlib.Data.List.Nodup
import Mathlib.Data.List.Perm.Basic
import TypedPages.Proofs.Ledger

/-!
# Who has which buffer

The buffers of a pool that are out are those of the open writers, each with one of them, and those
that had been lent before. Opening a writer lends it a new buffer, closing it the first time ends
this loan, and nothing else is ever lent or given back. So the pool accepts every buffer that a
writer gives back, and what opens a writer and closes it again leaves the pool's loans as they were.
-/

namespace TypedPages

namespace BufferPool

variable {pool : BufferPool} {id : BufferId} {loan : Nat}

/-- The identities of the buffers that are out. -/
def out (pool : BufferPool) : List BufferId :=
  pool.live.map (.lent pool.key)

@[simp] theorem length_out (pool : BufferPool) : pool.out.length = pool.liveCount := by
  simp [out, liveCount]

theorem lent_injective (key : Nat) : Function.Injective (BufferId.lent key) := by
  rintro a b ⟨⟩
  rfl

theorem out_allocate (pool : BufferPool) :
    pool.allocate.2.out = pool.out ++ [.lent pool.key pool.loans] := by
  change (pool.live ++ [pool.loans]).map _ = _
  rw [List.map_append]
  rfl

theorem nodup_out (pool : BufferPool) : pool.out.Nodup :=
  pool.live_nodup.map (lent_injective pool.key)

theorem mem_out_iff : id ∈ pool.out ↔ ∃ loan, pool.loan? id = some loan := by
  constructor
  · intro h
    obtain ⟨loan, live, rfl⟩ := List.mem_map.mp h
    exact ⟨loan, loan?_eq_some_iff.mpr ⟨rfl, live⟩⟩
  · rintro ⟨loan, known⟩
    obtain ⟨rfl, live⟩ := loan?_eq_some_iff.mp known
    exact List.mem_map_of_mem live

/-- What is out bears the key of the pool, and its loan is among those that were made. -/
theorem eq_lent_of_mem_out (h : id ∈ pool.out) :
    ∃ loan, id = .lent pool.key loan ∧ loan < pool.loans := by
  obtain ⟨loan, live, rfl⟩ := List.mem_map.mp h
  exact ⟨loan, rfl, pool.live_lt loan live⟩

theorem out_settle (h : pool.loan? id = some loan) :
    (pool.settle loan).out = pool.out.erase id := by
  obtain ⟨rfl, -⟩ := loan?_eq_some_iff.mp h
  exact List.map_erase (lent_injective pool.key) pool.live

end BufferPool

namespace Writer

open Workbench (WriterStep Turn stepWriter)

variable {w : Writer} {pool : BufferPool} {id : BufferId} {own : WriterStep}

/-- The identity of the buffer that an open writer has. -/
def bufferId? (w : Writer) : Option BufferId :=
  w.buffer.map Buffer.id

theorem bufferId?_of_touchesRow {result : Except Error Unit × Writer} (h : w.TouchesRow result) :
    result.2.bufferId? = w.bufferId? := by
  obtain ⟨⟨row, after⟩, -⟩ := h
  rw [after]
  rfl

theorem bufferId?_flush (w : Writer) : w.flush.2.bufferId? = w.bufferId? := by
  cases buffer : w.buffer with
  | none => rw [flush, buffer]
  | some b =>
      by_cases empty : b.records = []
      · have nothing : w.buffer = some ⟨b.id, []⟩ := by rw [buffer, ← empty]
        rw [flush_of_empty nothing]
      · obtain ⟨⟨n, after⟩, -⟩ := flush_of_waiting buffer empty
        rw [after, bufferId?, bufferId?, buffer]
        rfl

theorem bufferId?_sealRow (w : Writer) : w.sealRow.2.bufferId? = w.bufferId? := by
  cases buffer : w.buffer with
  | none => rw [sealRow, buffer]
  | some b =>
      have pushed : (w.pushed b).bufferId? = w.bufferId? := by
        rw [bufferId?, bufferId?, buffer]
        rfl
      rw [sealRow_of_open buffer]
      split
      · exact (bufferId?_flush _).trans pushed
      · exact pushed

theorem bufferId?_finish (w : Writer) : w.finish.2.bufferId? = w.bufferId? := by
  have flushed := bufferId?_flush w
  rw [finish]
  split
  · rfl
  · split <;> rename_i result <;> rw [result] at flushed
    · exact flushed
    · exact flushed

/-- No step but the closing one has to do with the loan of the buffer. -/
theorem bufferId?_turn [Host] (cursor : Cursor) (pool : BufferPool) (unclosed : own ≠ .close) :
    (stepWriter cursor pool w own).2.1.bufferId? = w.bufferId? ∧
      (stepWriter cursor pool w own).2.2 = pool := by
  cases own with
  | write type index cell =>
      exact ⟨bufferId?_of_touchesRow (touchesRow_write w type index cell), rfl⟩
  | writeNull index => exact ⟨bufferId?_of_touchesRow (touchesRow_writeNull w index), rfl⟩
  | copy column index =>
      exact ⟨bufferId?_of_touchesRow (touchesRow_copy w cursor column index), rfl⟩
  | sealRow => exact ⟨bufferId?_sealRow w, rfl⟩
  | flush => exact ⟨bufferId?_flush w, rfl⟩
  | finish => exact ⟨bufferId?_finish w, rfl⟩
  | close => exact absurd rfl unclosed

/-- A closed writer has nothing to give back, whether the pool has taken its buffer or not. -/
theorem bufferId?_close (w : Writer) (pool : BufferPool) : (w.close pool).2.1.bufferId? = none := by
  cases buffer : w.buffer with
  | none =>
      rw [close_of_closed buffer, bufferId?, buffer]
      rfl
  | some b =>
      rw [close, buffer]
      simp only
      split <;> rename_i told <;> exact (congrArg (·.2.bufferId?) told).symm

end Writer

namespace Workbench

variable {bench : Workbench} {others : List BufferId} {number : Nat} {w : Writer}
variable {steps : List Step}

/-- The identities of the buffers that the open writers have. -/
def held (bench : Workbench) : List BufferId :=
  bench.writers.filterMap Writer.bufferId?

/-- Out are the buffers that others have and those of the open writers, no two of them the same. -/
def Leased (others : List BufferId) (bench : Workbench) : Prop :=
  bench.pool.out.Perm (others ++ bench.held)

theorem leased_ofReader (pool : BufferPool) (reader : Schema) :
    (ofReader pool reader).Leased pool.out := by
  change pool.out.Perm (pool.out ++ [])
  rw [List.append_nil]

/-- Of the identities that are held, a writer contributes its own, whatever it becomes. -/
theorem exists_held_set (h : bench.writers[number]? = some w) :
    ∃ rest, bench.held.Perm (w.bufferId?.toList ++ rest) ∧ ∀ v,
      ((bench.writers.set number v).filterMap Writer.bufferId?).Perm
        (v.bufferId?.toList ++ rest) := by
  obtain ⟨bound, rfl⟩ := List.getElem?_eq_some_iff.mp h
  let rest := (bench.writers.take number).filterMap Writer.bufferId? ++
    (bench.writers.drop (number + 1)).filterMap Writer.bufferId?
  have parts (v : Writer) : ((bench.writers.set number v).filterMap Writer.bufferId?).Perm
      (v.bufferId?.toList ++ rest) := by
    rw [List.set_eq_take_append_cons_drop, if_pos bound, List.filterMap_append,
      List.filterMap_cons]
    cases v.bufferId? with
    | none => exact .refl _
    | some id => exact List.perm_middle
  refine ⟨rest, ?_, parts⟩
  have unchanged := parts bench.writers[number]
  rw [List.set_getElem_self] at unchanged
  exact unchanged

namespace Leased

variable (h : bench.Leased others)
include h

/-- The pool knows the loan of every buffer that a writer has. -/
theorem exists_loan (member : w ∈ bench.writers) {b : Buffer} (buffer : w.buffer = some b) :
    ∃ loan, bench.pool.loan? b.id = some loan := by
  apply BufferPool.mem_out_iff.mp
  apply h.mem_iff.mpr
  apply List.mem_append_right
  apply List.mem_filterMap.mpr
  exact ⟨w, member, by rw [Writer.bufferId?, buffer]; rfl⟩

theorem openWriter (schema : Schema) (sink : Sink) :
    (bench.openWriter schema sink).Leased others := by
  have holds : (bench.openWriter schema sink).held =
      bench.held ++ [.lent bench.pool.key bench.pool.loans] :=
    List.filterMap_append
  change bench.pool.allocate.2.out.Perm _
  rw [BufferPool.out_allocate, holds, ← List.append_assoc]
  exact h.append_right _

/-- A turn of a writer either has to do with no loan, or it ends the loan of the writer's own
buffer. -/
theorem turn [Host] (found : bench.writers[number]? = some w) (own : WriterStep) :
    (bench.step (.writer number own)).2.Leased others := by
  obtain ⟨rest, holds, after⟩ := exists_held_set found
  rw [step_own found]
  change (stepWriter bench.cursor bench.pool w own).2.2.out.Perm
    (others ++ (bench.writers.set number _).filterMap Writer.bufferId?)
  have before := h.trans (holds.append_left others)
  refine List.Perm.trans ?_ ((after _).append_left others).symm
  by_cases closing : own = .close
  · subst closing
    change (w.close bench.pool).2.2.out.Perm (others ++ ((w.close _).2.1.bufferId?.toList ++ rest))
    rw [Writer.bufferId?_close]
    cases buffer : w.buffer with
    | none =>
        rw [Writer.close_of_closed buffer]
        rw [Writer.bufferId?, buffer] at before
        exact before
    | some b =>
        obtain ⟨loan, out⟩ := h.exists_loan (List.mem_of_getElem? found) buffer
        rw [Writer.close_of_lent buffer out, BufferPool.out_settle out]
        rw [Writer.bufferId?, buffer] at before
        have returned := (before.trans List.perm_middle).erase b.id
        rw [List.erase_cons_head] at returned
        exact returned
  · obtain ⟨same, lender⟩ := Writer.bufferId?_turn (w := w) bench.cursor bench.pool closing
    rw [same, lender]
    exact before

theorem step [Host] (step : Step) : (bench.step step).2.Leased others := by
  cases step with
  | bind page => exact h
  | advance => exact h
  | isNull column => exact h
  | read type column => exact h
  | closeCursor => exact h
  | openWriter schema sink => exact h.openWriter schema sink
  | writer number own =>
      cases found : bench.writers[number]? with
      | none =>
          rw [step_of_absent found]
          exact h
      | some w => exact h.turn found own

theorem after [Host] (steps : List Step) : (bench.after steps).Leased others := by
  induction steps generalizing bench with
  | nil => exact h
  | cons step steps ih => exact ih (h.step step)

theorem liveCount_eq : bench.pool.liveCount = others.length + bench.held.length := by
  rw [← BufferPool.length_out, h.length_eq, List.length_append]

/-- The pool takes every buffer that a writer has back. -/
theorem exists_release (member : w ∈ bench.writers) {b : Buffer} (buffer : w.buffer = some b) :
    ∃ released, bench.pool.release b = .ok released := by
  obtain ⟨loan, out⟩ := h.exists_loan member buffer
  exact ⟨_, BufferPool.release_of_loan out⟩

/-- Closing fails only because of the sink. -/
theorem failure_of_close [Host] {e : Error}
    (failed : (bench.step (.writer number .close)).1 = .error e) :
    ∃ failure, e = .failure failure := by
  cases found : bench.writers[number]? with
  | none =>
      rw [step_of_absent found] at failed
      cases failed
  | some w =>
      rw [step_own found] at failed
      change (w.close bench.pool).1.map _ = _ at failed
      cases buffer : w.buffer with
      | none =>
          rw [Writer.close_of_closed buffer] at failed
          cases failed
      | some b =>
          obtain ⟨loan, out⟩ := h.exists_loan (List.mem_of_getElem? found) buffer
          rw [Writer.close_of_lent buffer out] at failed
          cases told : (w.sink.tell .close).1 with
          | error failure =>
              rw [told] at failed
              cases failed
              exact ⟨failure, rfl⟩
          | ok =>
              rw [told] at failed
              cases failed

end Leased

end Workbench

end TypedPages
