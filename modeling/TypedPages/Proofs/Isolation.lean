import TypedPages.Proofs.Leases

/-!
# A writer by itself

A writer that shares a cursor and a pool with others does what it would do with the cursor alone
and with a fresh pool. Another pool lends it another buffer, but a writer never looks at the
identity of its buffer, and when it gives the buffer back, both pools take it.
-/

namespace TypedPages

namespace Writer

open Workbench (WriterStep stepWriter)

variable {v w : Writer} {pool lender : BufferPool}

/-- The writer without a trace of where its buffer comes from. -/
def anonymous (w : Writer) : Writer :=
  { w with buffer := w.buffer.map fun b => { b with id := .foreign 0 } }

/-- What an operation comes to, without a trace of where the buffer comes from. -/
def anonymized (result : Except Error Unit × Writer) : Except Error Unit × Writer :=
  (result.1, result.2.anonymous)

theorem anonymous_ofPool (same : lender.pageSize = pool.pageSize) (schema : Schema) (sink : Sink) :
    (ofPool lender schema sink).1.anonymous = (ofPool pool schema sink).1.anonymous := by
  simp only [ofPool, BufferPool.allocate, anonymous, same, Option.map_some]

theorem isClosed_anonymous (w : Writer) : w.anonymous.isClosed = w.isClosed :=
  Option.isNone_map

theorem column_anonymous [Host] (w : Writer) (index : Int) :
    w.anonymous.column index = w.column index := by
  rw [column, column, isClosed_anonymous]
  rfl

theorem write_anonymous [Host] (w : Writer) (type : ColumnType) (index : Int) (cell : Cell) :
    w.anonymous.write type index cell = anonymized (w.write type index cell) := by
  have check : w.anonymous.checkWrite type index cell = w.checkWrite type index cell := by
    rw [checkWrite, checkWrite, column_anonymous]
  rw [write, write, check]
  cases w.checkWrite type index cell <;> rfl

theorem writeNull_anonymous [Host] (w : Writer) (index : Int) :
    w.anonymous.writeNull index = anonymized (w.writeNull index) := by
  rw [writeNull, writeNull, column_anonymous]
  cases w.column index <;> rfl

theorem copy_anonymous [Host] (w : Writer) (cursor : Cursor) (column : Column) (index : Int) :
    w.anonymous.copy cursor column index = anonymized (w.copy cursor column index) := by
  rw [copy, copy]
  split
  · rfl
  · exact writeNull_anonymous w index
  · split
    · rfl
    · exact write_anonymous w column.type index _

theorem buffer_anonymous {b : Buffer} (buffer : w.buffer = some b) :
    w.anonymous.buffer = some ⟨.foreign 0, b.records⟩ := by
  rw [anonymous, buffer]
  rfl

theorem buffer_anonymous_of_closed (buffer : w.buffer = none) : w.anonymous.buffer = none := by
  rw [anonymous, buffer]
  rfl

theorem flush_anonymous (w : Writer) : w.anonymous.flush = anonymized w.flush := by
  cases buffer : w.buffer with
  | none =>
      rw [flush, flush, buffer, buffer_anonymous_of_closed buffer]
      rfl
  | some b =>
      obtain ⟨id, records⟩ := b
      have hidden := buffer_anonymous buffer
      by_cases empty : records = []
      · subst empty
        rw [flush_of_empty buffer, flush_of_empty hidden]
        rfl
      · cases told : w.sink.tell (.add records) with
        | mk answered t =>
            cases answered with
            | ok =>
                rw [flush_of_taken buffer empty told, flush_of_taken hidden empty told]
                rfl
            | error failure =>
                rw [flush_of_refused buffer empty told, flush_of_refused hidden empty told]
                rfl

theorem sealRow_anonymous (w : Writer) : w.anonymous.sealRow = anonymized w.sealRow := by
  cases buffer : w.buffer with
  | none =>
      rw [sealRow, sealRow, buffer, buffer_anonymous_of_closed buffer]
      rfl
  | some b =>
      rw [sealRow_of_open buffer, sealRow_of_open (buffer_anonymous buffer)]
      by_cases full : w.pageSize ≤ b.records.length + 1
      · rw [if_pos full]
        exact (if_pos full).trans (flush_anonymous (w.pushed b))
      · rw [if_neg full]
        exact if_neg full

theorem finish_anonymous (w : Writer) : w.anonymous.finish = anonymized w.finish := by
  rw [finish, finish, isClosed_anonymous]
  split
  · rfl
  · rw [flush_anonymous]
    rcases w.flush with ⟨e | _, flushed⟩ <;> rfl

/-- The sink is told the same of the closing, if both pools know the buffer that they have lent. -/
theorem close_congr (same : v.anonymous = w.anonymous)
    (known : ∀ b, v.buffer = some b → ∃ loan, lender.loan? b.id = some loan)
    (lent : ∀ b, w.buffer = some b → ∃ loan, pool.loan? b.id = some loan) :
    (v.close lender).1 = (w.close pool).1 ∧
      (v.close lender).2.1.anonymous = (w.close pool).2.1.anonymous := by
  have sinks : v.sink = w.sink :=
    show v.anonymous.sink = w.anonymous.sink from congrArg Writer.sink same
  have closed : v.isClosed = w.isClosed := by
    rw [← isClosed_anonymous, same, isClosed_anonymous]
  cases left : v.buffer with
  | none =>
      have right : w.buffer = none := by
        rw [isClosed, isClosed, left] at closed
        exact Option.isNone_iff_eq_none.mp closed.symm
      rw [close_of_closed left, close_of_closed right]
      exact ⟨rfl, same⟩
  | some b =>
      obtain ⟨b', right⟩ : ∃ b', w.buffer = some b' := by
        rw [isClosed, isClosed, left] at closed
        exact Option.isSome_iff_exists.mp (Option.isNone_eq_false_iff.mp closed.symm)
      obtain ⟨loan, out⟩ := known b left
      obtain ⟨loan', out'⟩ := lent b' right
      rw [close_of_lent left out, close_of_lent right out', sinks]
      refine ⟨rfl, ?_⟩
      exact congrArg
        (fun u : Writer => { u with buffer := none, sink := (w.sink.tell .close).2 }) same

/-- A turn goes the same way for two writers that differ in the identities of their buffers alone,
whoever has lent these. -/
theorem turn_congr [Host] (same : v.anonymous = w.anonymous)
    (known : ∀ b, v.buffer = some b → ∃ loan, lender.loan? b.id = some loan)
    (lent : ∀ b, w.buffer = some b → ∃ loan, pool.loan? b.id = some loan)
    (cursor : Cursor) (own : WriterStep) :
    (stepWriter cursor lender v own).1 = (stepWriter cursor pool w own).1 ∧
      (stepWriter cursor lender v own).2.1.anonymous =
        (stepWriter cursor pool w own).2.1.anonymous := by
  have alike {f : Writer → Except Error Unit × Writer}
      (hidden : ∀ u : Writer, f u.anonymous = anonymized (f u)) :
      (f v).1 = (f w).1 ∧ (f v).2.anonymous = (f w).2.anonymous := by
    have results : anonymized (f v) = anonymized (f w) := by
      rw [← hidden, ← hidden, same]
    exact Prod.mk.inj results
  cases own with
  | write type index cell =>
      exact alike (f := fun u => u.write type index cell) fun u =>
        write_anonymous u type index cell
  | writeNull index =>
      exact alike (f := fun u => u.writeNull index) fun u => writeNull_anonymous u index
  | copy column index =>
      exact alike (f := fun u => u.copy cursor column index) fun u =>
        copy_anonymous u cursor column index
  | sealRow => exact alike sealRow_anonymous
  | flush => exact alike flush_anonymous
  | finish => exact alike finish_anonymous
  | close => exact close_congr same known lent

theorem pageSize_close (w : Writer) (pool : BufferPool) :
    (w.close pool).2.2.pageSize = pool.pageSize := by
  cases buffer : w.buffer with
  | none => rw [close_of_closed buffer]
  | some b =>
      rw [close, buffer]
      simp only [BufferPool.release]
      cases pool.loan? b.id with
      | none =>
          simp only
          split <;> rfl
      | some loan =>
          simp only
          split <;> rfl

end Writer

namespace Workbench

variable {bench alone : Workbench} {number : Nat} {steps : List Step}

/-- The turn without a trace of where the buffer of the writer comes from. -/
def Turn.anonymous (t : Turn) : Turn :=
  { t with found := t.found.anonymous }

/-- What a step is to the writer of a number by itself, when some writers were opened before. Its
own opening and its turns are those of the only writer, and those of other writers are left out. -/
def Step.alone? (number opened : Nat) : Step → Option Step
  | .openWriter schema sink => if opened = number then some (.openWriter schema sink) else none
  | .writer other own => if other = number then some (.writer 0 own) else none
  | step => some step

/-- The steps that are left for the writer of a number by itself. -/
def solo (number : Nat) : Nat → List Step → List Step
  | _, [] => []
  | opened, step :: steps =>
    (step.alone? number opened).toList ++
      solo number (opened + if step.opens then 1 else 0) steps

theorem pageSize_step [Host] (bench : Workbench) (step : Step) :
    (bench.step step).2.pool.pageSize = bench.pool.pageSize := by
  cases step with
  | writer other own =>
      rw [Workbench.step]
      split
      · rfl
      · rename_i w found
        cases own with
        | close => exact Writer.pageSize_close w bench.pool
        | _ => rfl
  | _ => rfl

/-- The second workbench has the cursor of the first one. Its only writer, if it has one, is the
writer of the number at the first one, but for the identity of the buffer. -/
structure Mirrors (number : Nat) (bench alone : Workbench) : Prop where
  cursor : alone.cursor = bench.cursor
  pageSize : alone.pool.pageSize = bench.pool.pageSize
  leased : ∃ others, bench.Leased others
  leasedAlone : ∃ others, alone.Leased others
  writer : alone.writers[0]?.map Writer.anonymous = bench.writers[number]?.map Writer.anonymous

namespace Mirrors

variable (h : Mirrors number bench alone)
include h

/-- A step that leaves out the writer and the cursor can be left out. -/
theorem skip [Host] {step : Step} (cursor : (bench.step step).2.cursor = bench.cursor)
    (writer : (bench.step step).2.writers[number]? = bench.writers[number]?) :
    Mirrors number (bench.step step).2 alone := by
  obtain ⟨others, leased⟩ := h.leased
  refine ⟨?_, ?_, ⟨others, leased.step step⟩, h.leasedAlone, ?_⟩
  · rw [cursor, h.cursor]
  · rw [pageSize_step, h.pageSize]
  · rw [writer, h.writer]

/-- Steps that go the same way on both sides keep both sides the same. -/
theorem both [Host] {step own : Step}
    (cursor : (alone.step own).2.cursor = (bench.step step).2.cursor)
    (writer : (alone.step own).2.writers[0]?.map Writer.anonymous =
      (bench.step step).2.writers[number]?.map Writer.anonymous) :
    Mirrors number (bench.step step).2 (alone.step own).2 := by
  obtain ⟨others, leased⟩ := h.leased
  obtain ⟨others', leasedAlone⟩ := h.leasedAlone
  refine ⟨cursor, ?_, ⟨others, leased.step step⟩, ⟨others', leasedAlone.step own⟩, writer⟩
  rw [pageSize_step, pageSize_step, h.pageSize]

/-- The writer finds the same on both sides, but for the identity of its buffer. -/
theorem exists_same {w : Writer} (found : bench.writers[number]? = some w) :
    ∃ v, alone.writers[0]? = some v ∧ v.anonymous = w.anonymous := by
  have writer := h.writer
  rw [found, Option.map_some] at writer
  exact Option.map_eq_some_iff.mp writer

theorem absent_of_absent (absent : bench.writers[number]? = none) : alone.writers = [] := by
  have writer := h.writer
  rw [absent, Option.map_none, Option.map_eq_none_iff] at writer
  exact List.length_eq_zero_iff.mp (Nat.le_zero.mp (List.getElem?_eq_none_iff.mp writer))

/-- The writer is opened on both sides, or another one is opened on one side. -/
theorem openWriter [Host] (schema : Schema) (sink : Sink) :
    Mirrors number (bench.step (.openWriter schema sink)).2
      (alone.after (Step.alone? number bench.writers.length (.openWriter schema sink)).toList) := by
  rw [Step.alone?]
  by_cases own : bench.writers.length = number
  · rw [if_pos own]
    subst own
    have nobody := h.absent_of_absent (List.getElem?_eq_none (Nat.le_refl _))
    have first := openWriter_new alone schema sink
    rw [nobody, List.length_nil] at first
    refine h.both h.cursor ?_
    show (alone.openWriter schema sink).writers[0]?.map _ =
      (bench.openWriter schema sink).writers[bench.writers.length]?.map _
    rw [openWriter_new bench schema sink, first, Option.map_some, Option.map_some,
      Writer.anonymous_ofPool h.pageSize]
  · rw [if_neg own]
    refine h.skip rfl ?_
    show (bench.writers ++ [_])[number]? = _
    rcases Nat.lt_or_gt_of_ne own with beyond | below
    · rw [List.getElem?_eq_none (Nat.le_of_lt beyond)]
      apply List.getElem?_eq_none
      rw [List.length_append, List.length_singleton]
      omega
    · exact List.getElem?_append_left below

/-- A turn of the writer is the same turn on both sides. -/
theorem turn [Host] (own : WriterStep) :
    (bench.turn? number (.writer number own)).map Turn.anonymous =
        (alone.turn? 0 (.writer 0 own)).map Turn.anonymous ∧
      Mirrors number (bench.step (.writer number own)).2 (alone.step (.writer 0 own)).2 := by
  rw [turn?, turn?, if_pos rfl, if_pos rfl]
  cases found : bench.writers[number]? with
  | none =>
      have nobody : alone.writers[0]? = none := by rw [h.absent_of_absent found]; rfl
      rw [nobody, step_of_absent found, step_of_absent nobody]
      exact ⟨rfl, h⟩
  | some w =>
      obtain ⟨v, found', same⟩ := h.exists_same found
      obtain ⟨others, leased⟩ := h.leased
      obtain ⟨others', leasedAlone⟩ := h.leasedAlone
      obtain ⟨answer, after⟩ := Writer.turn_congr same
        (fun b buffer => leasedAlone.exists_loan (List.mem_of_getElem? found') buffer)
        (fun b buffer => leased.exists_loan (List.mem_of_getElem? found) buffer) bench.cursor own
      constructor
      · rw [found', Option.map_some, Option.map_some, Option.map_some, Option.map_some,
          Turn.anonymous, Turn.anonymous, h.cursor, same, answer]
      · apply h.both
        · rw [step_own found, step_own found']
          exact h.cursor
        · have bound := (List.getElem?_eq_some_iff.mp found).1
          have bound' := (List.getElem?_eq_some_iff.mp found').1
          rw [step_own found, step_own found', List.getElem?_set_self bound,
            List.getElem?_set_self bound', Option.map_some, Option.map_some, h.cursor, after]

/-- Whatever the step is, both sides stay the same, and the writer has the same turn or none. -/
theorem step [Host] (step : Step) :
    (turns number bench [step]).map Turn.anonymous =
        (turns 0 alone (step.alone? number bench.writers.length).toList).map Turn.anonymous ∧
      Mirrors number (bench.step step).2
        (alone.after (step.alone? number bench.writers.length).toList) := by
  cases step with
  | bind page => exact ⟨rfl, h.both (congrArg (·.bind page) h.cursor) h.writer⟩
  | advance => exact ⟨rfl, h.both (congrArg (·.advance.2) h.cursor) h.writer⟩
  | isNull column => exact ⟨rfl, h.both h.cursor h.writer⟩
  | read type column => exact ⟨rfl, h.both h.cursor h.writer⟩
  | closeCursor => exact ⟨rfl, h.both (congrArg Cursor.close h.cursor) h.writer⟩
  | openWriter schema sink =>
      refine ⟨?_, h.openWriter schema sink⟩
      rw [Step.alone?]
      split <;> rfl
  | writer other own =>
      rw [Step.alone?, turns_singleton]
      by_cases mine : other = number
      · subst mine
        obtain ⟨had, next⟩ := h.turn own
        rw [if_pos rfl, Option.toList_some, turns_singleton, ← Option.toList_map,
          ← Option.toList_map, had]
        exact ⟨rfl, next⟩
      · rw [if_neg mine, turn?, if_neg mine]
        obtain ⟨cursor, writer⟩ := step_other mine own
        exact ⟨rfl, h.skip cursor writer⟩

/-- However the steps of the writers come one after the other, both sides stay the same. -/
theorem after [Host] (steps : List Step) :
    (turns number bench steps).map Turn.anonymous =
        (turns 0 alone (solo number bench.writers.length steps)).map Turn.anonymous ∧
      Mirrors number (bench.after steps)
        (alone.after (solo number bench.writers.length steps)) := by
  induction steps generalizing bench alone with
  | nil => exact ⟨rfl, h⟩
  | cons step steps ih =>
      obtain ⟨had, next⟩ := h.step step
      obtain ⟨later, last⟩ := ih next
      rw [length_writers_step] at later last
      constructor
      · rw [solo, turns_append, List.map_append, ← had, ← later, turns_singleton,
          ← List.map_append, turns]
      · rw [solo, after_append]
        exact last

end Mirrors

/-- Before any step the two workbenches are the same but for their pools. -/
theorem mirrors_ofReader (number key : Nat) (pool : BufferPool) (reader : Schema) :
    Mirrors number (ofReader pool reader)
      (ofReader (.fresh key pool.pageSize pool.pageSize_pos) reader) :=
  ⟨rfl, rfl, ⟨_, leased_ofReader _ _⟩, ⟨_, leased_ofReader _ _⟩, rfl⟩

/-- Writers that share a pool and a cursor do not interfere. In any sequence of steps, the turns of
a writer are those that it has when the openings and turns of all other writers are deleted and it
works with the cursor and a fresh pool of the same page size: it is found the same each time, with
the same counters and the same calls at its sink, and it answers the same. So it is also the same
in the end. Left out is only which buffer it has. -/
theorem turns_eq_turns_solo [Host] (pool : BufferPool) (reader : Schema) (key number : Nat)
    (steps : List Step) :
    let bench := ofReader pool reader
    let alone := ofReader (.fresh key pool.pageSize pool.pageSize_pos) reader
    (turns number bench steps).map Turn.anonymous =
        (turns 0 alone (solo number 0 steps)).map Turn.anonymous ∧
      (bench.after steps).writers[number]?.map Writer.anonymous =
        (alone.after (solo number 0 steps)).writers[0]?.map Writer.anonymous := by
  intro bench alone
  obtain ⟨same, mirrors⟩ := (mirrors_ofReader number key pool reader).after steps
  exact ⟨same, mirrors.writer.symm⟩

/-- The opening and the turn of the first writer are left out, and the second writer is the first.
-/
example (first second : Schema) (sink : Sink) (page : Page) :
    solo 1 0 [.openWriter first sink, .openWriter second sink, .writer 0 .sealRow, .bind page,
        .writer 1 .flush] =
      [.openWriter second sink, .bind page, .writer 0 .flush] :=
  rfl

end Workbench

end TypedPages
