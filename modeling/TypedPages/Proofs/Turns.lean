import Mathlib.Data.List.Basic
import TypedPages.Workbench

/-!
# One writer among others

At a workbench the steps of one writer come between steps of the cursor and steps of other writers.
What becomes of the writer is decided by its own turns alone: no other step touches its row, its
buffer or its sink.
-/

namespace TypedPages

/-- The failure of another party that an error is. -/
def Error.failure? : Error → Option Failure
  | .failure cause => some cause
  | _ => none

/-- The failure of another party that an answer passes on. -/
def passedOn? {α : Type} : Except Error α → Option Failure
  | .ok _ => none
  | .error e => e.failure?

/-- No sink has to do with a broken contract, nor with a value that cannot be written. -/
theorem passedOn?_raised [Host] {α : Type} (v : Violation) :
    passedOn? (.error v.raised : Except Error α) = none := by
  obtain same | ⟨cause, same⟩ := v.raised_cases <;> rw [same] <;> rfl

namespace Workbench

/-- A step of one writer: the writer as it was found, and what it answered. -/
structure Turn where
  found : Writer
  step : WriterStep
  answer : Except Error Unit

namespace Turn

/-- The record that a turn seals: the row of an open writer that is told to seal it. -/
def sealed? (t : Turn) : Option Record :=
  match t.step with
  | .sealRow => if t.found.isClosed then none else some t.found.row
  | _ => none

/-- The failure of the sink that a turn passed on. -/
def failure? (t : Turn) : Option Failure :=
  passedOn? t.answer

end Turn

/-- Performs steps one after the other, whatever they answer. -/
def after [Host] : Workbench → List Step → Workbench
  | bench, [] => bench
  | bench, step :: steps => (bench.step step).2.after steps

/-- The turn that a step is for the writer of a number, if it is one. -/
def turn? [Host] (bench : Workbench) (number : Nat) : Step → Option Turn
  | .writer other step =>
    if other = number then
      bench.writers[number]?.map fun w =>
        ⟨w, step, (stepWriter bench.cursor bench.pool w step).1⟩
    else none
  | _ => none

/-- The turns that the writer of a number has in the course of steps. -/
def turns [Host] (number : Nat) : Workbench → List Step → List Turn
  | _, [] => []
  | bench, step :: steps =>
    (bench.turn? number step).toList ++ turns number (bench.step step).2 steps

/-- Whether a step opens a writer. -/
def Step.opens : Step → Bool
  | .openWriter .. => true
  | _ => false

/-- The records that the writer of a number seals in the course of steps. -/
def sealedBy [Host] (number : Nat) (bench : Workbench) (steps : List Step) : List Record :=
  (turns number bench steps).filterMap Turn.sealed?

/-- The failures that the sink of a writer causes in the course of steps, as their callers see
them. -/
def failuresOf [Host] (number : Nat) (bench : Workbench) (steps : List Step) : List Failure :=
  (turns number bench steps).filterMap Turn.failure?

variable {bench : Workbench} {number : Nat} {w : Writer} {step : Step} {steps : List Step}
variable {schema : Schema} {sink : Sink}

theorem after_append [Host] (bench : Workbench) (early late : List Step) :
    bench.after (early ++ late) = (bench.after early).after late := by
  induction early generalizing bench with
  | nil => rfl
  | cons step early ih => exact ih (bench.step step).2

theorem turns_singleton [Host] (number : Nat) (bench : Workbench) (step : Step) :
    turns number bench [step] = (bench.turn? number step).toList :=
  List.append_nil _

theorem turns_append [Host] (number : Nat) (bench : Workbench) (early late : List Step) :
    turns number bench (early ++ late) =
      turns number bench early ++ turns number (bench.after early) late := by
  induction early generalizing bench with
  | nil => rfl
  | cons step early ih =>
      rw [List.cons_append, turns, turns, after, ih, List.append_assoc]

/-- Writers are never taken away, and only an opening adds one. -/
theorem length_writers_step [Host] (bench : Workbench) (step : Step) :
    (bench.step step).2.writers.length =
      bench.writers.length + if step.opens then 1 else 0 := by
  cases step with
  | openWriter schema sink => exact List.length_append
  | writer other own =>
      rw [Workbench.step]
      split
      · rfl
      · exact List.length_set
  | _ => rfl

/-- A writer is opened behind those that are there. -/
theorem openWriter_new (bench : Workbench) (schema : Schema) (sink : Sink) :
    (bench.openWriter schema sink).writers[bench.writers.length]? =
      some (Writer.ofPool bench.pool schema sink).1 := by
  rw [openWriter]
  exact List.getElem?_concat_length

theorem openWriter_old (h : bench.writers[number]? = some w) :
    (bench.openWriter schema sink).writers[number]? = some w := by
  have bound : number < bench.writers.length := (List.getElem?_eq_some_iff.mp h).1
  rw [openWriter]
  exact (List.getElem?_append_left bound).trans h

theorem step_own [Host] (h : bench.writers[number]? = some w) (step : WriterStep) :
    bench.step (.writer number step) =
      ((stepWriter bench.cursor bench.pool w step).1.map fun _ => .done,
        { bench with
          pool := (stepWriter bench.cursor bench.pool w step).2.2
          writers :=
            bench.writers.set number (stepWriter bench.cursor bench.pool w step).2.1 }) := by
  rw [Workbench.step]
  simp only [h]

/-- A writer that is put back as it was found leaves all writers as they are. -/
theorem set_own (h : bench.writers[number]? = some w) :
    bench.writers.set number w = bench.writers := by
  obtain ⟨bound, rfl⟩ := List.getElem?_eq_some_iff.mp h
  exact List.set_getElem_self bound

/-- A writer that is not there has no turn. -/
theorem step_of_absent [Host] (h : bench.writers[number]? = none) (step : WriterStep) :
    bench.step (.writer number step) = (.ok .done, bench) := by
  rw [Workbench.step]
  simp only [h]

/-- A turn of another writer leaves the cursor and the writer as they are. -/
theorem step_other [Host] {other : Nat} (different : other ≠ number) (step : WriterStep) :
    (bench.step (.writer other step)).2.cursor = bench.cursor ∧
      (bench.step (.writer other step)).2.writers[number]? = bench.writers[number]? := by
  cases found : bench.writers[other]? with
  | none =>
      rw [step_of_absent found]
      exact ⟨rfl, rfl⟩
  | some v =>
      rw [step_own found]
      exact ⟨rfl, List.getElem?_set_ne different⟩

/-- A step is a turn of the writer, or it leaves the writer as it is. -/
theorem step_cases [Host] (h : bench.writers[number]? = some w) (step : Step) :
    (∃ own, step = .writer number own ∧
      bench.turn? number step = some ⟨w, own, (stepWriter bench.cursor bench.pool w own).1⟩ ∧
      (bench.step step).2.writers[number]? =
        some (stepWriter bench.cursor bench.pool w own).2.1) ∨
    (bench.turn? number step = none ∧ (bench.step step).2.writers[number]? = some w) := by
  have bound : number < bench.writers.length := (List.getElem?_eq_some_iff.mp h).1
  cases step with
  | bind page => exact .inr ⟨rfl, h⟩
  | advance => exact .inr ⟨rfl, h⟩
  | isNull column => exact .inr ⟨rfl, h⟩
  | read type column => exact .inr ⟨rfl, h⟩
  | closeCursor => exact .inr ⟨rfl, h⟩
  | openWriter schema sink => exact .inr ⟨rfl, openWriter_old h⟩
  | writer other own =>
      by_cases same : other = number
      · subst same
        refine .inl ⟨own, rfl, ?_, ?_⟩
        · rw [turn?, if_pos rfl, h, Option.map_some]
        · rw [step_own h]
          exact List.getElem?_set_self bound
      · refine .inr ⟨if_neg same, ?_⟩
        exact (step_other same own).2.trans h

/-- What every turn of a writer keeps holds after all steps. `keeps` speaks of the writer and of
the turns that it has had. -/
theorem after_induction [Host] {keeps : Writer → List Turn → Prop}
    (turn : ∀ w past cursor pool own, keeps w past → .writer number own ∈ steps →
      keeps (stepWriter cursor pool w own).2.1
        (past ++ [⟨w, own, (stepWriter cursor pool w own).1⟩]))
    (past : List Turn) (h : bench.writers[number]? = some w) (start : keeps w past) :
    ∃ w', (bench.after steps).writers[number]? = some w' ∧
      keeps w' (past ++ turns number bench steps) := by
  induction steps generalizing bench w past with
  | nil => exact ⟨w, h, by simpa [turns] using start⟩
  | cons step steps ih =>
      have later := fun w past cursor pool own held member =>
        turn w past cursor pool own held (List.mem_cons_of_mem step member)
      rw [after, turns]
      rcases step_cases h step with ⟨own, rfl, had, next⟩ | ⟨had, next⟩
      · rw [had, Option.toList_some, ← List.append_assoc]
        exact ih later _ next (turn _ _ _ _ _ start List.mem_cons_self)
      · rw [had, Option.toList_none, List.nil_append]
        exact ih later past next start

/-- A step leaves out a writer that is not there, or it opens it. -/
theorem step_absent [Host] (h : bench.writers[number]? = none) (step : Step) :
    bench.turn? number step = none ∧
      ((bench.step step).2.writers[number]? = none ∨ ∃ schema sink,
        (bench.step step).2.writers[number]? = some (Writer.ofPool bench.pool schema sink).1) := by
  have bound : bench.writers.length ≤ number := List.getElem?_eq_none_iff.mp h
  cases step with
  | bind page => exact ⟨rfl, .inl h⟩
  | advance => exact ⟨rfl, .inl h⟩
  | isNull column => exact ⟨rfl, .inl h⟩
  | read type column => exact ⟨rfl, .inl h⟩
  | closeCursor => exact ⟨rfl, .inl h⟩
  | openWriter schema sink =>
      refine ⟨rfl, ?_⟩
      rcases Nat.lt_or_eq_of_le bound with below | rfl
      · left
        apply List.getElem?_eq_none
        change (bench.writers ++ [_]).length ≤ number
        rw [List.length_append, List.length_singleton]
        omega
      · exact .inr ⟨schema, sink, openWriter_new bench schema sink⟩
  | writer other own =>
      constructor
      · rw [turn?, h]
        split <;> rfl
      · left
        apply List.getElem?_eq_none
        rw [length_writers_step]
        exact bound

/-- What holds of a writer that is opened, and what every turn of it keeps, holds of a writer that
was opened in the course of steps. -/
theorem opened_induction [Host] {keeps : Writer → List Turn → Prop}
    (opening : ∀ pool schema sink, keeps (Writer.ofPool pool schema sink).1 [])
    (turn : ∀ w past cursor pool own, keeps w past →
      keeps (stepWriter cursor pool w own).2.1
        (past ++ [⟨w, own, (stepWriter cursor pool w own).1⟩]))
    (absent : bench.writers[number]? = none) (h : (bench.after steps).writers[number]? = some w) :
    keeps w (turns number bench steps) := by
  induction steps generalizing bench with
  | nil =>
      rw [after, absent] at h
      cases h
  | cons step steps ih =>
      obtain ⟨had, next⟩ := step_absent absent step
      rw [turns, had, Option.toList_none, List.nil_append]
      rw [after] at h
      rcases next with still | ⟨schema, sink, found⟩
      · exact ih still h
      · obtain ⟨w', last, held⟩ := after_induction
          (fun w past cursor pool own kept _ => turn w past cursor pool own kept) [] found
          (opening bench.pool schema sink)
        rw [h] at last
        cases last
        exact held

end Workbench

end TypedPages
