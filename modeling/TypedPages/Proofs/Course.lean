import Mathlib.Data.List.TakeWhile
import TypedPages.Proofs.Record
import TypedPages.Transaction

/-!
# The course of a source

Seen from a schema and the columns that are retained, a source delivers records that can go
through until its first fault. The fault is a record that cannot go through or a failure of the
source itself; a source without one ends with its last page.
-/

namespace TypedPages

variable {input : Schema} {retains keeps : String → Bool} {source : Source} {good : List Record}
variable {ending : Option Error} {pulled : Nat}

/-- The records that come before the first fault of a source, the error of that fault if there is
one, and the number of pages that are pulled until then. A faulty page is pulled; a page that the
source fails to deliver is not. -/
inductive Course [Host] (input : Schema) (retains : String → Bool) :
    Source → List Record → Option Error → Nat → Prop where
  | complete {pages : List Page}
      (clean : ∀ record ∈ pages.flatten, input.Admits retains record) :
      Course input retains ⟨pages, none⟩ pages.flatten none pages.length
  | broken {pages : List Page} {failure : Failure}
      (clean : ∀ record ∈ pages.flatten, input.Admits retains record) :
      Course input retains ⟨pages, some failure⟩ pages.flatten (some (.failure failure))
        pages.length
  | faulty {before after : List Page} {good rest : List Record} {bad : Record} {v : Violation}
      {failure : Option Failure}
      (clean : ∀ record ∈ before.flatten ++ good, input.Admits retains record)
      (fault : input.fault? retains good.length bad = some v) :
      Course input retains ⟨before ++ (good ++ bad :: rest) :: after, failure⟩
        (before.flatten ++ good) (some v.raised) (before.length + 1)

namespace Course

variable [Host]

/-- The records before the first fault can go through. -/
theorem admits (h : Course input retains source good ending pulled) :
    ∀ record ∈ good, input.Admits retains record := by
  cases h <;> assumption

/-- They are the longest part at the front of which this is true. -/
theorem eq_takeWhile (h : Course input retains source good ending pulled) :
    good = source.pages.flatten.takeWhile (input.Admits retains ·) := by
  cases h with
  | complete clean =>
      exact (List.takeWhile_eq_self_iff.mpr fun record member =>
        decide_eq_true (clean record member)).symm
  | broken clean =>
      exact (List.takeWhile_eq_self_iff.mpr fun record member =>
        decide_eq_true (clean record member)).symm
  | @faulty before after good rest bad v _ clean fault =>
      have stops : ¬ input.Admits retains bad := by
        rw [← Schema.fault?_eq_none_iff good.length, fault]
        exact Option.some_ne_none v
      have split : (before ++ (good ++ bad :: rest) :: after).flatten =
          before.flatten ++ good ++ bad :: (rest ++ after.flatten) := by simp
      rw [split, List.takeWhile_append_of_pos fun record member =>
        decide_eq_true (clean record member), List.takeWhile_cons_of_neg (by simpa using stops),
        List.append_nil]

/-- A source without a fault has nothing behind its records. -/
theorem eq_of_none (h : Course input retains source good none pulled) :
    source.failure = none ∧ source.pages.flatten = good ∧ source.pages.length = pulled := by
  cases h
  exact ⟨rfl, rfl, rfl⟩

/-- Every source takes some course. -/
theorem exists_course (input : Schema) (retains : String → Bool) (source : Source) :
    ∃ good ending pulled, Course input retains source good ending pulled := by
  obtain ⟨pages, failure⟩ := source
  cases found : pages.flatten.find? fun record => !decide (input.Admits retains record) with
  | none =>
      have clean (record : Record) (member : record ∈ pages.flatten) :
          input.Admits retains record := by
        simpa using List.find?_eq_none.mp found record member
      cases failure with
      | none => exact ⟨_, _, _, complete clean⟩
      | some failure => exact ⟨_, _, _, broken clean⟩
  | some bad =>
      obtain ⟨stops, before, good, rest, after, rfl, early, late⟩ :=
        List.find?_flatten_eq_some_iff.mp found
      obtain ⟨v, fault⟩ :=
        Schema.exists_fault?_of_not_admits (by simpa using stops) good.length
      refine ⟨_, _, _, faulty (fun record member => ?_) fault⟩
      rcases List.mem_append.mp member with member | member
      · obtain ⟨page, hpage, hrecord⟩ := List.mem_flatten.mp member
        simpa using early page hpage record hrecord
      · simpa using late record member

/-- Only the names that the schema has matter. -/
theorem congr (h : Course input retains source good ending pulled)
    (agree : ∀ f ∈ input.fields, retains f.name = keeps f.name) :
    Course input keeps source good ending pulled := by
  have clean := h.admits
  simp only [Schema.admits_congr agree] at clean
  cases h with
  | complete => exact complete clean
  | broken => exact broken clean
  | faulty _ fault => exact faulty clean (Schema.fault?_congr agree ▸ fault)

end Course

end TypedPages
