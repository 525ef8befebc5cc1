import TypedPages.Proofs.Record
import TypedPages.Proofs.Resolution

/-!
# One selection after another

A second selection is resolved against what the first one leaves. Columns that either of them
drops are gone, the others stay as they are and in their order, and the lookup tables lead one
after the other to where each column ends up. Records follow their columns: projecting twice is
projecting once to the columns that both selections retain.
-/

namespace TypedPages

namespace LookupTable

/-- Where the second table leads from the places that the first one leads to. A column that either
table drops is dropped. -/
def andThen (first second : LookupTable) : LookupTable :=
  first.map (·.bind fun place => second[place]?.join)

end LookupTable

namespace Selection

/-- Exactly one list is given, and the names in it that no column has are passed over. -/
structure Tolerant (s : Selection) : Prop where
  accepts : s.acceptUnmatched = true
  oneList : s.remove.isSome ≠ s.keep.isSome

instance (s : Selection) : Decidable s.Tolerant :=
  decidable_of_iff (s.acceptUnmatched = true ∧ s.remove.isSome ≠ s.keep.isSome)
    ⟨fun ⟨accepts, oneList⟩ => ⟨accepts, oneList⟩, fun ⟨accepts, oneList⟩ => ⟨accepts, oneList⟩⟩

/-- A tolerant selection applies to every schema. -/
theorem Tolerant.applies {s : Selection} (h : s.Tolerant) (input : Schema) : s.Applies input := by
  obtain ⟨remove, keep, acceptUnmatched⟩ := s
  obtain ⟨accepts, oneList⟩ := h
  have known (names : List String) :
      ∀ name ∈ names, acceptUnmatched = true ∨ input.has name = true :=
    fun _ _ => .inl accepts
  cases remove with
  | none =>
      cases keep with
      | none => exact absurd rfl oneList
      | some names => exact ⟨.keep, names, rfl, known names⟩
  | some names =>
      cases keep with
      | none => exact ⟨.remove, names, rfl, known names⟩
      | some _ => exact absurd rfl oneList

end Selection

namespace Schema

variable {input middle output : Schema} {first second : LookupTable} {place : Nat}

/-- Every place that a table leads to is one that a table of the next schema starts from. -/
theorem lt_length_lookupTable (hfirst : input.lookupTable middle = .ok first)
    (hsecond : middle.lookupTable output = .ok second) (h : some place ∈ first) :
    place < second.length := by
  obtain ⟨i, hi⟩ := List.mem_iff_getElem?.mp h
  obtain ⟨f, -, hf⟩ := (lookupTable_target_iff hfirst).mp hi
  rw [length_lookupTable hsecond]
  exact lt_size hf

/-- Lookup tables can be followed one after the other. -/
theorem lookupTable_trans (hfirst : input.lookupTable middle = .ok first)
    (hsecond : middle.lookupTable output = .ok second) :
    input.lookupTable output = .ok (first.andThen second) := by
  obtain ⟨inner, rfl⟩ := lookupTable_eq_ok_iff.mp hfirst
  obtain ⟨outer, rfl⟩ := lookupTable_eq_ok_iff.mp hsecond
  refine lookupTable_eq_ok_iff.mpr ⟨List.Subset.trans outer inner, ?_⟩
  rw [LookupTable.andThen, List.map_map]
  apply List.map_congr_left
  intro f _
  rw [Function.comp_apply]
  -- A field that reaches the middle stands there under the name by which the second table looks.
  cases found : middle.columns.findIdx? (·.name == f.name) with
  | none =>
      have absent : f.name ∉ middle.names := findIdx?_name_eq_none_iff.mp found
      have dropped : f.name ∉ output.names := by
        intro member
        exact absent (List.map_subset Field.name outer member)
      exact (findIdx?_name_eq_none_iff.mpr dropped).symm
  | some place =>
      obtain ⟨g, hg, same⟩ := findIdx?_name_iff.mp found
      rw [Option.bind_some, List.getElem?_map, hg, Option.map_some, Option.join_some, same]

/-! ## Records -/

variable {retains keeps : String → Bool} {record : Record}

theorem Admits.mono (h : input.Admits retains record)
    (fewer : ∀ name, keeps name = true → retains name = true) : input.Admits keeps record := by
  obtain ⟨width, suits⟩ := h
  refine ⟨width, ?_⟩
  intro entry member kept
  exact suits entry member (fewer entry.1.name kept)

section

variable (fields : output.fields = input.fields.filter (retains ·.name))
variable (width : record.length = input.size)
include fields width

/-- The cells that are left stand under the columns that are left. -/
theorem map_fst_retained :
    ((input.fields.zip record).filter fun (f, _) => retains f.name).map Prod.fst =
      output.fields := by
  have whole : (input.fields.zip record).map Prod.fst = input.fields :=
    List.map_fst_zip (Nat.le_of_eq width.symm)
  rw [fields, ← whole, List.filter_map, whole]
  rfl

theorem zip_project : output.fields.zip (input.project retains record) =
    (input.fields.zip record).filter fun (f, _) => retains f.name :=
  (List.zip_of_prod (map_fst_retained fields width) rfl).symm

theorem length_project : (input.project retains record).length = output.size := by
  rw [size, ← map_fst_retained fields width, project, List.length_map, List.length_map]

/-- Projecting what a projection has left comes to one projection. -/
theorem project_project : output.project keeps (input.project retains record) =
    input.project (fun name => retains name && keeps name) record := by
  rw [project, zip_project fields width, List.filter_filter, project]
  simp only [Bool.and_comm]

end

/-- If a record can go through, what is left of it can go on. -/
theorem Admits.project (h : input.Admits retains record)
    (fields : output.fields = input.fields.filter (retains ·.name)) :
    output.Admits keeps (input.project retains record) := by
  obtain ⟨width, suits⟩ := h
  refine ⟨length_project fields width, ?_⟩
  intro entry member _
  rw [zip_project fields width] at member
  obtain ⟨own, retained⟩ := List.mem_filter.mp member
  exact suits entry own retained

end Schema

namespace Projection

variable {input : Schema} {s t : Selection} {p q : Projection}

/-- Two selections that are resolved one after the other leave the fields that both retain, and
their lookup tables can be followed to them. -/
theorem of_resolve_resolve (hp : resolve input s = .ok p) (hq : resolve p.output t = .ok q) :
    q.output.fields = input.fields.filter (fun f => s.retains f.name && t.retains f.name) ∧
      input.lookupTable q.output = .ok (p.lookup.andThen q.lookup) := by
  obtain ⟨inner, first⟩ := of_resolve hp
  obtain ⟨outer, second⟩ := of_resolve hq
  refine ⟨?_, Schema.lookupTable_trans first second⟩
  rw [outer, inner, List.filter_filter]
  simp only [Bool.and_comm]

end Projection

end TypedPages
