import TypedPages.Proofs.Chain

/-!
# Removing and keeping the same columns

To remove some columns and to keep just these parts a table in two. Each column goes to one of the
sides, and from what the two sides deliver each record can be put together again.
-/

namespace TypedPages

namespace LookupTable

/-- Every column has a place on exactly one of two sides. -/
def Parts (left right : LookupTable) : Prop :=
  List.Forall₂ (fun place other => place.isSome ≠ other.isSome) left right

/-- Under each column the cell of the side on which the column has a place. -/
def weave (left right : LookupTable) (removed kept : Record) : List (Option Cell) :=
  List.zipWith
    (fun
      | some place, _ => removed[place]?
      | none, some place => kept[place]?
      | none, none => none)
    left right

variable {left right : LookupTable} {i : Nat}

theorem Parts.at (parts : left.Parts right) (inside : i < left.length) :
    (∃ j, left[i]? = some (some j) ∧ right[i]? = some none) ∨
      (left[i]? = some none ∧ ∃ j, right[i]? = some (some j)) := by
  obtain ⟨lengths, entries⟩ := List.forall₂_iff_get.mp parts
  have inside' : i < right.length := lengths ▸ inside
  have here := entries i inside inside'
  rw [List.get_eq_getElem, List.get_eq_getElem] at here
  rw [List.getElem?_eq_getElem inside, List.getElem?_eq_getElem inside']
  cases place : left[i] with
  | some j =>
      cases other : right[i] with
      | some k => simp [place, other] at here
      | none => exact .inl ⟨j, rfl, rfl⟩
  | none =>
      cases other : right[i] with
      | some k => exact .inr ⟨rfl, k, rfl⟩
      | none => simp [place, other] at here

end LookupTable

namespace Schema

variable {input left right : Schema} {first second : LookupTable} {record : Record}

/-- A record is restored from its two sides. -/
theorem weave_rearrange (lookup : input.lookupTable left = .ok first)
    (lookup' : input.lookupTable right = .ok second) (parts : first.Parts second)
    (width : record.length = input.size) :
    first.weave second (input.rearrange left record) (input.rearrange right record) =
      record.map some := by
  have entries : record.length = first.length := by
    rw [length_lookupTable lookup, width]
  refine List.ext_getElem? fun i => ?_
  rw [LookupTable.weave, List.getElem?_zipWith, List.getElem?_map]
  by_cases inside : i < first.length
  · have cell := List.getElem?_eq_getElem (entries ▸ inside)
    rcases parts.at inside with ⟨j, place, other⟩ | ⟨place, k, other⟩
    · have found := getElem?_rearrange lookup width place
      simp only [place, other, found, cell, Option.map_some]
    · have found := getElem?_rearrange lookup' width other
      simp only [place, other, found, cell, Option.map_some]
  · have beyond : first.length ≤ i := Nat.le_of_not_lt inside
    have absent : record[i]? = none := List.getElem?_eq_none (entries ▸ beyond)
    rw [List.getElem?_eq_none beyond, absent]
    rfl

/-- Tables to schemas of which just one has each name part the columns. -/
theorem parts_of_has (lookup : input.lookupTable left = .ok first)
    (lookup' : input.lookupTable right = .ok second)
    (apart : ∀ f ∈ input.fields, left.has f.name ≠ right.has f.name) : first.Parts second := by
  obtain ⟨-, rfl⟩ := lookupTable_eq_ok_iff.mp lookup
  obtain ⟨-, rfl⟩ := lookupTable_eq_ok_iff.mp lookup'
  rw [LookupTable.Parts, List.forall₂_map_left_iff, List.forall₂_map_right_iff, List.forall₂_same]
  intro f hf
  rw [isSome_findIdx?_name, isSome_findIdx?_name]
  exact apart f hf

end Schema

namespace Selection

/-- Removes the columns of the names. -/
def removing (names : List String) (accept : Bool) : Selection :=
  ⟨some names, none, accept⟩

/-- Keeps just the columns of the names. -/
def keeping (names : List String) (accept : Bool) : Selection :=
  ⟨none, some names, accept⟩

/-- To keep columns is to retain those that are not retained when they are removed. -/
theorem retains_keeping (names : List String) (accept accept' : Bool) (name : String) :
    (keeping names accept').retains name = !(removing names accept).retains name :=
  (Bool.not_not (names.contains name)).symm

end Selection

namespace Projection

variable {input : Schema} {s : Selection} {p q : Projection} {names : List String}
variable {accept accept' : Bool}

section

variable (hp : resolve input (.removing names accept) = .ok p)
variable (hq : resolve input (.keeping names accept') = .ok q)
include hp hq

/-- Both sides report the same names as unmatched. -/
theorem unmatched_removing_keeping : p.unmatched = q.unmatched := by
  obtain ⟨hits, matched⟩ := exists_matchNames_of_resolve hp rfl
  obtain ⟨hits', matched'⟩ := exists_matchNames_of_resolve hq rfl
  rw [Schema.misses_eq matched, Schema.misses_eq matched']

/-- The two sides have every field of the input once. -/
theorem fields_removing_keeping : (p.output.fields ++ q.output.fields).Perm input.fields := by
  obtain ⟨removed, -⟩ := of_resolve hp
  obtain ⟨kept, -⟩ := of_resolve hq
  simp only [removed, kept, Selection.retains_keeping names accept accept']
  exact List.filter_append_perm _ _

theorem parts_removing_keeping : p.lookup.Parts q.lookup := by
  obtain ⟨removed, lookup⟩ := of_resolve hp
  obtain ⟨kept, lookup'⟩ := of_resolve hq
  apply Schema.parts_of_has lookup lookup'
  intro f hf
  rw [Schema.has_of_fields_eq removed hf, Schema.has_of_fields_eq kept hf,
    Selection.retains_keeping names accept accept']
  exact Bool.self_ne_not _

end

end Projection

namespace Transaction

/-- A stage completes over records that are well-typed in all columns, and it delivers each of
them rearranged for its output schema. -/
theorem Stage.run_of_clean [Host] {input : Schema} {s : Selection} {p : Projection}
    {pages : List Page} (stage : Stage s) (resolved : Projection.resolve input s = .ok p)
    (clean : ∀ record ∈ pages.flatten, input.Admits (fun _ => true) record) :
    (stage.run input pages).outcome =
        .ok ⟨stage.id, p.output, pages.length, pages.flatten.length⟩ ∧
      (stage.delivers input pages).flatten = pages.flatten.map (input.rearrange p.output) := by
  have retained : ∀ record ∈ pages.flatten, input.Admits s.retains record := by
    intro record member
    exact (clean record member).mono fun _ _ => rfl
  obtain ⟨outcome, delivered⟩ := stage.run_spec resolved retained
  refine ⟨outcome, ?_⟩
  rw [delivered, Page.flatten_paged stage.pool.pageSize_pos,
    Schema.map_rearrange_eq_project (Projection.of_resolve resolved).1 retained]

/-- To remove columns and to keep the same columns parts a table without loss, if names that no
column has are accepted or do not occur. Every column has a place on exactly one side, the two
output schemas have every field once, and the same names are reported as unmatched. If the same
pages of well-typed records go through two transactions, with whatever page sizes, then both
complete, and from the records that they deliver each input record is woven together again. -/
theorem removed_and_kept_weave [Host] (input : Schema) (names : List String) (accept accept' : Bool)
    (known : accept = true ∧ accept' = true ∨ ∀ name ∈ names, input.has name = true) :
    ∃ p q, Projection.resolve input (.removing names accept) = .ok p ∧
      Projection.resolve input (.keeping names accept') = .ok q ∧
      p.lookup.length = input.size ∧ p.lookup.Parts q.lookup ∧
      (p.output.fields ++ q.output.fields).Perm input.fields ∧ p.unmatched = q.unmatched ∧
      ∀ (remover : Stage (.removing names accept)) (keeper : Stage (.keeping names accept'))
          (pages : List Page), (∀ record ∈ pages.flatten, input.Admits (fun _ => true) record) →
        (remover.run input pages).outcome =
            .ok ⟨remover.id, p.output, pages.length, pages.flatten.length⟩ ∧
          (keeper.run input pages).outcome =
            .ok ⟨keeper.id, q.output, pages.length, pages.flatten.length⟩ ∧
          (remover.delivers input pages).flatten.length = pages.flatten.length ∧
          (keeper.delivers input pages).flatten.length = pages.flatten.length ∧
          List.zipWith (p.lookup.weave q.lookup) (remover.delivers input pages).flatten
            (keeper.delivers input pages).flatten = pages.flatten.map (·.map some) := by
  have applies : (Selection.removing names accept).Applies input := by
    refine ⟨.remove, names, rfl, fun name member => ?_⟩
    exact known.imp And.left fun present => present name member
  have applies' : (Selection.keeping names accept').Applies input := by
    refine ⟨.keep, names, rfl, fun name member => ?_⟩
    exact known.imp And.right fun present => present name member
  obtain ⟨p, hp⟩ := Projection.exists_resolve_iff.mpr applies
  obtain ⟨q, hq⟩ := Projection.exists_resolve_iff.mpr applies'
  obtain ⟨-, lookup⟩ := Projection.of_resolve hp
  obtain ⟨-, lookup'⟩ := Projection.of_resolve hq
  have parts := Projection.parts_removing_keeping hp hq
  refine ⟨p, q, hp, hq, Schema.length_lookupTable lookup, parts,
    Projection.fields_removing_keeping hp hq, Projection.unmatched_removing_keeping hp hq, ?_⟩
  intro remover keeper pages clean
  obtain ⟨outcome, left⟩ := remover.run_of_clean hp clean
  obtain ⟨outcome', right⟩ := keeper.run_of_clean hq clean
  refine ⟨outcome, outcome', by rw [left, List.length_map], by rw [right, List.length_map], ?_⟩
  rw [left, right, List.zipWith_map, List.zipWith_self]
  apply List.map_congr_left
  intro record member
  exact Schema.weave_rearrange lookup lookup' parts (clean record member).1

namespace Stage.Sample

/-- Names a column twice, and one that no column has. -/
def chosen : List String := ["id", "ghost", "score", "id"]

def remover : Stage (.removing chosen true) :=
  .plain (.removing chosen true) Transaction.Sample.pool

def keeper : Stage (.keeping chosen true) :=
  .plain (.keeping chosen true) (.fresh 1 3 (by decide))

end Stage.Sample

/-- Three records are cut into pages of two and of three, and put together again. -/
theorem sample_weave :
    (Stage.Sample.remover.delivers Stage.Sample.input Stage.Sample.pages).flatten.length = 3 ∧
    List.zipWith
      (LookupTable.weave [none, some 0, some 1, none] [some 0, none, none, some 1])
      (Stage.Sample.remover.delivers Stage.Sample.input Stage.Sample.pages).flatten
      (Stage.Sample.keeper.delivers Stage.Sample.input Stage.Sample.pages).flatten =
        Stage.Sample.pages.flatten.map (·.map some) := by
  obtain ⟨p, q, hp, hq, -, -, -, -, runs⟩ := removed_and_kept_weave Stage.Sample.input
    Stage.Sample.chosen true true (.inl ⟨rfl, rfl⟩)
  have one : Projection.resolve Stage.Sample.input (.removing Stage.Sample.chosen true) =
      .ok ⟨.remove, ⟨[⟨"name", .string⟩, ⟨"active", .boolean⟩], by decide⟩,
        [none, some 0, some 1, none], ["ghost"]⟩ := rfl
  have two : Projection.resolve Stage.Sample.input (.keeping Stage.Sample.chosen true) =
      .ok ⟨.keep, ⟨[⟨"id", .long⟩, ⟨"score", .long⟩], by decide⟩,
        [some 0, none, none, some 1], ["ghost"]⟩ := rfl
  rw [one] at hp
  cases hp
  rw [two] at hq
  cases hq
  obtain ⟨-, -, count, -, woven⟩ := runs Stage.Sample.remover Stage.Sample.keeper
    Stage.Sample.pages (by decide)
  exact ⟨count, woven⟩

end Transaction

end TypedPages
