import Mathlib.Data.List.Nodup
import Mathlib.Data.List.ReduceOption
import TypedPages.Projection
import TypedPages.Proofs.Answer
import TypedPages.Proofs.Schema

/-!
# Lookup tables

One schema projects onto another if every field of the other is one of its own; the order may
differ. Exactly then there is a lookup table, and it pairs the positions of equal fields: every
position of the output is paired once. Otherwise the first output field that is none of the input
is reported.
-/

namespace TypedPages

namespace Schema

section

variable {input output : Schema} {table : LookupTable} {f : Field} {i j : Nat}

theorem checkOutputColumn_of_absent {c : Column} (absent : c.name ∉ input.names) :
    input.checkOutputColumn c = .error (.violation (.strangerColumn c.name)) := by
  cases found : input.find c.name with
  | error missing => rw [checkOutputColumn, found]
  | ok own =>
      obtain ⟨i, f, hf, same, -⟩ := find_eq_ok_iff.mp found
      exact absurd (mem_names_iff.mpr ⟨i, f, hf, same⟩) absent

theorem checkOutputColumn_of_present {c : Column} {type : ColumnType}
    (present : ⟨c.name, type⟩ ∈ input.fields) : input.checkOutputColumn c =
      if type = c.type then .ok ()
      else .error (.violation (.retypedColumn c.name c.type type)) := by
  obtain ⟨i, hi⟩ := List.mem_iff_getElem?.mp present
  have found : input.find c.name = .ok (.ofField ⟨c.name, type⟩ i) :=
    find_eq_ok_iff.mpr ⟨i, _, hi, rfl, rfl⟩
  rw [checkOutputColumn, found]
  rfl

theorem checkOutputColumn_eq_ok_iff {c : Column} :
    input.checkOutputColumn c = .ok () ↔ c.field ∈ input.fields := by
  constructor
  · intro passed
    by_cases known : c.name ∈ input.names
    · obtain ⟨⟨name, type⟩, present, rfl⟩ := List.mem_map.mp known
      rw [checkOutputColumn_of_present present] at passed
      split at passed <;> cases passed
      rename_i same
      subst same
      exact present
    · rw [checkOutputColumn_of_absent known] at passed
      cases passed
  · intro member
    exact (checkOutputColumn_of_present member).trans (if_pos rfl)

/-- There is a lookup table exactly if the output has only fields of the input. -/
theorem lookupTable_eq_ok_iff : input.lookupTable output = .ok table ↔
    output.fields ⊆ input.fields ∧
      table = input.fields.map fun f => output.columns.findIdx? (·.name == f.name) := by
  have entries : (input.columns.map fun c => output.columns.findIdx? (·.name == c.name)) =
      input.fields.map fun f => output.columns.findIdx? (·.name == f.name) := by
    refine List.ext_getElem? fun i => ?_
    rw [List.getElem?_map, List.getElem?_map, getElem?_columns]
    cases input.fields[i]? <;> rfl
  have checks : output.columns.forM input.checkOutputColumn = .ok () ↔
      output.fields ⊆ input.fields := by
    rw [forM_eq_ok_iff]
    constructor
    · intro h f hf
      obtain ⟨j, hj⟩ := List.mem_iff_getElem?.mp hf
      exact checkOutputColumn_eq_ok_iff.mp (h _ (mem_columns_iff.mpr ⟨j, f, hj, rfl⟩))
    · intro h c hc
      obtain ⟨j, f, hf, rfl⟩ := mem_columns_iff.mp hc
      exact checkOutputColumn_eq_ok_iff.mpr (h (List.mem_of_getElem? hf))
  rw [lookupTable, entries, ← checks]
  cases output.columns.forM input.checkOutputColumn <;>
    simp [bind, Except.bind, pure, Except.pure, eq_comm]

theorem length_lookupTable (h : input.lookupTable output = .ok table) :
    table.length = input.size := by
  rw [(lookupTable_eq_ok_iff.mp h).2, List.length_map, size]

/-- The table leads from the position of a field in the input to its position in the output. -/
theorem lookupTable_target_iff (h : input.lookupTable output = .ok table) :
    table[i]? = some (some j) ↔ ∃ f, input.fields[i]? = some f ∧ output.fields[j]? = some f := by
  obtain ⟨projects, rfl⟩ := lookupTable_eq_ok_iff.mp h
  rw [List.getElem?_map, Option.map_eq_some_iff]
  constructor
  · rintro ⟨f, hf, found⟩
    obtain ⟨g, hg, same⟩ := findIdx?_name_iff.mp found
    obtain ⟨k, hk⟩ := List.mem_iff_getElem?.mp (projects (List.mem_of_getElem? hg))
    obtain rfl := position_unique hf hk same.symm
    rw [hf] at hk
    cases hk
    exact ⟨f, hf, hg⟩
  · rintro ⟨f, hf, hg⟩
    exact ⟨f, hf, findIdx?_name_iff.mpr ⟨f, hg, rfl⟩⟩

/-- Every place of the output is a target: that of the field that stands there. -/
theorem exists_target (h : input.lookupTable output = .ok table)
    (hf : output.fields[j]? = some f) :
    ∃ i : Nat, input.fields[i]? = some f ∧ table[i]? = some (some j) := by
  obtain ⟨projects, -⟩ := lookupTable_eq_ok_iff.mp h
  obtain ⟨i, hi⟩ := List.mem_iff_getElem?.mp (projects (List.mem_of_getElem? hf))
  exact ⟨i, hi, (lookupTable_target_iff h).mpr ⟨f, hi, hf⟩⟩

/-- A column has a place in the output if the output has its name. -/
theorem isSome_findIdx?_name (output : Schema) (name : String) :
    (output.columns.findIdx? (·.name == name)).isSome = output.has name := by
  rw [Bool.eq_iff_iff, has_iff, Option.isSome_iff_ne_none, Ne, findIdx?_name_eq_none_iff, not_not]

/-- A field is dropped if its name does not occur in the output. -/
theorem lookupTable_dropped_iff (h : input.lookupTable output = .ok table)
    (hf : input.fields[i]? = some f) : table[i]? = some none ↔ output.has f.name = false := by
  obtain ⟨-, rfl⟩ := lookupTable_eq_ok_iff.mp h
  rw [List.getElem?_map, hf, Option.map_some, Option.some_inj, findIdx?_name_eq_none_iff,
    ← has_iff, Bool.not_eq_true]

theorem mem_fields_iff_column :
    f ∈ input.fields ↔ ∃ d ∈ input.columns, d.name = f.name ∧ d.type = f.type := by
  rw [← map_field_columns, List.mem_map]
  refine exists_congr fun d => and_congr_right fun _ => ?_
  cases f
  simp [Column.field]

/-- Why a field cannot take its cells from the input: no column has its name, or the one that has
it is of another type. -/
inductive Mismatch (input : Schema) (f : Field) : Violation → Prop
  | stranger (absent : f.name ∉ input.names) : Mismatch input f (.strangerColumn f.name)
  | retyped {type : ColumnType} (present : ⟨f.name, type⟩ ∈ input.fields) (other : type ≠ f.type) :
      Mismatch input f (.retypedColumn f.name f.type type)

theorem checkOutputColumn_eq_error_iff {c : Column} {e : Error} :
    input.checkOutputColumn c = .error e ↔ ∃ v, input.Mismatch c.field v ∧ e = .violation v := by
  constructor
  · intro refused
    by_cases known : c.name ∈ input.names
    · obtain ⟨⟨name, type⟩, present, rfl⟩ := List.mem_map.mp known
      rw [checkOutputColumn_of_present present] at refused
      split at refused <;> cases refused
      exact ⟨_, .retyped present ‹_›, rfl⟩
    · rw [checkOutputColumn_of_absent known] at refused
      cases refused
      exact ⟨_, .stranger known, rfl⟩
  · rintro ⟨v, mismatch, rfl⟩
    cases mismatch with
    | stranger absent => exact checkOutputColumn_of_absent absent
    | retyped present other => exact (checkOutputColumn_of_present present).trans (if_neg other)

/-- Without a table the first field that the input does not have is reported. -/
theorem lookupTable_eq_error_iff {e : Error} : input.lookupTable output = .error e ↔
    ∃ before f after v, output.fields = before ++ f :: after ∧ before ⊆ input.fields ∧
      input.Mismatch f v ∧ e = .violation v := by
  have checked : input.lookupTable output = .error e ↔
      output.columns.forM input.checkOutputColumn = .error e := by
    rw [lookupTable]
    cases output.columns.forM input.checkOutputColumn <;>
      simp [bind, Except.bind, pure, Except.pure]
  rw [checked, forM_eq_error_iff]
  constructor
  · rintro ⟨before, c, after, split, passes, refused⟩
    obtain ⟨v, mismatch, rfl⟩ := checkOutputColumn_eq_error_iff.mp refused
    refine ⟨before.map Column.field, c.field, after.map Column.field, v, ?_, ?_, mismatch, rfl⟩
    · rw [← map_field_columns, split, List.map_append, List.map_cons]
    · intro f hf
      obtain ⟨d, hd, rfl⟩ := List.mem_map.mp hf
      exact checkOutputColumn_eq_ok_iff.mp (passes d hd)
  · rintro ⟨before, f, after, v, split, passes, mismatch, rfl⟩
    rw [← map_field_columns] at split
    obtain ⟨early, late, columns, rfl, rest⟩ := List.map_eq_append_iff.mp split
    obtain ⟨c, later, rfl, rfl, rfl⟩ := List.map_eq_cons_iff.mp rest
    refine ⟨early, c, later, columns, fun d hd => ?_, ?_⟩
    · exact checkOutputColumn_eq_ok_iff.mpr (passes (List.mem_map_of_mem hd))
    · exact checkOutputColumn_eq_error_iff.mpr ⟨v, mismatch, rfl⟩

/-- The table pairs columns of one name. -/
theorem lookupTable_target_iff_name (h : input.lookupTable output = .ok table) :
    table[i]? = some (some j) ↔
      ∃ c d, input.columns[i]? = some c ∧ output.columns[j]? = some d ∧ c.name = d.name := by
  obtain ⟨-, rfl⟩ := lookupTable_eq_ok_iff.mp h
  simp only [List.getElem?_map, getElem?_columns, Option.map_eq_some_iff, findIdx?_name_iff]
  constructor
  · rintro ⟨f, hf, g, hg, same⟩
    exact ⟨_, _, ⟨f, hf, rfl⟩, ⟨g, hg, rfl⟩, same.symm⟩
  · rintro ⟨_, _, ⟨f, hf, rfl⟩, ⟨g, hg, rfl⟩, same⟩
    exact ⟨f, hf, g, hg, same.symm⟩

/-- The places that a table leads to are all those of the output, each of them once. -/
theorem reduceOption_lookupTable (h : input.lookupTable output = .ok table) :
    table.reduceOption.Perm (List.range output.size) := by
  have targets : table.reduceOption =
      input.names.filterMap fun name => output.columns.findIdx? (·.name == name) := by
    obtain ⟨-, rfl⟩ := lookupTable_eq_ok_iff.mp h
    rw [List.reduceOption, List.filterMap_map, names, List.filterMap_map]
    rfl
  have once : table.reduceOption.Nodup := by
    rw [targets]
    apply List.Nodup.filterMap _ input.nodup
    intro name name' j first second
    obtain ⟨f, hf, rfl⟩ := findIdx?_name_iff.mp first
    obtain ⟨g, hg, rfl⟩ := findIdx?_name_iff.mp second
    rw [hf] at hg
    cases hg
    rfl
  apply (List.perm_ext_iff_of_nodup once List.nodup_range).mpr
  intro j
  rw [List.reduceOption_mem_iff, List.mem_range]
  constructor
  · intro member
    obtain ⟨i, hi⟩ := List.mem_iff_getElem?.mp member
    obtain ⟨f, -, hf⟩ := (lookupTable_target_iff h).mp hi
    exact lt_size hf
  · intro inside
    obtain ⟨i, -, hi⟩ := exists_target h (List.getElem?_eq_getElem inside)
    exact List.mem_of_getElem? hi

end

/-- A lookup table is made exactly if every output column occurs in the input by name and type, in
whatever order; otherwise the first column for which this fails is reported, and in which way it
fails. The table has one entry per input column and pairs the columns of equal names, and every
place of the output is led to from exactly one column. -/
theorem lookupTable_pairs (input output : Schema) :
    ((∃ table, input.lookupTable output = .ok table) ↔
      ∀ c ∈ output.columns, ∃ d ∈ input.columns, d.name = c.name ∧ d.type = c.type) ∧
    (∀ e, input.lookupTable output = .error e ↔
      ∃ before f after v, output.fields = before ++ f :: after ∧ before ⊆ input.fields ∧
        input.Mismatch f v ∧ e = .violation v) ∧
    ∀ table, input.lookupTable output = .ok table →
      table.length = input.size ∧
      (∀ i j : Nat, table[i]? = some (some j) ↔
        ∃ c d, input.columns[i]? = some c ∧ output.columns[j]? = some d ∧ c.name = d.name) ∧
      table.reduceOption.Perm (List.range output.size) := by
  refine ⟨?_, fun e => lookupTable_eq_error_iff, fun table h => ?_⟩
  · simp only [lookupTable_eq_ok_iff, exists_and_left, exists_eq, and_true]
    rw [← map_field_columns output]
    refine List.forall_mem_map.trans (forall₂_congr fun c _ => ?_)
    exact mem_fields_iff_column
  · exact ⟨length_lookupTable h, fun i j => lookupTable_target_iff_name h,
      reduceOption_lookupTable h⟩

namespace Sample

def source : Schema where
  fields := [⟨"id", .long⟩, ⟨"name", .string⟩, ⟨"score", .double⟩]
  nodup := by decide

/-- Two of the columns, the other way round. -/
def target : Schema where
  fields := [⟨"score", .double⟩, ⟨"id", .long⟩]
  nodup := by decide

end Sample

/-- The columns change their places. -/
theorem sample_pairs :
    Sample.source.lookupTable Sample.target = .ok [some 1, none, some 0] ∧
      [some 1, none, some 0].reduceOption.Perm (List.range 2) := by
  have found : Sample.source.lookupTable Sample.target = .ok [some 1, none, some 0] := rfl
  obtain ⟨-, -, pairs⟩ := lookupTable_pairs Sample.source Sample.target
  exact ⟨found, (pairs _ found).2.2⟩

end Schema

end TypedPages
