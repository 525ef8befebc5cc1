import TypedPages.Proofs.Answer
import TypedPages.Schema

/-!
# Columns of a schema

Names are distinct, so a name determines a position, and what is found by name is the column at
that position. Fields with distinct names always make a schema.
-/

namespace TypedPages

namespace Column

@[simp] theorem name_ofField (f : Field) (index : Int) : (ofField f index).name = f.name := rfl

@[simp] theorem index_ofField (f : Field) (index : Int) : (ofField f index).index = index := rfl

@[simp] theorem type_ofField (f : Field) (index : Int) : (ofField f index).type = f.type := rfl

@[simp] theorem field_ofField (f : Field) (index : Int) : (ofField f index).field = f := rfl

end Column

namespace Schema

variable {s t : Schema} {f g : Field} {i j : Nat} {c : Column} {name : String}

theorem mem_columns_iff : c ∈ s.columns ↔ ∃ (i : Nat) (f : Field),
    s.fields[i]? = some f ∧ c = .ofField f i := by
  constructor
  · intro h
    obtain ⟨i, hi⟩ := List.mem_iff_getElem?.mp h
    rw [getElem?_columns] at hi
    obtain ⟨f, hf, rfl⟩ := Option.map_eq_some_iff.mp hi
    exact ⟨i, f, hf, rfl⟩
  · rintro ⟨i, f, hf, rfl⟩
    exact List.mem_of_getElem? (i := i) (by rw [getElem?_columns, hf, Option.map_some])

@[simp] theorem map_field_columns (s : Schema) : s.columns.map Column.field = s.fields := by
  refine List.ext_getElem? fun i => ?_
  rw [List.getElem?_map, getElem?_columns]
  cases s.fields[i]? <;> rfl

theorem lt_size (h : s.fields[i]? = some f) : i < s.size :=
  (List.getElem?_eq_some_iff.mp h).1

theorem mem_names_iff : name ∈ s.names ↔
    ∃ (i : Nat) (f : Field), s.fields[i]? = some f ∧ f.name = name := by
  constructor
  · intro h
    obtain ⟨f, hf, rfl⟩ := List.mem_map.mp h
    obtain ⟨i, hi⟩ := List.mem_iff_getElem?.mp hf
    exact ⟨i, f, hi, rfl⟩
  · rintro ⟨i, f, hi, rfl⟩
    exact List.mem_map_of_mem (List.mem_of_getElem? hi)

theorem position_unique (hf : s.fields[i]? = some f) (hg : s.fields[j]? = some g)
    (h : f.name = g.name) : i = j := by
  have bound : i < (s.fields.map Field.name).length := by
    simpa [size] using lt_size hf
  refine (List.getElem?_inj bound s.nodup).mp ?_
  simp only [List.getElem?_map, hf, hg, Option.map_some, h]

theorem columnAt?_of_field (h : s.fields[i]? = some f) : s.columnAt? i = some (.ofField f i) := by
  rw [columnAt?_natCast, getElem?_columns, h, Option.map_some]

/-- The position of a name, searched from the front. -/
theorem findIdx?_name_iff : s.columns.findIdx? (·.name == name) = some j ↔
    ∃ f, s.fields[j]? = some f ∧ f.name = name := by
  rw [List.findIdx?_eq_some_iff_getElem]
  have column {k : Nat} (hk : k < s.columns.length) :
      ∃ g, s.fields[k]? = some g ∧ s.columns[k] = .ofField g k := by
    have entry := List.getElem?_eq_getElem hk
    rw [getElem?_columns] at entry
    obtain ⟨g, hg, same⟩ := Option.map_eq_some_iff.mp entry
    exact ⟨g, hg, same.symm⟩
  constructor
  · rintro ⟨hj, found, -⟩
    obtain ⟨f, hf, same⟩ := column hj
    rw [same] at found
    exact ⟨f, hf, beq_iff_eq.mp found⟩
  · rintro ⟨f, hf, rfl⟩
    have hj : j < s.columns.length := by simpa using lt_size hf
    refine ⟨hj, ?_, ?_⟩
    · obtain ⟨g, hg, same⟩ := column hj
      rw [hf] at hg
      cases hg
      rw [same]
      exact beq_self_eq_true _
    · intro k hk found
      obtain ⟨g, hg, same⟩ := column (Nat.lt_trans hk hj)
      rw [same] at found
      exact Nat.ne_of_lt hk (position_unique hg hf (beq_iff_eq.mp found))

theorem findIdx?_name_eq_none_iff : s.columns.findIdx? (·.name == name) = none ↔
    name ∉ s.names := by
  rw [List.findIdx?_eq_none_iff, mem_names_iff]
  constructor
  · rintro h ⟨i, f, hf, rfl⟩
    simpa using h _ (mem_columns_iff.mpr ⟨i, f, hf, rfl⟩)
  · intro h c hc
    obtain ⟨i, f, hf, rfl⟩ := mem_columns_iff.mp hc
    exact beq_eq_false_iff_ne.mpr fun same => h ⟨i, f, hf, same⟩

/-- The column of a name is the one at the position of the name. -/
theorem find_eq_ok_iff : s.find name = .ok c ↔
    ∃ (i : Nat) (f : Field), s.fields[i]? = some f ∧ f.name = name ∧ c = .ofField f i := by
  rw [find]
  constructor
  · split <;> intro h
    · cases h
      rename_i found
      obtain ⟨i, f, hf, rfl⟩ := mem_columns_iff.mp (List.mem_of_find?_eq_some found)
      exact ⟨i, f, hf, by simpa using List.find?_some found, rfl⟩
    · cases h
  · rintro ⟨i, f, hf, rfl, rfl⟩
    split <;> rename_i found
    · obtain ⟨j, g, hg, rfl⟩ := mem_columns_iff.mp (List.mem_of_find?_eq_some found)
      have same : g.name = f.name := by simpa using List.find?_some found
      obtain rfl := position_unique hg hf same
      rw [hf] at hg
      cases hg
      rfl
    · have missed := List.find?_eq_none.mp found _ (mem_columns_iff.mpr ⟨i, f, hf, rfl⟩)
      simp at missed

/-- Fields with new names can be appended to a schema. -/
theorem foldlM_append {fields : List Field} (h : ((s.fields ++ fields).map Field.name).Nodup) :
    fields.foldlM append s = .ok ⟨s.fields ++ fields, h⟩ := by
  induction fields generalizing s with
  | nil => simp [pure, Except.pure]
  | cons f fields ih =>
      have fresh : f.name ∉ s.names := by
        rw [List.map_append, List.map_cons] at h
        intro member
        exact (List.nodup_append.mp h).2.2 _ member _ List.mem_cons_self rfl
      have step : s.append f = .ok ⟨s.fields ++ [f], by
          refine h.sublist ?_
          simp⟩ := by
        simp [append, fresh]
      rw [List.foldlM_cons, step]
      simpa [bind, Except.bind] using ih (s := ⟨s.fields ++ [f], _⟩) (by simpa using h)

/-- Fields with distinct names make a schema. -/
theorem ofFields_of_nodup {fields : List Field} (h : (fields.map Field.name).Nodup) :
    ofFields fields = .ok ⟨fields, h⟩ :=
  foldlM_append (s := empty) h

theorem fields_of_append (h : s.append f = .ok t) : t.fields = s.fields ++ [f] := by
  rw [append] at h
  split at h
  · cases h
  · cases h
    rfl

/-- A schema to which fields are appended has them behind its own. -/
theorem fields_of_foldlM_append {fields : List Field} (h : fields.foldlM append s = .ok t) :
    t.fields = s.fields ++ fields := by
  induction fields generalizing s with
  | nil =>
      cases h
      exact (List.append_nil t.fields).symm
  | cons f fields ih =>
      rw [List.foldlM_cons, bind_eq_ok_iff] at h
      obtain ⟨next, appended, rest⟩ := h
      rw [ih rest, fields_of_append appended, List.append_assoc]
      rfl

/-- What is built from fields has these fields. -/
theorem ofFields_eq_ok_iff {fields : List Field} : ofFields fields = .ok s ↔ s.fields = fields := by
  constructor
  · exact fields_of_foldlM_append (s := empty)
  · rintro rfl
    exact ofFields_of_nodup s.nodup

end Schema

end TypedPages
