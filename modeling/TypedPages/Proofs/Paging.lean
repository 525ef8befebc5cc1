import Mathlib.Data.List.Induction
import TypedPages.Cell

/-!
# Cutting records into pages

Records that arrive one by one fill pages of a fixed size. At any moment the records so far are
the full pages and a rest that is shorter than a page; the rest becomes a last page of its own
when no more records follow. How the records arrived leaves no trace in the pages.
-/

namespace TypedPages

namespace Page

variable {size : Nat}

/-- The full pages that records fill, in order. -/
def full (size : Nat) (records : List Record) : List Page :=
  (List.range (records.length / size)).map fun i => (records.drop (i * size)).take size

/-- The records behind the last full page. -/
def rest (size : Nat) (records : List Record) : List Record :=
  records.drop (records.length / size * size)

/-- All records in pages: the full ones and, if records are left over, one page for those. -/
def paged (size : Nat) (records : List Record) : List Page :=
  full size records ++ if (rest size records).isEmpty then [] else [rest size records]

@[simp] theorem full_nil : full size [] = [] := by
  simp [full]

@[simp] theorem rest_nil : rest size [] = [] := by
  simp [rest]

@[simp] theorem length_full (size : Nat) (records : List Record) :
    (full size records).length = records.length / size := by
  simp [full]

theorem length_rest (size : Nat) (records : List Record) :
    (rest size records).length = records.length % size := by
  have := Nat.div_add_mod records.length size
  rw [Nat.mul_comm] at this
  simp only [rest, List.length_drop]
  omega

theorem length_rest_lt (pos : 0 < size) (records : List Record) :
    (rest size records).length < size := by
  rw [length_rest]
  exact Nat.mod_lt _ pos

/-- Every full page ends within the records that filled it. -/
theorem full_bound {i n : Nat} (h : i < n / size) : i * size + size ≤ n := by
  have whole : (i + 1) * size ≤ n / size * size := Nat.mul_le_mul_right size h
  have below := Nat.div_mul_le_self n size
  rw [Nat.succ_mul] at whole
  omega

theorem length_of_mem_full {records : List Record} {page : Page} (h : page ∈ full size records) :
    page.length = size := by
  obtain ⟨i, hi, rfl⟩ := List.mem_map.mp h
  have := full_bound (List.mem_range.mp hi)
  simp only [List.length_take, List.length_drop]
  omega

/-- Records that arrive later leave the pages that are already full as they are. -/
theorem full_prefix_append (size : Nat) (records later : List Record) :
    full size records <+: full size (records ++ later) := by
  have count : records.length / size ≤ (records ++ later).length / size :=
    Nat.div_le_div_right (by simp)
  obtain ⟨more, hmore⟩ := Nat.exists_eq_add_of_le count
  refine ⟨((List.range more).map fun i => (records ++ later).drop
    ((records.length / size + i) * size) |>.take size), ?_⟩
  rw [full, full, hmore, List.range_add, List.map_append, List.map_map]
  congr 1
  refine List.map_congr_left fun i hi => ?_
  have := full_bound (List.mem_range.mp hi)
  rw [List.drop_append_of_le_length (by omega),
    List.take_append_of_le_length (by simp only [List.length_drop]; omega)]

theorem div_succ_of_short {records : List Record} (record : Record)
    (h : (rest size records).length + 1 < size) :
    (records ++ [record]).length / size = records.length / size := by
  have split := Nat.div_add_mod records.length size
  rw [Nat.mul_comm, ← length_rest] at split
  refine Nat.div_eq_of_lt_le ?_ ?_
  · simp only [List.length_append, List.length_singleton]
    omega
  · rw [Nat.succ_mul, List.length_append, List.length_singleton]
    omega

theorem div_succ_of_last {records : List Record} (record : Record)
    (h : (rest size records).length + 1 = size) :
    (records ++ [record]).length / size = records.length / size + 1 := by
  have split := Nat.div_add_mod records.length size
  rw [Nat.mul_comm, ← length_rest] at split
  refine Nat.div_eq_of_lt_le ?_ ?_
  · rw [Nat.succ_mul, List.length_append, List.length_singleton]
    omega
  · rw [Nat.succ_mul, Nat.succ_mul, List.length_append, List.length_singleton]
    omega

/-- A record that does not complete a page joins the rest. -/
theorem full_append_of_short {records : List Record} (record : Record)
    (h : (rest size records).length + 1 < size) :
    full size (records ++ [record]) = full size records ∧
      rest size (records ++ [record]) = rest size records ++ [record] := by
  have count := div_succ_of_short record h
  constructor
  · refine ((full_prefix_append size records [record]).eq_of_length ?_).symm
    rw [length_full, length_full, count]
  · rw [rest, count, List.drop_append_of_le_length (Nat.div_mul_le_self _ _), rest]

/-- A record that completes a page turns the rest into that page. -/
theorem full_append_of_last {records : List Record} (record : Record)
    (h : (rest size records).length + 1 = size) :
    full size (records ++ [record]) = full size records ++ [rest size records ++ [record]] ∧
      rest size (records ++ [record]) = [] := by
  have count := div_succ_of_last record h
  have split := Nat.div_add_mod records.length size
  rw [Nat.mul_comm, ← length_rest] at split
  constructor
  · obtain ⟨more, hmore⟩ := full_prefix_append size records [record]
    have single : more.length = 1 := by
      have := congrArg List.length hmore
      rw [List.length_append, length_full, length_full, count] at this
      omega
    obtain ⟨page, rfl⟩ := List.length_eq_one_iff.mp single
    have last : (full size (records ++ [record]))[records.length / size]? = some page := by
      rw [← hmore, List.getElem?_append_right (by simp), length_full, Nat.sub_self]
      rfl
    rw [← hmore]
    congr 2
    rw [full, List.getElem?_map, List.getElem?_range (by omega), Option.map_some] at last
    rw [← Option.some.inj last, rest, List.drop_append_of_le_length (Nat.div_mul_le_self _ _)]
    refine List.take_of_length_le ?_
    rw [List.length_append, List.length_singleton]
    exact Nat.le_of_eq h
  · rw [rest, count]
    refine List.drop_of_length_le ?_
    rw [Nat.succ_mul, List.length_append, List.length_singleton]
    omega

/-- The full pages and the rest hold all records, in order. -/
theorem flatten_full_append_rest (pos : 0 < size) (records : List Record) :
    (full size records).flatten ++ rest size records = records := by
  induction records using List.reverseRecOn with
  | nil => simp
  | append_singleton records record ih =>
      rcases Nat.lt_or_eq_of_le (length_rest_lt pos records) with short | last
      · obtain ⟨pages, left⟩ := full_append_of_short record short
        rw [pages, left, ← List.append_assoc, ih]
      · obtain ⟨pages, left⟩ := full_append_of_last record last
        rw [pages, left, List.flatten_append, List.flatten_singleton, List.append_nil,
          ← List.append_assoc, ih]

theorem flatten_full_prefix (pos : 0 < size) (records : List Record) :
    (full size records).flatten <+: records :=
  ⟨_, flatten_full_append_rest pos records⟩

theorem flatten_paged (pos : 0 < size) (records : List Record) :
    (paged size records).flatten = records := by
  refine Eq.trans ?_ (flatten_full_append_rest pos records)
  rw [paged, List.flatten_append]
  cases rest size records <;> simp

theorem ne_nil_of_mem_paged (pos : 0 < size) {records : List Record} {page : Page}
    (h : page ∈ paged size records) : page ≠ [] := by
  rcases List.mem_append.mp h with full | last
  · rw [← List.length_pos_iff, length_of_mem_full full]
    exact pos
  · rintro rfl
    cases left : rest size records <;> simp [left] at last

theorem length_le_of_mem_paged (pos : 0 < size) {records : List Record} {page : Page}
    (h : page ∈ paged size records) : page.length ≤ size := by
  rcases List.mem_append.mp h with full | last
  · exact Nat.le_of_eq (length_of_mem_full full)
  · have : page = rest size records := by
      cases left : rest size records <;> simp_all
    rw [this]
    exact Nat.le_of_lt (length_rest_lt pos records)

/-- Only the last page can be shorter than the others. -/
theorem length_of_mem_dropLast_paged {records : List Record} {page : Page}
    (h : page ∈ (paged size records).dropLast) : page.length = size := by
  have full : page ∈ full size records := by
    cases left : rest size records with
    | nil => exact List.dropLast_subset _ (by simpa [paged, left] using h)
    | cons record records => simpa [paged, left] using h
  exact length_of_mem_full full

/-- As many pages as it takes. -/
theorem length_paged (pos : 0 < size) (records : List Record) :
    (paged size records).length = (records.length + size - 1) / size := by
  have split := Nat.div_add_mod records.length size
  have left := length_rest size records
  have short := length_rest_lt pos records
  rw [Nat.mul_comm] at split
  rw [paged, List.length_append, length_full]
  symm
  cases hrest : rest size records with
  | nil =>
      rw [hrest, List.length_nil] at left
      refine Nat.div_eq_of_lt_le ?_ ?_ <;> simp [Nat.succ_mul] <;> omega
  | cons record rest =>
      rw [hrest, List.length_cons] at left short
      refine Nat.div_eq_of_lt_le ?_ ?_ <;> simp [Nat.succ_mul] <;> omega

end Page

end TypedPages
