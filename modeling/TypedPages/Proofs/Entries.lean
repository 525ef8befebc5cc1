import Mathlib.Data.List.Induction
import Mathlib.Data.List.Nodup
import TypedPages.Document

/-!
# Entries under renamed keys

Setting a value leaves the keys as they are or adds one to them, so keys that were renamed one
after the other are distinct. Each of them has the value of the last entry that was renamed to it.
-/

namespace TypedPages

namespace Entries

/-- The keys in order. -/
def keys (entries : Entries) : List String :=
  entries.map (·.1)

variable {entries front back : Entries} {rename : String → String} {key k : String}
variable {value : Document}

/-! ## Setting one value -/

theorem mem_keys_iff : key ∈ entries.keys ↔ ∃ value, entries.lookup key = some value := by
  induction entries with
  | nil => simp [keys]
  | cons entry rest ih =>
      obtain ⟨own, value⟩ := entry
      rw [keys, List.map_cons, List.mem_cons, ← keys, ih, List.lookup_cons]
      by_cases same : key = own
      · simp [same]
      · rw [beq_eq_false_iff_ne.mpr same]
        simp [same]

/-- The keys of a mapping do not change when one that is there already is set. -/
theorem keys_insert (key : String) (value : Document) (entries : Entries) :
    (insert key value entries).keys =
      if key ∈ entries.keys then entries.keys else entries.keys ++ [key] := by
  induction entries with
  | nil => rfl
  | cons entry rest ih =>
      obtain ⟨own, old⟩ := entry
      rw [insert]
      by_cases same : own = key
      · rw [if_pos same, same]
        exact (if_pos List.mem_cons_self).symm
      · have other : ¬ key = own := fun again => same again.symm
        rw [if_neg same]
        change own :: keys (insert key value rest) = if key ∈ own :: keys rest then
          own :: keys rest else own :: keys rest ++ [key]
        rw [ih]
        by_cases known : key ∈ keys rest <;> simp [known, other]

theorem mem_keys_insert_iff : k ∈ (insert key value entries).keys ↔ k = key ∨ k ∈ entries.keys := by
  rw [keys_insert]
  split
  · rename_i known
    exact ⟨.inr, fun either => either.elim (· ▸ known) id⟩
  · rw [List.mem_append, List.mem_singleton, or_comm]

theorem nodup_keys_insert (distinct : entries.keys.Nodup) :
    (insert key value entries).keys.Nodup := by
  rw [keys_insert]
  split
  · exact distinct
  · rename_i new
    exact List.nodup_append.mpr ⟨distinct, List.nodup_singleton key, by
      rintro own member _ last rfl
      exact new (List.mem_singleton.mp last ▸ member)⟩

/-- A value that is there already is set to no effect. -/
theorem insert_of_lookup (found : entries.lookup key = some value) :
    insert key value entries = entries := by
  induction entries with
  | nil => cases found
  | cons entry rest ih =>
      obtain ⟨own, old⟩ := entry
      rw [List.lookup_cons] at found
      rw [insert]
      by_cases same : own = key
      · subst same
        rw [if_pos rfl]
        simp only [beq_self_eq_true] at found
        rw [Option.some.inj found]
      · have other : (key == own) = false := beq_eq_false_iff_ne.mpr fun again => same again.symm
        rw [other] at found
        rw [if_neg same, ih found]

theorem insert_of_new (new : key ∉ entries.keys) :
    insert key value entries = entries ++ [(key, value)] := by
  induction entries with
  | nil => rfl
  | cons entry rest ih =>
      obtain ⟨own, old⟩ := entry
      obtain ⟨other, later⟩ : key ≠ own ∧ key ∉ keys rest := by
        simpa [keys] using new
      rw [insert, if_neg fun again => other again.symm, ih later]
      rfl

/-! ## Renaming all keys -/

theorem mapKeys_concat (rename : String → String) (entries : Entries) (key : String)
    (value : Document) :
    mapKeys rename (entries ++ [(key, value)]) =
      (mapKeys rename entries).insert (rename key) value := by
  rw [mapKeys, List.foldl_append]
  rfl

/-- The last of the entries that come to share a key gives the value. -/
theorem lookup_mapKeys_of_last (last : ∀ entry ∈ back, rename entry.1 ≠ rename key) :
    (mapKeys rename (front ++ (key, value) :: back)).lookup (rename key) = some value := by
  induction back using List.reverseRecOn with
  | nil => rw [mapKeys_concat, lookup_insert, if_pos rfl]
  | append_singleton back entry ih =>
      obtain ⟨own, later⟩ := entry
      obtain ⟨before, other⟩ := List.forall_mem_append.mp last
      have apart : rename own ≠ rename key := other (own, later) (List.mem_singleton_self _)
      have split : front ++ (key, value) :: (back ++ [(own, later)]) =
          front ++ (key, value) :: back ++ [(own, later)] := by simp
      rw [split, mapKeys_concat, lookup_insert, if_neg apart.symm, ih before]

theorem nodup_keys_mapKeys (rename : String → String) (entries : Entries) :
    (mapKeys rename entries).keys.Nodup := by
  induction entries using List.reverseRecOn with
  | nil => exact .nil
  | append_singleton entries last ih =>
      rw [mapKeys_concat]
      exact nodup_keys_insert ih

/-- Every key that entries have is there under its new name, and no other. -/
theorem mem_keys_mapKeys_iff :
    key ∈ (mapKeys rename entries).keys ↔ ∃ entry ∈ entries, rename entry.1 = key := by
  induction entries using List.reverseRecOn with
  | nil => simp [mapKeys, keys]
  | append_singleton entries last ih =>
      rw [mapKeys_concat, mem_keys_insert_iff, ih]
      simp only [List.mem_append, List.mem_singleton, or_and_right, exists_or, exists_eq_left]
      rw [or_comm, eq_comm]

/-- Distinct keys that keep their names leave the entries as they are. -/
theorem mapKeys_of_fixed (distinct : entries.keys.Nodup)
    (fixed : ∀ key ∈ entries.keys, rename key = key) : mapKeys rename entries = entries := by
  induction entries using List.reverseRecOn with
  | nil => rfl
  | append_singleton entries last ih =>
      obtain ⟨own, value⟩ := last
      have split : keys (entries ++ [(own, value)]) = keys entries ++ [own] := List.map_append
      rw [split] at distinct fixed
      obtain ⟨early, -, apart⟩ := List.nodup_append.mp distinct
      have new : own ∉ keys entries := fun member =>
        apart own member own (List.mem_singleton_self own) rfl
      have before := ih early fun key member => fixed key (List.mem_append_left _ member)
      rw [mapKeys_concat, before, fixed own (List.mem_append_right _ (List.mem_singleton_self own))]
      exact insert_of_new new

end Entries

end TypedPages
