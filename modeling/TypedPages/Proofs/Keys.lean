import TypedPages.Proofs.Entries
import TypedPages.Proofs.Lowering
import TypedPages.Settings.Keys

/-!
# Spellings of keys

Keys are renamed level by level. On each level the last spelling of a key gives the value, and which
value that is, is settled before the sections below are looked at: of two spellings of a section the
last one is the section, whatever the other holds. All that is not a key of one of these levels
stays as it is. When the renaming of a single key changes nothing the second time, the renaming of
all keys does not either.
-/

namespace TypedPages

/-- What becomes of the value of a section, whose entries are a level of their own. A value that is
no mapping stays. -/
inductive Document.Section (Level : Entries → Entries → Prop) : Document → Document → Prop where
  | mapping {before after : Entries} (level : Level before after) :
      Section Level (.mapping before) (.mapping after)
  | other {value : Document} (single : ∀ entries, value ≠ .mapping entries) :
      Section Level value value

namespace Entries

/-- The sections of a level by name, and what becomes of the entries of each. -/
abbrev Sections := List (String × (Entries → Entries → Prop))

/-- What becomes of the value of a key on a level with the given sections. -/
def Sections.Becomes (sections : Sections) (key : String) (before after : Document) : Prop :=
  match sections.lookup key with
  | some Level => before.Section Level after
  | none => after = before

/-- A level whose keys are renamed: each of them is there under its new name and no other is, and
what is there is the value of the last entry that has come to be called so. -/
structure Renamed (rename : String → String) (sections : Sections) (before after : Entries) :
    Prop where
  distinct : after.keys.Nodup
  keys : ∀ key, key ∈ after.keys ↔ ∃ entry ∈ before, rename entry.1 = key
  last : ∀ front key value back, before = front ++ (key, value) :: back →
    (∀ entry ∈ back, rename entry.1 ≠ rename key) →
    ∃ new, after.lookup (rename key) = some new ∧ sections.Becomes (rename key) value new

/-- The sections of the filter section. -/
def filterSections (rename : String → String) : Sections :=
  [("options", Renamed rename [])]

/-- The sections of settings. -/
def settingsSections (rename : String → String) : Sections :=
  [("filter", Renamed rename (filterSections rename)), ("logging", Renamed rename [])]

variable {rename : String → String} {sections : Sections} {Level : Entries → Entries → Prop}
variable {before after entries inner : Entries} {change change' : Entries → Entries}
variable {name other key : String} {value old new : Document}

namespace Sections

theorem becomes_of_none (single : sections.lookup key = none) :
    sections.Becomes key old new ↔ new = old := by
  simp only [Becomes, single]

theorem becomes_cons_self :
    Becomes ((name, Level) :: sections) name old new ↔ old.Section Level new := by
  simp only [Becomes, List.lookup_cons_self]

theorem becomes_cons_of_ne (apart : key ≠ name) :
    Becomes ((name, Level) :: sections) key old new ↔ sections.Becomes key old new := by
  simp only [Becomes, List.lookup_cons, beq_eq_false_iff_ne.mpr apart]

end Sections

/-! ## Changing a section -/

/-- The section of a name has only entries that the change leaves alone. -/
def Untouched (name : String) (change : Entries → Entries) (entries : Entries) : Prop :=
  ∀ inner, entries.lookup name = some (.mapping inner) → change inner = inner

theorem updateSection_of_mapping (found : entries.lookup name = some (.mapping inner)) :
    entries.updateSection name change = entries.insert name (.mapping (change inner)) := by
  rw [updateSection, found]

theorem updateSection_of_other (nowhere : ∀ inner, entries.lookup name ≠ some (.mapping inner)) :
    entries.updateSection name change = entries := by
  rw [updateSection]
  split
  · rename_i inner found
    exact absurd found (nowhere inner)
  · rfl

theorem updateSection_of_untouched (h : entries.Untouched name change) :
    entries.updateSection name change = entries := by
  by_cases found : ∃ inner, entries.lookup name = some (.mapping inner)
  · obtain ⟨inner, found⟩ := found
    rw [updateSection_of_mapping found, h inner found, insert_of_lookup found]
  · exact updateSection_of_other fun inner here => found ⟨inner, here⟩

/-- A section is changed in its place. -/
theorem keys_updateSection (name : String) (change : Entries → Entries) (entries : Entries) :
    (entries.updateSection name change).keys = entries.keys := by
  by_cases found : ∃ inner, entries.lookup name = some (.mapping inner)
  · obtain ⟨inner, found⟩ := found
    rw [updateSection_of_mapping found, keys_insert, if_pos (mem_keys_iff.mpr ⟨_, found⟩)]
  · rw [updateSection_of_other fun inner here => found ⟨inner, here⟩]

theorem lookup_updateSection_of_ne (apart : key ≠ name) :
    (entries.updateSection name change).lookup key = entries.lookup key := by
  rw [updateSection]
  split
  · rw [lookup_insert, if_neg apart]
  · rfl

theorem lookup_updateSection_self (found : entries.lookup name = some value)
    (level : ∀ inner, Level inner (change inner)) :
    ∃ new, (entries.updateSection name change).lookup name = some new ∧
      value.Section Level new := by
  by_cases mapping : ∃ inner, value = .mapping inner
  · obtain ⟨inner, rfl⟩ := mapping
    refine ⟨.mapping (change inner), ?_, .mapping (level inner)⟩
    rw [updateSection_of_mapping found, lookup_insert, if_pos rfl]
  · refine ⟨value, ?_, .other fun inner same => mapping ⟨inner, same⟩⟩
    rw [updateSection_of_other, found]
    intro inner here
    rw [found] at here
    exact mapping ⟨inner, Option.some.inj here⟩

/-- What a change leaves behind it leaves alone if it changes nothing the second time. -/
theorem untouched_updateSection (name : String) (entries : Entries)
    (again : ∀ inner, change (change inner) = change inner) :
    (entries.updateSection name change).Untouched name change := by
  intro inner found
  by_cases mapping : ∃ old, entries.lookup name = some (.mapping old)
  · obtain ⟨old, here⟩ := mapping
    rw [updateSection_of_mapping here, lookup_insert, if_pos rfl] at found
    cases found
    exact again old
  · rw [updateSection_of_other fun old here => mapping ⟨old, here⟩] at found
    exact absurd ⟨inner, found⟩ mapping

theorem Untouched.updateSection (h : entries.Untouched name change) (apart : name ≠ other) :
    (entries.updateSection other change').Untouched name change := by
  intro inner found
  rw [lookup_updateSection_of_ne apart] at found
  exact h inner found

/-! ## Renaming the keys of a level -/

theorem renamed_mapKeys (rename : String → String) (entries : Entries) :
    Renamed rename [] entries (mapKeys rename entries) := by
  refine ⟨nodup_keys_mapKeys rename entries, fun key => mem_keys_mapKeys_iff, ?_⟩
  rintro front key value back rfl last
  exact ⟨value, lookup_mapKeys_of_last last, rfl⟩

/-- One more section is renamed, which was none before. -/
theorem Renamed.updateSection (h : Renamed rename sections before after) (name : String)
    (new : sections.lookup name = none) (level : ∀ inner, Level inner (change inner)) :
    Renamed rename ((name, Level) :: sections) before (after.updateSection name change) := by
  have keys := keys_updateSection name change after
  refine ⟨?_, ?_, ?_⟩
  · rw [keys]
    exact h.distinct
  · intro key
    rw [keys]
    exact h.keys key
  · intro front key value back split last
    obtain ⟨old, found, becomes⟩ := h.last front key value back split last
    by_cases same : rename key = name
    · rw [same] at found becomes ⊢
      rw [Sections.becomes_of_none new] at becomes
      subst becomes
      obtain ⟨new, here, level⟩ := lookup_updateSection_self found level
      exact ⟨new, here, Sections.becomes_cons_self.mpr level⟩
    · refine ⟨old, ?_, (Sections.becomes_cons_of_ne same).mpr becomes⟩
      rw [lookup_updateSection_of_ne same, found]

theorem renamed_renameFilterKeys (rename : String → String) (entries : Entries) :
    Renamed rename (filterSections rename) entries (renameFilterKeys rename entries) :=
  (renamed_mapKeys rename entries).updateSection "options" rfl (renamed_mapKeys rename)

theorem renamed_renameKeys (rename : String → String) (entries : Entries) :
    Renamed rename (settingsSections rename) entries (entries.renameKeys rename) := by
  have logging := (renamed_mapKeys rename entries).updateSection "logging" rfl
    (renamed_mapKeys rename)
  exact logging.updateSection "filter" rfl (renamed_renameFilterKeys rename)

/-! ## Renaming twice -/

section

variable (idem : ∀ key, rename (rename key) = rename key)
include idem

/-- A level that was renamed stays when its own keys are renamed again. -/
theorem mapKeys_of_renamed (h : Renamed rename sections before after) :
    mapKeys rename after = after := by
  apply mapKeys_of_fixed h.distinct
  intro key member
  obtain ⟨entry, -, rfl⟩ := (h.keys key).mp member
  exact idem entry.1

theorem mapKeys_mapKeys (entries : Entries) :
    mapKeys rename (mapKeys rename entries) = mapKeys rename entries :=
  mapKeys_of_renamed idem (renamed_mapKeys rename entries)

theorem renameFilterKeys_renameFilterKeys (entries : Entries) :
    renameFilterKeys rename (renameFilterKeys rename entries) =
      renameFilterKeys rename entries := by
  have own := mapKeys_of_renamed idem (renamed_renameFilterKeys rename entries)
  have options := untouched_updateSection "options" (mapKeys rename entries)
    (mapKeys_mapKeys idem)
  rw [renameFilterKeys, own]
  exact updateSection_of_untouched options

theorem renameKeys_renameKeys (entries : Entries) :
    (entries.renameKeys rename).renameKeys rename = entries.renameKeys rename := by
  have own := mapKeys_of_renamed idem (renamed_renameKeys rename entries)
  have logging := untouched_updateSection "logging" (mapKeys rename entries)
    (mapKeys_mapKeys idem)
  have filter := untouched_updateSection "filter"
    ((mapKeys rename entries).updateSection "logging" (mapKeys rename))
    (renameFilterKeys_renameFilterKeys idem)
  have both : (entries.renameKeys rename).Untouched "logging" (mapKeys rename) :=
    logging.updateSection (by decide)
  rw [renameKeys, own, updateSection_of_untouched both]
  exact updateSection_of_untouched filter

end

/-- How the keys of settings are renamed, whatever the settings are and however a single key is
renamed. On the top, in the logging section, in the filter section and in its options every key is
there under its new name with the value of its last spelling. A section that is no mapping stays,
and so does every value that is no section, with all keys in it. So an entry at the end beats all
other spellings of its key. If it makes no difference to rename a single key twice, it makes none to
rename the settings twice. -/
theorem last_spelling_wins (idem : ∀ key, rename (rename key) = rename key) (entries : Entries) :
    Renamed rename (settingsSections rename) entries (entries.renameKeys rename) ∧
    (∀ key value, ∃ new,
      ((entries ++ [(key, value)]).renameKeys rename).lookup (rename key) = some new ∧
      (settingsSections rename).Becomes (rename key) value new) ∧
    (entries.renameKeys rename).renameKeys rename = entries.renameKeys rename := by
  refine ⟨renamed_renameKeys rename entries, ?_, renameKeys_renameKeys idem entries⟩
  intro key value
  have renamed := renamed_renameKeys rename (entries ++ [(key, value)])
  exact renamed.last entries key value [] rfl nofun

namespace Sample

/-- Two spellings of the filter section, each with spellings of the options. The first one and all
in it is lost. A final sigma is lowered by its place. -/
def spelled : Entries := [
  ("Filter", .mapping [("options", .mapping [("keep", .ofTexts ["A"])])]),
  ("LOGGING", .text "none"),
  ("FILTER", .mapping [("Options", .null), ("plugin", .text "P"),
    ("OPTIONS", .mapping [("Keep", .text "a"), ("ΣΑΣ", .mapping [("Deep", .null)]),
      ("KEEP", .text "b")])])]

def lowered : Entries := [
  ("filter", .mapping [("options", .mapping [("keep", .text "b"),
    ("σας", .mapping [("Deep", .null)])]), ("plugin", .text "P")]),
  ("logging", .text "none")]

end Sample

set_option maxRecDepth 4096 in
/-- Keys collide on two levels, a section is a text, and the keys of a value below the options keep
their case. -/
theorem sample_spelling_wins :
    (∀ key, Text.lower (Text.lower key) = Text.lower key) ∧
    Sample.spelled.normalize = Sample.lowered ∧
    Renamed Text.lower (settingsSections Text.lower) Sample.spelled Sample.lowered ∧
    Sample.lowered.normalize = Sample.lowered := by
  have normal : Sample.spelled.normalize = Sample.lowered := rfl
  obtain ⟨renamed, -, again⟩ := last_spelling_wins Text.lower_lower Sample.spelled
  change Sample.spelled.normalize.normalize = Sample.spelled.normalize at again
  change Renamed _ _ _ Sample.spelled.normalize at renamed
  rw [normal] at again renamed
  exact ⟨Text.lower_lower, normal, renamed, again⟩

end Entries

end TypedPages
