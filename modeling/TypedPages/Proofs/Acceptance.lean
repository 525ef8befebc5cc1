import TypedPages.Proofs.Opening
import TypedPages.Proofs.Spec
import TypedPages.Settings

/-!
# Settings that were read

Reading settings is lenient in how values are written, and what it makes of them is strict: a schema
can be built from the specs, pages hold at least one record, the name of the filter has no blanks at
its ends and is not empty, and the level is one of five words. Settings are read from their own
entries exactly if they are like this, so reading once more changes nothing.
-/

namespace TypedPages

namespace Checked

variable {α : Type} {c : Checked α} {step : PathStep} {name : String} {default a : α}
variable {read : Document → Checked α} {entries : Entries}

theorem under_eq_ok_iff : c.under step = .ok a ↔ c = .ok a :=
  mapError_eq_ok_iff

theorem required_eq_ok_iff : required name read entries = .ok a ↔
    ∃ d, entries.lookup name = some d ∧ read d = .ok a := by
  rw [required]
  cases entries.lookup name with
  | none => simp
  | some d => simp [under_eq_ok_iff]

theorem optional_eq_ok_iff : optional name default read entries = .ok a ↔
    (entries.lookup name = none ∧ default = a) ∨
      ∃ d, entries.lookup name = some d ∧ read d = .ok a := by
  rw [optional]
  cases entries.lookup name with
  | none => simp
  | some d => simp [under_eq_ok_iff]

end Checked

open Checked (required_eq_ok_iff optional_eq_ok_iff)

variable {d : Document} {entries : Entries}

/-! ## Values -/

namespace Document

variable {text : String} {n : Nat}

theorem readTexts_ofTexts (texts : List String) : (ofTexts texts).readTexts = .ok texts :=
  readTextItems_map_text 0 texts

theorem pos_of_readPositive (read : d.readPositive = .ok n) : 1 ≤ n := by
  rw [readPositive] at read
  split at read
  · split at read
    · cases read
      omega
    · cases read
  · cases read

theorem readPositive_ofNat : (ofNat n).readPositive = .ok n ↔ 1 ≤ n := by
  by_cases positive : 1 ≤ n
  · have whole : (1 : Int) ≤ n := by omega
    simp [readPositive, ofNat, readWhole, whole, positive]
  · have whole : ¬ (1 : Int) ≤ n := by omega
    simp [readPositive, ofNat, readWhole, whole, positive, Checked.problem]

end Document

/-! ## Sections -/

namespace FilterSettings

/-- The name of the filter is there, and no blank stands at its ends. -/
structure Sound (s : FilterSettings) : Prop where
  named : s.plugin ≠ ""
  trimmed : Text.Trimmed s.plugin.toList

variable {s : FilterSettings} {name : String}

theorem readPlugin_eq_ok_iff : readPlugin d = .ok name ↔
    ∃ text, d = .text text ∧ Text.trim text = name ∧ name ≠ "" := by
  cases d with
  | text text =>
      change (if (Text.trim text).isEmpty then Checked.problem _ else .ok (Text.trim text)) =
        .ok name ↔ _
      simp only [String.isEmpty_iff, Document.text.injEq, exists_eq_left']
      split
      · rename_i empty
        rw [empty]
        exact iff_of_false nofun fun ⟨same, nonempty⟩ => nonempty same.symm
      · rename_i nonempty
        constructor
        · rintro ⟨⟩
          exact ⟨rfl, nonempty⟩
        · rintro ⟨rfl, -⟩
          rfl
  | _ => exact iff_of_false nofun nofun

theorem sound_of_ofDocument (read : ofDocument d = .ok s) : s.Sound := by
  cases d with
  | mapping entries =>
      rw [ofDocument, ofEntries] at read
      split at read
      · rename_i plugin options found _ _
        cases read
        obtain ⟨d, -, named⟩ := required_eq_ok_iff.mp found
        obtain ⟨text, -, rfl, nonempty⟩ := readPlugin_eq_ok_iff.mp named
        refine ⟨nonempty, ?_⟩
        rw [Text.trim, String.toList_ofList]
        exact Text.trimmed_strip text.toList
      · cases read
  | _ => cases read

theorem ofDocument_toDocument (h : s.Sound) : ofDocument s.toDocument = .ok s := by
  have plugin : readPlugin (.text s.plugin) = .ok s.plugin := by
    refine readPlugin_eq_ok_iff.mpr ⟨s.plugin, rfl, ?_, h.named⟩
    rw [Text.trim, Text.strip_of_trimmed h.trimmed, String.ofList_toList]
  have found : Checked.required "plugin" readPlugin
      [("plugin", .text s.plugin), ("options", .mapping s.options)] = .ok s.plugin :=
    required_eq_ok_iff.mpr ⟨_, rfl, plugin⟩
  have options : Checked.optional "options" [] Document.readMapping
      [("plugin", .text s.plugin), ("options", .mapping s.options)] = .ok s.options :=
    optional_eq_ok_iff.mpr (.inr ⟨_, rfl, rfl⟩)
  have unknown : Checked.unknownFields ["plugin", "options"]
      [("plugin", .text s.plugin), ("options", .mapping s.options)] = [] := rfl
  rw [toDocument, ofDocument, ofEntries]
  simp only [found, options, unknown]

end FilterSettings

namespace LogSettings

variable {s : LogSettings} {level : String}

theorem readLevel_eq_ok_iff : readLevel d = .ok level ↔
    ∃ text, d = .text text ∧ Text.upper text = level ∧ level ∈ levels := by
  cases d with
  | text text =>
      change (if levels.contains (Text.upper text) then .ok (Text.upper text)
        else Checked.problem _) = .ok level ↔ _
      simp only [List.contains_iff_mem, Document.text.injEq, exists_eq_left']
      split
      · rename_i known
        constructor
        · rintro ⟨⟩
          exact ⟨rfl, known⟩
        · rintro ⟨rfl, -⟩
          rfl
      · rename_i unknown
        refine iff_of_false nofun ?_
        rintro ⟨rfl, known⟩
        exact unknown known
  | _ => exact iff_of_false nofun nofun

/-- The names of levels are in upper case. -/
theorem upper_of_mem_levels : ∀ level ∈ levels, Text.upper level = level := by
  decide +kernel

theorem level_of_ofDocument (read : ofDocument d = .ok s) : s.level ∈ levels := by
  cases d with
  | mapping entries =>
      rw [ofDocument, ofEntries] at read
      split at read
      · rename_i level json found _ _
        cases read
        rcases optional_eq_ok_iff.mp found with ⟨-, rfl⟩ | ⟨d, -, named⟩
        · exact List.mem_cons_of_mem _ List.mem_cons_self
        · obtain ⟨text, -, rfl, known⟩ := readLevel_eq_ok_iff.mp named
          exact known
      · cases read
  | _ => cases read

theorem ofDocument_toDocument (known : s.level ∈ levels) : ofDocument s.toDocument = .ok s := by
  have named : readLevel (.text s.level) = .ok s.level :=
    readLevel_eq_ok_iff.mpr ⟨s.level, rfl, upper_of_mem_levels s.level known, known⟩
  have level : Checked.optional "level" standard.level readLevel
      [("level", .text s.level), ("json_output", .flag s.json)] = .ok s.level :=
    optional_eq_ok_iff.mpr (.inr ⟨_, rfl, named⟩)
  have json : Checked.optional "json_output" standard.json Document.readFlag
      [("level", .text s.level), ("json_output", .flag s.json)] = .ok s.json :=
    optional_eq_ok_iff.mpr (.inr ⟨_, rfl, rfl⟩)
  have unknown : Checked.unknownFields ["level", "json_output"]
      [("level", .text s.level), ("json_output", .flag s.json)] = [] := rfl
  rw [toDocument, ofDocument, ofEntries]
  simp only [level, json, unknown]

end LogSettings

/-! ## The whole -/

namespace Settings

variable {s : Settings} {specs : List String}

/-- A schema can be built from the specs, a pool can be made for the page size, the filter has a
name, and the level is one that there is. -/
structure Sound (s : Settings) : Prop where
  schema : ∃ schema, s.schema = .ok schema
  pageSize : 1 ≤ s.pageSize
  filter : s.filter.Sound
  level : s.log.level ∈ LogSettings.levels

theorem readSchema_eq_ok_iff : readSchema d = .ok specs ↔
    d.readTexts = .ok specs ∧ ∃ schema, Schema.ofSpecs specs = .ok schema := by
  rw [readSchema]
  cases d.readTexts with
  | error issues => simp
  | ok texts => cases built : Schema.ofSpecs texts <;> grind [Checked.problem]

theorem sound_of_ofEntries (read : ofEntries entries = .ok s) : s.Sound := by
  rw [ofEntries] at read
  split at read
  · rename_i specs filter pageSize log schemaRead filterRead sizeRead logRead _
    cases read
    obtain ⟨d, -, specsRead⟩ := required_eq_ok_iff.mp schemaRead
    obtain ⟨d', -, sectionRead⟩ := required_eq_ok_iff.mp filterRead
    refine ⟨(readSchema_eq_ok_iff.mp specsRead).2, ?_, ?_, ?_⟩
    · rcases optional_eq_ok_iff.mp sizeRead with ⟨-, rfl⟩ | ⟨d, -, positive⟩
      · show 1 ≤ BufferPool.defaultPageSize
        decide
      · exact Document.pos_of_readPositive positive
    · exact FilterSettings.sound_of_ofDocument sectionRead
    · rcases optional_eq_ok_iff.mp logRead with ⟨-, rfl⟩ | ⟨d, -, own⟩
      · exact List.mem_cons_of_mem _ List.mem_cons_self
      · exact LogSettings.level_of_ofDocument own
  · cases read

theorem ofEntries_toEntries_of_sound (h : s.Sound) : ofEntries s.toEntries = .ok s := by
  have schema : Checked.required "input_schema" readSchema s.toEntries = .ok s.inputSchema :=
    required_eq_ok_iff.mpr ⟨_, rfl,
      readSchema_eq_ok_iff.mpr ⟨Document.readTexts_ofTexts _, h.schema⟩⟩
  have filter : Checked.required "filter" FilterSettings.ofDocument s.toEntries = .ok s.filter :=
    required_eq_ok_iff.mpr ⟨_, rfl, FilterSettings.ofDocument_toDocument h.filter⟩
  have size : Checked.optional "page_size" BufferPool.defaultPageSize Document.readPositive
      s.toEntries = .ok s.pageSize :=
    optional_eq_ok_iff.mpr (.inr ⟨_, rfl, Document.readPositive_ofNat.mpr h.pageSize⟩)
  have log : Checked.optional "logging" LogSettings.standard LogSettings.ofDocument s.toEntries =
      .ok s.log :=
    optional_eq_ok_iff.mpr (.inr ⟨_, rfl, LogSettings.ofDocument_toDocument h.level⟩)
  have unknown : Checked.unknownFields fieldNames s.toEntries = [] := rfl
  rw [ofEntries]
  simp only [schema, filter, size, log, unknown]

/-- Settings are read from their own entries exactly if they are sound. -/
theorem ofEntries_toEntries_eq_ok_iff : ofEntries s.toEntries = .ok s ↔ s.Sound :=
  ⟨sound_of_ofEntries, ofEntries_toEntries_of_sound⟩

/-- A pool can be made for a sound page size, and has this size. -/
theorem Sound.exists_pool [Host] (h : s.Sound) (key : Nat) :
    ∃ pool, BufferPool.ofPageSize key s.pageSize = .ok pool ∧ pool.pageSize = s.pageSize := by
  have positive : (1 : Int) ≤ s.pageSize := by
    have := h.pageSize
    omega
  rw [BufferPool.ofPageSize, dif_pos positive]
  exact ⟨_, rfl, Int.toNat_natCast s.pageSize⟩

/-- Settings that were read can be used, and they stay what they are when they are written as
entries and read again. Their specs make up a schema, a pool can be made for their page size, the
name of the filter is there without blanks at its ends, and the level is one of the five in upper
case. Only settings of this kind are read from their own entries, and all of them are. -/
theorem usable_and_fixed_of_read [Host] (read : ofEntries entries = .ok s) :
    (∃ schema, s.schema = .ok schema) ∧
    (∀ key, ∃ pool, BufferPool.ofPageSize key s.pageSize = .ok pool ∧
      pool.pageSize = s.pageSize) ∧
    s.filter.plugin ≠ "" ∧ Text.Trimmed s.filter.plugin.toList ∧
    s.log.level ∈ ["DEBUG", "INFO", "WARNING", "ERROR", "CRITICAL"] ∧
    ofEntries s.toEntries = .ok s ∧
    ∀ t, ofEntries (toEntries t) = .ok t ↔ t.Sound := by
  have sound := sound_of_ofEntries read
  exact ⟨sound.schema, sound.exists_pool, sound.filter.named, sound.filter.trimmed, sound.level,
    ofEntries_toEntries_of_sound sound, fun t => ofEntries_toEntries_eq_ok_iff⟩

namespace Sample

/-- A page size and a flag that are texts, a level with a dotless i, and blanks around the name of
the filter. -/
def loose : Entries := [
  ("page_size", .text " 20.0\n"),
  ("logging", .mapping [("level", .text "ınfo"), ("json_output", .text "Yes")]),
  ("input_schema", .ofTexts [" a: b :Text", "id: INT"]),
  ("filter", .mapping [("plugin", .text "\u2003remove_columns\t"),
    ("options", .mapping [("Remove", .whole 3)])])]

def strict : Settings where
  inputSchema := [" a: b :Text", "id: INT"]
  filter := ⟨"remove_columns", [("Remove", .whole 3)]⟩
  pageSize := 20
  log := ⟨"INFO", true⟩

end Sample

set_option maxRecDepth 4096 in
/-- Loosely written settings, of which nothing loose is left but the specs and the options. -/
theorem sample_usable_and_fixed : ofEntries Sample.loose = .ok Sample.strict ∧
    (∃ schema, Sample.strict.schema = .ok schema) ∧
    (∃ pool, BufferPool.ofPageSize 0 20 = .ok pool ∧ pool.pageSize = 20) ∧
    ofEntries Sample.strict.toEntries = .ok Sample.strict := by
  have read : ofEntries Sample.loose = .ok Sample.strict := rfl
  obtain ⟨schema, pools, -, -, -, fixed, -⟩ := usable_and_fixed_of_read read
  exact ⟨read, schema, pools 0, fixed⟩

end Settings

end TypedPages
