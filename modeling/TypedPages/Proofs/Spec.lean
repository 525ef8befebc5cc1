import TypedPages.Proofs.Blanks
import TypedPages.Proofs.Resolution

/-!
# Column specs

A spec falls into a name and a type at its last colon, so colons and blanks inside a name do no
harm. What a name loses in a spec is what it has at its ends. Schemas whose names lose nothing are
those that can be written as specs and read again; every schema that was read is one of them, and
so is what a selection leaves of it.
-/

namespace TypedPages

variable {cs front back word : List Char} {spec : String} {f : Field}

namespace ColumnType

/-- A canonical name is a word, and spells its type. -/
theorem isAlpha_of_mem_name (type : ColumnType) : ∀ c ∈ type.name.toList, c.isAlpha = true := by
  have letters : type.name.toList.all Char.isAlpha = true := by
    cases type <;> rfl
  exact List.all_eq_true.mp letters

theorem name_ne_nil (type : ColumnType) : type.name.toList ≠ [] := by
  cases type <;> decide

theorem ofName_name (type : ColumnType) : ofName type.name = .ok type := by
  cases type <;> rfl

end ColumnType

namespace Field

/-- A field whose name is not empty, stays on one line, and has no blank at either end. -/
structure Legible (f : Field) : Prop where
  named : f.name ≠ ""
  oneLine : '\n' ∉ f.name.toList
  trimmed : Text.Trimmed f.name.toList

/-! ## Taking a spec apart -/

/-- The last colon is the one behind which there is no other. -/
theorem splitLastColon?_eq_some_iff : splitLastColon? cs = some (front, back) ↔
    cs = front ++ ':' :: back ∧ ':' ∉ back := by
  constructor
  · intro split
    rw [splitLastColon?] at split
    have whole := List.takeWhile_append_dropWhile (p := (· ≠ ':')) (l := cs.reverse)
    have stops := List.head?_dropWhile_not (· ≠ ':') cs.reverse
    cases found : cs.reverse.dropWhile (· ≠ ':') with
    | nil =>
        rw [found] at split
        cases split
    | cons c rest =>
        rw [found] at split whole stops
        obtain rfl : c = ':' := by simpa using stops
        cases split
        constructor
        · simpa using congrArg List.reverse whole.symm
        · intro member
          have other := List.mem_takeWhile_imp (List.mem_reverse.mp member)
          simp at other
  · rintro ⟨rfl, last⟩
    have behind : ∀ c ∈ back.reverse, decide (c ≠ ':') = true := by
      intro c member
      apply decide_eq_true
      rintro rfl
      exact last (List.mem_reverse.mp member)
    have backwards : (front ++ ':' :: back).reverse = back.reverse ++ ':' :: front.reverse := by
      simp
    rw [splitLastColon?, backwards, List.dropWhile_append_of_pos behind,
      List.takeWhile_append_of_pos behind, List.dropWhile_cons_of_neg (by simp),
      List.takeWhile_cons_of_neg (by simp)]
    simp

/-- A spec is a name part on one line, a colon, any blanks, and a word. -/
theorem splitSpec?_eq_some_iff : splitSpec? cs = some (front, word) ↔
    ∃ blanks, cs = front ++ ':' :: (blanks ++ word) ∧ front ≠ [] ∧ '\n' ∉ front ∧
      (∀ c ∈ blanks, Text.isBlank c = true) ∧ word ≠ [] ∧ ∀ c ∈ word, c.isAlpha = true := by
  constructor
  · intro split
    rw [splitSpec?] at split
    cases halves : splitLastColon? cs with
    | none =>
        rw [halves] at split
        cases split
    | some halves' =>
        obtain ⟨front', back⟩ := halves'
        obtain ⟨rfl, -⟩ := splitLastColon?_eq_some_iff.mp halves
        simp only [halves] at split
        split at split
        · cases split
        · rename_i legal
          cases split
          refine ⟨back.takeWhile Text.isBlank, ?_, ?_⟩
          · rw [List.takeWhile_append_dropWhile]
          · simp only [Bool.or_eq_true, List.isEmpty_iff, List.contains_iff_mem,
              Bool.not_eq_true', not_or, Bool.not_eq_false] at legal
            obtain ⟨⟨⟨nonempty, oneLine⟩, typed⟩, letters⟩ := legal
            refine ⟨nonempty, oneLine, ?_, typed, List.all_eq_true.mp letters⟩
            intro c member
            exact List.mem_takeWhile_imp member
  · rintro ⟨blanks, rfl, nonempty, oneLine, blank, typed, letters⟩
    have last : ':' ∉ blanks ++ word := by
      intro member
      rcases List.mem_append.mp member with early | late
      · exact absurd (blank _ early) (by decide)
      · exact absurd (letters _ late) (by decide)
    have stops : word.dropWhile Text.isBlank = word := by
      obtain ⟨c, rest, rfl⟩ := List.exists_cons_of_ne_nil typed
      apply List.dropWhile_cons_of_neg
      rw [Text.isBlank_of_isAlpha (letters c List.mem_cons_self)]
      exact Bool.false_ne_true
    rw [splitSpec?, splitLastColon?_eq_some_iff.mpr ⟨rfl, last⟩]
    simp only [List.dropWhile_append_of_pos blank, stops]
    apply if_neg
    simpa [nonempty, oneLine, typed] using letters

/-- A spec is read as a field if it falls apart, its name is not empty, and the word behind its
last colon spells the type. -/
theorem ofSpec_eq_ok_iff : ofSpec spec = .ok f ↔
    ∃ front word, splitSpec? (Text.strip spec.toList) = some (front, word) ∧
      Text.strip front ≠ [] ∧ f.name = .ofList (Text.strip front) ∧
      ColumnType.ofName (.ofList word) = .ok f.type := by
  rw [ofSpec]
  constructor
  · intro read
    split at read
    · cases read
    · rename_i front word split
      simp only [List.isEmpty_iff] at read
      split at read
      · cases read
      · rename_i nonempty
        split at read
        · rename_i type spelled
          cases read
          exact ⟨front, word, split, nonempty, rfl, spelled⟩
        · cases read
  · rintro ⟨front, word, split, nonempty, named, spelled⟩
    rw [split]
    simp only [List.isEmpty_iff, if_neg nonempty, spelled]
    rw [← named]

/-! ## Writing a spec and reading it again -/

/-- Only legible names are read. -/
theorem legible_of_ofSpec (read : ofSpec spec = .ok f) : f.Legible := by
  obtain ⟨front, word, split, nonempty, named, -⟩ := ofSpec_eq_ok_iff.mp read
  obtain ⟨_, -, -, oneLine, -⟩ := splitSpec?_eq_some_iff.mp split
  have letters : f.name.toList = Text.strip front := by
    rw [named, String.toList_ofList]
  refine ⟨?_, ?_, ?_⟩
  · intro empty
    apply nonempty
    rw [← letters, empty]
    rfl
  · rw [letters]
    intro member
    exact oneLine ((Text.strip_infix front).subset member)
  · rw [letters]
    exact Text.trimmed_strip front

theorem toList_spec (f : Field) :
    f.spec.toList = f.name.toList ++ ':' :: ([' '] ++ f.type.name.toList) := by
  have parts : f.spec = f.name ++ ": " ++ f.type.name := rfl
  rw [parts, String.toList_append, String.toList_append, List.append_assoc]
  rfl

theorem trimmed_spec (h : f.Legible) : Text.Trimmed f.spec.toList := by
  have named : f.name.toList ≠ [] := by
    intro empty
    exact h.named (String.toList_eq_nil_iff.mp empty)
  have typed := f.type.name_ne_nil
  rw [toList_spec]
  constructor
  · intro c first
    apply h.trimmed.first
    rw [List.head?_append, List.head?_eq_some_head named] at first
    rw [List.head?_eq_some_head named]
    exact first
  · intro c last
    have ends : f.name.toList ++ ':' :: ([' '] ++ f.type.name.toList) =
        f.name.toList ++ [':', ' '] ++ f.type.name.toList := by simp
    rw [ends, List.getLast?_append, List.getLast?_eq_some_getLast typed, Option.some_or] at last
    obtain rfl := Option.some.inj last
    apply Text.isBlank_of_isAlpha
    exact f.type.isAlpha_of_mem_name _ (List.getLast_mem typed)

theorem ofSpec_spec_of_legible (h : f.Legible) : ofSpec f.spec = .ok f := by
  have named : f.name.toList ≠ [] := by
    intro empty
    exact h.named (String.toList_eq_nil_iff.mp empty)
  refine ofSpec_eq_ok_iff.mpr ⟨f.name.toList, f.type.name.toList, ?_, ?_, ?_, ?_⟩
  · rw [Text.strip_of_trimmed (trimmed_spec h)]
    have blank : ∀ c ∈ [' '], Text.isBlank c = true := List.forall_mem_singleton.mpr rfl
    exact splitSpec?_eq_some_iff.mpr ⟨[' '], f.toList_spec, named, h.oneLine, blank,
      f.type.name_ne_nil, f.type.isAlpha_of_mem_name⟩
  · rw [Text.strip_of_trimmed h.trimmed]
    exact named
  · rw [Text.strip_of_trimmed h.trimmed, String.ofList_toList]
  · rw [String.ofList_toList, ColumnType.ofName_name]

end Field

namespace Schema

variable {s : Schema} {specs : List String}

/-- The fields of a schema that was read are those that its specs spell. -/
theorem ofSpecs_eq_ok_iff : ofSpecs specs = .ok s ↔
    specs.map Field.ofSpec = s.fields.map .ok := by
  rw [ofSpecs, bind_eq_ok_iff, ← mapM_eq_ok_iff]
  constructor
  · rintro ⟨fields, read, built⟩
    rw [ofFields_eq_ok_iff.mp built]
    exact read
  · intro read
    exact ⟨s.fields, read, ofFields_eq_ok_iff.mpr rfl⟩

theorem legible_of_ofSpecs (read : ofSpecs specs = .ok s) : ∀ f ∈ s.fields, f.Legible := by
  intro f member
  have spelled : .ok f ∈ specs.map Field.ofSpec := by
    rw [ofSpecs_eq_ok_iff.mp read]
    exact List.mem_map_of_mem member
  obtain ⟨spec, -, own⟩ := List.mem_map.mp spelled
  exact Field.legible_of_ofSpec own

theorem ofSpecs_specs_of_legible (legible : ∀ f ∈ s.fields, f.Legible) :
    ofSpecs s.specs = .ok s := by
  rw [ofSpecs_eq_ok_iff, specs, List.map_map]
  apply List.map_congr_left
  intro f member
  exact Field.ofSpec_spec_of_legible (legible f member)

/-- A schema is read from its own specs exactly if all its names are legible. This is so whenever
it was read from any specs before, and then also for all that a selection leaves of it. -/
theorem ofSpecs_specs_eq_ok_iff (s : Schema) :
    (ofSpecs s.specs = .ok s ↔ ∀ f ∈ s.fields, f.Legible) ∧
    ∀ specs, ofSpecs specs = .ok s → ofSpecs s.specs = .ok s ∧
      ∀ selection p, Projection.resolve s selection = .ok p →
        ofSpecs p.output.specs = .ok p.output := by
  refine ⟨⟨legible_of_ofSpecs, ofSpecs_specs_of_legible⟩, ?_⟩
  intro specs read
  have legible := legible_of_ofSpecs read
  refine ⟨ofSpecs_specs_of_legible legible, ?_⟩
  intro selection p resolved
  apply ofSpecs_specs_of_legible
  intro f member
  rw [(Projection.of_resolve resolved).1] at member
  exact legible f (List.mem_filter.mp member).1

namespace Sample

/-- Specs with aliases, blanks and a colon in a name. -/
def loose : List String := [" a: b :Text", "id :  INT ", "score: float"]

/-- The schema that they spell. -/
def strict : Schema := ⟨[⟨"a: b", .string⟩, ⟨"id", .long⟩, ⟨"score", .double⟩], by decide⟩

end Sample

/-- Loosely written specs, those in which they come back, and what is left without a column. -/
theorem sample_specs : ofSpecs Sample.loose = .ok Sample.strict ∧
    ofSpecs ["a: b: string", "id: long", "score: double"] = .ok Sample.strict ∧
    ∃ p, Projection.resolve Sample.strict ⟨some ["id"], none, false⟩ = .ok p ∧
      p.output.specs = ["a: b: string", "score: double"] ∧
      ofSpecs p.output.specs = .ok p.output := by
  have read : ofSpecs Sample.loose = .ok Sample.strict := rfl
  obtain ⟨again, left⟩ := (ofSpecs_specs_eq_ok_iff Sample.strict).2 Sample.loose read
  exact ⟨read, again, _, rfl, rfl, left ⟨some ["id"], none, false⟩ _ rfl⟩

end Schema

end TypedPages
