import TypedPages.Proofs.Pattern
import TypedPages.Proofs.Spec
import TypedPages.Text.Case

/-!
# The grammar of column specs

A spec is read by a pattern that could fit in many ways: a name on one line, a colon, any blanks and
a word. There is one way at most, because neither blanks nor letters hold a colon, and so the name
ends at the last one. As the spec is stripped before, its name begins with something else than a
blank; the reader that would report an empty name is never asked to.
-/

namespace TypedPages

variable {cs front word : List Char} {type : ColumnType} {spec : String}

/-- Letters are lowered one by one, wherever they stand. -/
theorem Text.lower_of_isAlpha (letters : ∀ c ∈ word, c.isAlpha = true) :
    Text.lower (.ofList word) = .ofList (word.map Char.toLower) := by
  have lowered (before : List Char) : Text.lowerFrom before word = word.map Char.toLower := by
    induction word generalizing before with
    | nil => rfl
    | cons c word ih =>
        obtain ⟨letter, others⟩ := List.forall_mem_cons.mp letters
        have ascii : c.toNat < 0x80 := by
          have := Text.toNat_of_isAlpha letter
          omega
        rw [Text.lowerFrom, ih others, Text.lowerAt, if_pos ascii]
        rfl
  rw [Text.lower, String.toList_ofList, lowered]

namespace ColumnType

/-- What a type may be called besides its name. -/
def aliases : List (String × ColumnType) := [
  ("bool", boolean), ("int", long), ("integer", long), ("float", double), ("str", string),
  ("text", string)]

/-- The word is the name of the type or an alias, in any letter case. -/
def Spells (type : ColumnType) (word : String) : Prop :=
  Text.lower word = type.name ∨ (Text.lower word, type) ∈ aliases

/-- The table of spellings has the names and the aliases, each once. -/
theorem lookup_spellings_iff {word : String} : spellings.lookup word = some type ↔
    word = type.name ∨ (word, type) ∈ aliases := by
  have listed : spellings.lookup word = some type ↔ (word, type) ∈ spellings := by
    constructor
    · intro found
      obtain ⟨before, after, whole, -⟩ := List.lookup_eq_some_iff.mp found
      rw [whole]
      exact List.mem_append_right before List.mem_cons_self
    · have once : ∀ entry ∈ spellings, spellings.lookup entry.1 = some entry.2 := by decide
      exact once (word, type)
  rw [listed]
  constructor
  · have known : ∀ entry ∈ spellings, entry.1 = entry.2.name ∨ entry ∈ aliases := by decide
    exact known (word, type)
  · rintro (rfl | other)
    · cases type <;> decide
    · have known : ∀ entry ∈ aliases, entry ∈ spellings := by decide
      exact known (word, type) other

theorem ofName_eq_ok_iff (letters : ∀ c ∈ word, c.isAlpha = true) :
    ofName (.ofList word) = .ok type ↔ type.Spells (.ofList word) := by
  have trimmed : Text.Trimmed word := by
    constructor
    · intro c first
      exact Text.isBlank_of_isAlpha (letters c (List.mem_of_head? first))
    · intro c last
      exact Text.isBlank_of_isAlpha (letters c (List.mem_of_getLast? last))
  rw [Spells, Text.lower_of_isAlpha letters, ← lookup_spellings_iff, ofName, String.toList_ofList,
    Text.strip_of_trimmed trimmed]
  cases spellings.lookup (.ofList (word.map Char.toLower)) <;> simp

theorem ofName_eq_error_iff {name : String} {e : UnknownType} :
    ofName name = .error e ↔ (∀ type, ofName name ≠ .ok type) ∧ e = ⟨name⟩ := by
  rw [ofName]
  cases spellings.lookup (.ofList ((Text.strip name.toList).map Char.toLower)) <;> simp [eq_comm]

end ColumnType

namespace Field

/-- The text falls at its last colon into a name part, which is not empty and has no line feed, and
a word of letters behind any blanks. -/
structure HasParts (cs front word : List Char) : Prop where
  colon : ∃ blanks, cs = front ++ ':' :: (blanks ++ word) ∧ ':' ∉ blanks ++ word ∧
    ∀ c ∈ blanks, Text.isBlank c = true
  named : front ≠ []
  oneLine : '\n' ∉ front
  typed : word ≠ []
  letters : ∀ c ∈ word, c.isAlpha = true

/-- The pattern of a spec, whose groups are the name part and the word. -/
def specPattern : Text.Pattern :=
  [.group (· ≠ '\n') 1, .char ':', .run Text.isBlank 0, .group Char.isAlpha 1, .ending]

theorem splitSpec?_iff_hasParts : splitSpec? cs = some (front, word) ↔ HasParts cs front word := by
  rw [splitSpec?_eq_some_iff]
  constructor
  · rintro ⟨blanks, whole, named, oneLine, blank, typed, letters⟩
    refine ⟨⟨blanks, whole, ?_, blank⟩, named, oneLine, typed, letters⟩
    intro member
    rcases List.mem_append.mp member with early | late
    · exact absurd (blank _ early) (by decide)
    · exact absurd (letters _ late) (by decide)
  · rintro ⟨⟨blanks, whole, -, blank⟩, named, oneLine, typed, letters⟩
    exact ⟨blanks, whole, named, oneLine, blank, typed, letters⟩

/-- To a text without blanks at its ends the pattern fits with the parts of the text alone. -/
theorem fits_specPattern_iff (trimmed : Text.Trimmed cs) {groups : List (List Char)} :
    specPattern.Fits cs groups ↔ ∃ front word, HasParts cs front word ∧ groups = [front, word] := by
  constructor
  · intro fits
    cases fits with
    | @group _ _ _ front _ _ named oneLine later =>
    cases later with
    | char later =>
    cases later with
    | @run _ _ _ blanks _ _ _ blank later =>
    cases later with
    | @group _ _ _ word rest _ typed letters later =>
    cases later with
    | ending ends later =>
    cases later
    obtain rfl : rest = [] := by
      rcases ends with nothing | feed
      · exact nothing
      · subst feed
        have whole : front ++ ':' :: (blanks ++ (word ++ ['\n'])) =
            front ++ ':' :: (blanks ++ word) ++ ['\n'] := by simp
        rw [whole] at trimmed
        have last := trimmed.last '\n' List.getLast?_concat
        cases last
    refine ⟨front, word, splitSpec?_iff_hasParts.mp ?_, rfl⟩
    refine splitSpec?_eq_some_iff.mpr ⟨blanks, ?_, ?_, ?_, blank, ?_, letters⟩
    · rw [List.append_nil]
    · exact List.length_pos_iff.mp named
    · intro member
      have other := oneLine _ member
      simp at other
    · exact List.length_pos_iff.mp typed
  · rintro ⟨front, word, ⟨⟨blanks, rfl, -, blank⟩, named, oneLine, typed, letters⟩, rfl⟩
    have onOneLine : ∀ c ∈ front, decide (c ≠ '\n') = true := by
      intro c member
      apply decide_eq_true
      rintro rfl
      exact oneLine member
    have ends : specPattern.Fits (front ++ ':' :: (blanks ++ (word ++ []))) [front, word] :=
      .group (List.length_pos_iff.mpr named) onOneLine
        (.char (.run (Nat.zero_le _) blank
          (.group (List.length_pos_iff.mpr typed) letters (.ending (.inl rfl) (.done [])))))
    rwa [List.append_nil] at ends

/-- The last colon is where the pattern finds the end of the name. -/
theorem first?_specPattern (trimmed : Text.Trimmed cs) :
    specPattern.first? cs = (splitSpec? cs).map fun (front, word) => [front, word] := by
  cases split : splitSpec? cs with
  | some parts =>
      obtain ⟨front, word⟩ := parts
      have own := splitSpec?_iff_hasParts.mp split
      apply Text.Pattern.first?_of_fits
      · exact (fits_specPattern_iff trimmed).mpr ⟨front, word, own, rfl⟩
      · intro others fits
        obtain ⟨front', word', parts, rfl⟩ := (fits_specPattern_iff trimmed).mp fits
        cases split.symm.trans (splitSpec?_iff_hasParts.mpr parts)
        rfl
  | none =>
      apply Option.eq_none_iff_forall_ne_some.mpr
      intro groups found
      have fits := Text.Pattern.fits_of_first? found
      obtain ⟨front, word, parts, -⟩ := (fits_specPattern_iff trimmed).mp fits
      cases split.symm.trans (splitSpec?_iff_hasParts.mpr parts)

/-- In a text that does not begin with a blank the name part is not blank. -/
theorem HasParts.strip_ne_nil (h : HasParts cs front word) (trimmed : Text.Trimmed cs) :
    Text.strip front ≠ [] := by
  obtain ⟨blanks, rfl, -⟩ := h.colon
  obtain ⟨c, rest, rfl⟩ := List.exists_cons_of_ne_nil h.named
  apply Text.strip_ne_nil_of_head
  exact trimmed.first c rfl

/-! ## Reading a spec -/

theorem ofSpec_of_parts (h : HasParts (Text.strip spec.toList) front word) :
    ofSpec spec = ((ColumnType.ofName (.ofList word)).mapError (.untypedSpec spec)).map
      fun type => ⟨.ofList (Text.strip front), type⟩ := by
  have named := h.strip_ne_nil (Text.trimmed_strip spec.toList)
  rw [ofSpec, splitSpec?_iff_hasParts.mpr h]
  simp only [List.isEmpty_iff, if_neg named]
  cases ColumnType.ofName (.ofList word) <;> rfl

theorem ofSpec_of_no_parts (h : ∀ front word, ¬ HasParts (Text.strip spec.toList) front word) :
    ofSpec spec = .error (.malformedSpec spec) := by
  have apart : splitSpec? (Text.strip spec.toList) = none := by
    apply Option.eq_none_iff_forall_ne_some.mpr
    rintro ⟨front, word⟩ split
    exact h front word (splitSpec?_iff_hasParts.mp split)
  rw [ofSpec, apart]

theorem ofSpec_eq_ok_iff_hasParts {f : Field} : ofSpec spec = .ok f ↔
    ∃ front word, HasParts (Text.strip spec.toList) front word ∧ f.type.Spells (.ofList word) ∧
      f.name = .ofList (Text.strip front) := by
  rw [ofSpec_eq_ok_iff]
  constructor
  · rintro ⟨front, word, split, -, named, spelled⟩
    have parts := splitSpec?_iff_hasParts.mp split
    exact ⟨front, word, parts, (ColumnType.ofName_eq_ok_iff parts.letters).mp spelled, named⟩
  · rintro ⟨front, word, parts, spelled, named⟩
    refine ⟨front, word, splitSpec?_iff_hasParts.mpr parts, ?_, named, ?_⟩
    · exact parts.strip_ne_nil (Text.trimmed_strip spec.toList)
    · exact (ColumnType.ofName_eq_ok_iff parts.letters).mpr spelled

theorem ofSpec_eq_error_iff {e : SchemaError} : ofSpec spec = .error e ↔
    ((∀ front word, ¬ HasParts (Text.strip spec.toList) front word) ∧ e = .malformedSpec spec) ∨
    ∃ front word, HasParts (Text.strip spec.toList) front word ∧
      (∀ type : ColumnType, ¬ type.Spells (.ofList word)) ∧
      e = .untypedSpec spec ⟨.ofList word⟩ := by
  constructor
  · intro failed
    by_cases apart : ∃ front word, HasParts (Text.strip spec.toList) front word
    · obtain ⟨front, word, parts⟩ := apart
      rw [ofSpec_of_parts parts, map_eq_error_iff] at failed
      right
      refine ⟨front, word, parts, ?_⟩
      cases spelled : ColumnType.ofName (.ofList word) with
      | ok type =>
          rw [spelled] at failed
          cases failed
      | error cause =>
          rw [spelled] at failed
          cases failed
          obtain ⟨unspelled, rfl⟩ := ColumnType.ofName_eq_error_iff.mp spelled
          refine ⟨?_, rfl⟩
          intro type spells
          exact unspelled type ((ColumnType.ofName_eq_ok_iff parts.letters).mpr spells)
    · left
      have none : ∀ front word, ¬ HasParts (Text.strip spec.toList) front word := by
        intro front word parts
        exact apart ⟨front, word, parts⟩
      rw [ofSpec_of_no_parts none] at failed
      cases failed
      exact ⟨none, rfl⟩
  · rintro (⟨none, rfl⟩ | ⟨front, word, parts, unspelled, rfl⟩)
    · exact ofSpec_of_no_parts none
    · have unknown : ColumnType.ofName (.ofList word) = .error ⟨.ofList word⟩ := by
        apply ColumnType.ofName_eq_error_iff.mpr
        refine ⟨?_, rfl⟩
        intro type spelled
        exact unspelled type ((ColumnType.ofName_eq_ok_iff parts.letters).mp spelled)
      rw [ofSpec_of_parts parts, unknown]
      rfl

end Field

namespace Column

/-- A spec is read exactly if, without the blanks around it, it falls at its last colon into a name
part, which is not empty and has no line feed, and a word of letters behind any blanks, which spells
a type in any letter case. The column is placed at the index, with the type and with the name part
without the blanks around it, which is never empty. A spec without these parts is reported as
malformed, one whose word spells no type is reported with the word, and no spec is reported for an
empty name. The pattern of specs finds the same parts. -/
theorem ofSpec_reads_grammar (spec : String) (index : Int) :
    (∀ c, ofSpec spec index = .ok c ↔ ∃ front word type,
      Field.HasParts (Text.strip spec.toList) front word ∧ type.Spells (.ofList word) ∧
        c = ⟨.ofList (Text.strip front), index, type⟩) ∧
    (∀ c, ofSpec spec index = .ok c → c.name ≠ "") ∧
    (∀ e, ofSpec spec index = .error e ↔
      ((∀ front word, ¬ Field.HasParts (Text.strip spec.toList) front word) ∧
        e = .malformedSpec spec) ∨
      ∃ front word, Field.HasParts (Text.strip spec.toList) front word ∧
        (∀ type : ColumnType, ¬ type.Spells (.ofList word)) ∧
        e = .untypedSpec spec ⟨.ofList word⟩) ∧
    (∀ text, ofSpec spec index ≠ .error (.unnamedSpec text)) ∧
    ∀ groups, Field.specPattern.first? (Text.strip spec.toList) = some groups ↔
      ∃ front word,
        Field.HasParts (Text.strip spec.toList) front word ∧ groups = [front, word] := by
  have errors : ∀ e, ofSpec spec index = .error e ↔ _ := fun e =>
    map_eq_error_iff.trans Field.ofSpec_eq_error_iff
  refine ⟨?_, ?_, errors, ?_, ?_⟩
  · intro c
    rw [ofSpec, map_eq_ok_iff]
    simp only [Field.ofSpec_eq_ok_iff_hasParts]
    constructor
    · rintro ⟨f, ⟨front, word, parts, spells, named⟩, rfl⟩
      refine ⟨front, word, f.type, parts, spells, ?_⟩
      rw [← named]
      rfl
    · rintro ⟨front, word, type, parts, spells, rfl⟩
      exact ⟨⟨.ofList (Text.strip front), type⟩, ⟨front, word, parts, spells, rfl⟩, rfl⟩
  · intro c read
    obtain ⟨f, own, rfl⟩ := map_eq_ok_iff.mp read
    exact (Field.legible_of_ofSpec own).named
  · intro text failed
    rcases (errors _).mp failed with ⟨-, ⟨⟩⟩ | ⟨front, word, -, -, ⟨⟩⟩
  · intro groups
    have trimmed := Text.trimmed_strip spec.toList
    rw [Field.first?_specPattern trimmed, Option.map_eq_some_iff]
    constructor
    · rintro ⟨⟨front, word⟩, split, rfl⟩
      exact ⟨front, word, Field.splitSpec?_iff_hasParts.mp split, rfl⟩
    · rintro ⟨front, word, parts, rfl⟩
      exact ⟨(front, word), Field.splitSpec?_iff_hasParts.mpr parts, rfl⟩

/-- Blanks and further colons inside the name stay; a line feed may stand before the type. -/
example : ofSpec " a: b :\n INT\n" 3 = .ok ⟨"a: b", 3, .long⟩ := rfl

end Column

end TypedPages
