import Mathlib.Data.List.Basic
import TypedPages.Text.Blank

/-!
# Patterns of texts

A pattern is tried from the front of a text. A run of characters first takes as many as it can, and
gives them back one by one as long as the rest of the pattern does not fit; the first way in which
everything fits is the match. What can fit is said without any order by a relation, and the order in
which the ways are tried decides nothing where there is only one.
-/

namespace TypedPages.Text

/-- A part of a pattern: a certain character, a run of at least some characters of a class, which
may be a group whose characters are remembered, or the end of the text. -/
inductive Part where
  | char (c : Char)
  | run (accepts : Char → Bool) (least : Nat)
  | group (accepts : Char → Bool) (least : Nat)
  | ending

/-- Parts that follow each other. -/
abbrev Pattern := List Part

namespace Pattern

/-- The ways to take characters of a class from the front of a text, each with what it leaves, the
longest first. -/
def takings (accepts : Char → Bool) : List Char → List (List Char × List Char)
  | [] => [([], [])]
  | c :: cs =>
    if accepts c then
      (takings accepts cs).map (fun (taken, rest) => (c :: taken, rest)) ++ [([], c :: cs)]
    else [([], c :: cs)]

/-- The ways in which a pattern fits the front of a text, in the order in which they are tried. Each
is told by its groups. The text may end with a line feed behind what the pattern takes for the
end. -/
def ways : Pattern → List Char → List (List (List Char))
  | [], _ => [[]]
  | .char _ :: _, [] => []
  | .char d :: parts, c :: cs => if c = d then ways parts cs else []
  | .run accepts least :: parts, cs =>
    ((takings accepts cs).filter fun (taken, _) => least ≤ taken.length).flatMap
      fun (_, rest) => ways parts rest
  | .group accepts least :: parts, cs =>
    ((takings accepts cs).filter fun (taken, _) => least ≤ taken.length).flatMap
      fun (taken, rest) => (ways parts rest).map (taken :: ·)
  | .ending :: parts, cs => if cs = [] ∨ cs = ['\n'] then ways parts cs else []

/-- The groups of the first way in which a pattern fits. -/
def first? (p : Pattern) (cs : List Char) : Option (List (List Char)) :=
  (p.ways cs).head?

/-- A pattern can fit the front of a text with the given groups. -/
inductive Fits : Pattern → List Char → List (List Char) → Prop where
  | done (cs : List Char) : Fits [] cs []
  | char {c : Char} {parts : Pattern} {cs : List Char} {groups : List (List Char)}
      (later : Fits parts cs groups) : Fits (.char c :: parts) (c :: cs) groups
  | run {accepts : Char → Bool} {least : Nat} {parts : Pattern} {taken rest : List Char}
      {groups : List (List Char)} (long : least ≤ taken.length)
      (own : ∀ c ∈ taken, accepts c = true) (later : Fits parts rest groups) :
      Fits (.run accepts least :: parts) (taken ++ rest) groups
  | group {accepts : Char → Bool} {least : Nat} {parts : Pattern} {taken rest : List Char}
      {groups : List (List Char)} (long : least ≤ taken.length)
      (own : ∀ c ∈ taken, accepts c = true) (later : Fits parts rest groups) :
      Fits (.group accepts least :: parts) (taken ++ rest) (taken :: groups)
  | ending {parts : Pattern} {cs : List Char} {groups : List (List Char)}
      (ends : cs = [] ∨ cs = ['\n']) (later : Fits parts cs groups) :
      Fits (.ending :: parts) cs groups

variable {p : Pattern} {cs taken rest : List Char} {groups : List (List Char)}
variable {accepts : Char → Bool}

/-- Characters of the class can be taken up to any point, and no others. -/
theorem mem_takings_iff : (taken, rest) ∈ takings accepts cs ↔
    cs = taken ++ rest ∧ ∀ c ∈ taken, accepts c = true := by
  induction cs generalizing taken with
  | nil =>
      simp only [takings, List.mem_singleton, Prod.mk.injEq]
      constructor
      · rintro ⟨rfl, rfl⟩
        exact ⟨rfl, by simp⟩
      · rintro ⟨whole, -⟩
        exact List.append_eq_nil_iff.mp whole.symm
  | cons d cs ih =>
      cases taken with
      | nil =>
          have stop : ([], rest) ∈ takings accepts (d :: cs) ↔ rest = d :: cs := by
            rw [takings]
            split <;> simp
          rw [stop]
          constructor
          · rintro rfl
            exact ⟨rfl, by simp⟩
          · rintro ⟨whole, -⟩
            exact whole.symm
      | cons c taken =>
          have go : (c :: taken, rest) ∈ takings accepts (d :: cs) ↔
              accepts d = true ∧ c = d ∧ (taken, rest) ∈ takings accepts cs := by
            rw [takings]
            split <;> rename_i own
            · simp only [List.mem_append, List.mem_map, List.mem_singleton, Prod.mk.injEq]
              constructor
              · rintro (⟨⟨_, _⟩, member, same, rfl⟩ | ⟨none, -⟩)
                · obtain ⟨rfl, rfl⟩ := List.cons.inj same
                  exact ⟨own, rfl, member⟩
                · cases none
              · rintro ⟨-, rfl, member⟩
                exact .inl ⟨(taken, rest), member, rfl, rfl⟩
            · simp [own]
          rw [go, ih]
          constructor
          · rintro ⟨own, rfl, rfl, others⟩
            exact ⟨rfl, List.forall_mem_cons.mpr ⟨own, others⟩⟩
          · rintro ⟨whole, all⟩
            obtain ⟨rfl, rfl⟩ := List.cons.inj whole
            obtain ⟨own, others⟩ := List.forall_mem_cons.mp all
            exact ⟨own, rfl, rfl, others⟩

/-- All ways to fit are tried, and nothing else. -/
theorem mem_ways_iff : groups ∈ p.ways cs ↔ p.Fits cs groups := by
  induction p generalizing cs groups with
  | nil =>
      rw [ways, List.mem_singleton]
      constructor
      · rintro rfl
        exact .done cs
      · rintro ⟨⟩
        rfl
  | cons part parts ih =>
      cases part with
      | char d =>
          cases cs with
          | nil => exact iff_of_false (by simp [ways]) nofun
          | cons c cs =>
              rw [ways]
              split <;> rename_i same
              · subst same
                rw [ih]
                constructor
                · exact .char
                · intro fits
                  cases fits with
                  | char later => exact later
              · refine iff_of_false List.not_mem_nil ?_
                rintro ⟨⟩
                exact same rfl
      | run accepts least =>
          simp only [ways, List.mem_flatMap, List.mem_filter, decide_eq_true_eq]
          constructor
          · rintro ⟨⟨taken, rest⟩, ⟨member, long⟩, later⟩
            obtain ⟨rfl, own⟩ := mem_takings_iff.mp member
            exact .run long own (ih.mp later)
          · intro fits
            cases fits with
            | run long own later =>
                exact ⟨_, ⟨mem_takings_iff.mpr ⟨rfl, own⟩, long⟩, ih.mpr later⟩
      | group accepts least =>
          simp only [ways, List.mem_flatMap, List.mem_filter, decide_eq_true_eq, List.mem_map]
          constructor
          · rintro ⟨⟨taken, rest⟩, ⟨member, long⟩, others, later, rfl⟩
            obtain ⟨rfl, own⟩ := mem_takings_iff.mp member
            exact .group long own (ih.mp later)
          · intro fits
            cases fits with
            | group long own later =>
                exact ⟨_, ⟨mem_takings_iff.mpr ⟨rfl, own⟩, long⟩, _, ih.mpr later, rfl⟩
      | ending =>
          rw [ways]
          split <;> rename_i ends
          · rw [ih]
            constructor
            · exact .ending ends
            · intro fits
              cases fits with
              | ending _ later => exact later
          · refine iff_of_false List.not_mem_nil ?_
            intro fits
            cases fits with
            | ending ends' _ => exact ends ends'

/-- What is found fits. -/
theorem fits_of_first? (found : p.first? cs = some groups) : p.Fits cs groups :=
  mem_ways_iff.mp (List.mem_of_head? found)

/-- Where only certain groups fit, these are found. -/
theorem first?_of_fits (fits : p.Fits cs groups)
    (unique : ∀ others, p.Fits cs others → others = groups) : p.first? cs = some groups := by
  have tried : p.ways cs ≠ [] := List.ne_nil_of_mem (mem_ways_iff.mpr fits)
  have found := List.head?_eq_some_head tried
  rw [first?, found, unique _ (fits_of_first? found)]

end Pattern

end TypedPages.Text
