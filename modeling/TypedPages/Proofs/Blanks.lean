import Mathlib.Data.List.DropRight
import Mathlib.Data.List.TakeWhile
import TypedPages.Text.Blank

/-!
# Texts without blanks at their ends

Stripping leaves a part of a text that neither begins nor ends with a blank, and a text that is
like this already is left as it is.
-/

namespace TypedPages.Text

variable {cs : List Char} {c : Char}

/-- No blank stands at either end. -/
structure Trimmed (cs : List Char) : Prop where
  first : ∀ c ∈ cs.head?, isBlank c = false
  last : ∀ c ∈ cs.getLast?, isBlank c = false

theorem strip_eq (cs : List Char) : strip cs = (cs.dropWhile isBlank).rdropWhile isBlank := rfl

/-- What is stripped is a part of the text. -/
theorem strip_infix (cs : List Char) : strip cs <:+: cs := by
  rw [strip_eq]
  have inner := (List.rdropWhile_prefix isBlank (l := cs.dropWhile isBlank)).isInfix
  exact inner.trans (List.dropWhile_suffix isBlank).isInfix

theorem trimmed_strip (cs : List Char) : Trimmed (strip cs) := by
  rw [strip_eq]
  constructor
  · intro c first
    -- What begins the stripped text begins what is left behind the leading blanks.
    obtain ⟨back, whole⟩ := List.rdropWhile_prefix isBlank (l := cs.dropWhile isBlank)
    have found : (cs.dropWhile isBlank).head? = some c := by
      rw [← whole, List.head?_append, first]
      rfl
    have stops := List.head?_dropWhile_not isBlank cs
    rw [found] at stops
    exact stops
  · intro c last
    have nonempty : (cs.dropWhile isBlank).rdropWhile isBlank ≠ [] := by
      intro empty
      rw [empty] at last
      cases last
    rw [List.getLast?_eq_some_getLast nonempty] at last
    obtain rfl := Option.some.inj last
    exact Bool.eq_false_iff.mpr (List.rdropWhile_last_not isBlank _ nonempty)

theorem strip_of_trimmed (h : Trimmed cs) : strip cs = cs := by
  have leading : cs.dropWhile isBlank = cs := by
    apply List.dropWhile_eq_self_iff.mpr
    intro pos
    apply Bool.eq_false_iff.mp
    apply h.first
    rw [List.head?_eq_getElem?, List.getElem?_eq_getElem pos]
    rfl
  rw [strip_eq, leading]
  apply List.rdropWhile_eq_self_iff.mpr
  intro nonempty
  apply Bool.eq_false_iff.mp
  apply h.last
  rw [List.getLast?_eq_some_getLast nonempty]
  rfl

/-- Letters are those of ASCII. -/
theorem toNat_of_isAlpha (h : c.isAlpha = true) :
    (65 ≤ c.toNat ∧ c.toNat ≤ 90) ∨ (97 ≤ c.toNat ∧ c.toNat ≤ 122) := by
  rcases Bool.or_eq_true_iff.mp h with upper | lower
  · obtain ⟨low, high⟩ := of_decide_eq_true upper
    exact .inl ⟨UInt32.le_iff_toNat_le.mp low, UInt32.le_iff_toNat_le.mp high⟩
  · obtain ⟨low, high⟩ := Bool.and_eq_true_iff.mp lower
    exact .inr ⟨UInt32.le_iff_toNat_le.mp (of_decide_eq_true low),
      UInt32.le_iff_toNat_le.mp (of_decide_eq_true high)⟩

/-- No letter is blank. -/
theorem isBlank_of_isAlpha (h : c.isAlpha = true) : isBlank c = false := by
  have range := toNat_of_isAlpha h
  rw [isBlank]
  simp only [Bool.or_eq_false_iff, Bool.and_eq_false_iff, decide_eq_false_iff_not,
    beq_eq_false_iff_ne]
  omega

/-- A text that begins with something else than a blank is not stripped away. -/
theorem strip_ne_nil_of_head (h : isBlank c = false) (cs : List Char) : strip (c :: cs) ≠ [] := by
  have solid : ¬ isBlank c = true := Bool.eq_false_iff.mp h
  rw [strip_eq, List.dropWhile_cons_of_neg solid]
  intro nothing
  exact solid (List.rdropWhile_eq_nil_iff.mp nothing c List.mem_cons_self)

end TypedPages.Text
