import TypedPages.Text.Case

/-!
# Lowering twice

No run of the case table lands on a character that is lowered itself: it ends elsewhere, or it steps
on the other places. So a text that was lowered consists of characters that stay, whatever stands
around them, and lowering it again changes nothing.
-/

namespace TypedPages.Text

namespace CaseRun

variable {run other : CaseRun} {code : Nat}

/-- The place to which the first step is moved. -/
def landFirst (run : CaseRun) : Nat :=
  (run.first + run.shift).toNat

/-- The place to which the last step is moved. -/
def landLast (run : CaseRun) : Nat :=
  (run.last + run.shift).toNat

/-- The run leaves out every second place between its ends. -/
def skips (run : CaseRun) : Bool :=
  run.stride % 2 == 0 || run.first == run.last

/-- All steps are moved to characters. -/
def landsInside (run : CaseRun) : Bool :=
  decide (0 ≤ run.first + run.shift) &&
    (run.landLast.blt 0xD800 || Nat.blt 0xDFFF run.landFirst && run.landLast.blt 0x110000)

/-- The run lands before or behind the other one, or between its steps. -/
def clears (run other : CaseRun) : Bool :=
  run.landLast.blt other.first || other.last.blt run.landFirst ||
    run.skips && other.skips && (run.landFirst + other.first) % 2 == 1

theorem moves_iff : run.moves code = true ↔
    run.first ≤ code ∧ code ≤ run.last ∧ run.stride ∣ code - run.first := by
  simp [moves, and_assoc, Nat.dvd_iff_mod_eq_zero]

/-- Steps of a run that skips places are an even way apart. -/
theorem even_of_skips (skips : run.skips = true) (moved : run.moves code = true) :
    2 ∣ code - run.first := by
  obtain ⟨low, high, step⟩ := moves_iff.mp moved
  rcases Bool.or_eq_true_iff.mp skips with even | single
  · exact Nat.dvd_trans (Nat.dvd_of_mod_eq_zero (beq_iff_eq.mp even)) step
  · have same : run.first = run.last := beq_iff_eq.mp single
    omega

theorem isValidChar_of_moves (inside : run.landsInside = true) (moved : run.moves code = true) :
    (code + run.shift).toNat.isValidChar := by
  obtain ⟨low, high, -⟩ := moves_iff.mp moved
  simp only [landsInside, landFirst, landLast, Bool.and_eq_true, Bool.or_eq_true, Nat.blt_eq,
    decide_eq_true_eq] at inside
  simp only [Nat.isValidChar]
  omega

theorem not_moves_of_clears (clear : run.clears other = true) (inside : run.landsInside = true)
    (moved : run.moves code = true) : other.moves (code + run.shift).toNat = false := by
  apply Bool.eq_false_iff.mpr
  intro again
  obtain ⟨low, high, -⟩ := moves_iff.mp moved
  obtain ⟨low', high', -⟩ := moves_iff.mp again
  have start : 0 ≤ run.first + run.shift := of_decide_eq_true (Bool.and_eq_true_iff.mp inside).1
  simp only [clears, landFirst, landLast, Bool.or_eq_true, Bool.and_eq_true, Nat.blt_eq,
    beq_iff_eq] at clear
  rcases clear with (before | behind) | ⟨⟨skips, skips'⟩, odd⟩
  · omega
  · omega
  · have own := even_of_skips skips moved
    have others := even_of_skips skips' again
    omega

end CaseRun

variable {c d : Char} {cs before after : List Char}

/-- The dotted capital I, whose lower case has two characters, as a run of its own. -/
def dottedRun : CaseRun := ⟨0x130, 0x130, 1, 0⟩

/-- All runs clear each other. -/
theorem lowerRuns_clear : (lowerRuns.all fun run =>
    run.landsInside && (dottedRun :: lowerRuns).all run.clears) = true := by
  decide +kernel

/-- A character is its own lower case, wherever it stands. -/
def IsLow (c : Char) : Prop :=
  ∀ before after, lowerAt before c after = [c]

theorem isLow_toLower (ascii : c.toNat < 0x80) : IsLow c.toLower := by
  have table : ∀ code < 0x80, (Char.ofNat code).toLower.toNat < 0x80 ∧
      (Char.ofNat code).toLower.toLower = (Char.ofNat code).toLower := by decide
  obtain ⟨small, again⟩ := table c.toNat ascii
  rw [Char.ofNat_toNat] at small again
  intro before after
  rw [lowerAt, if_pos small, again]

/-- Characters that nothing moves are low. -/
theorem isLow_of_unmoved (unmoved : ∀ run ∈ dottedRun :: lowerRuns, run.moves c.toNat = false) :
    IsLow c := by
  obtain ⟨dotted, runs⟩ := List.forall_mem_cons.mp unmoved
  intro before after
  rw [lowerAt]
  by_cases ascii : c.toNat < 0x80
  · have table : ∀ code < 0x80, CaseRun.moves ⟨0x41, 0x5A, 1, 32⟩ code = false →
        (Char.ofNat code).toLower = Char.ofNat code := by decide
    have stays := table c.toNat ascii (runs _ List.mem_cons_self)
    rw [Char.ofNat_toNat] at stays
    rw [if_pos ascii, stays]
  · have undotted : c.toNat ≠ 0x130 := by
      intro same
      rw [same] at dotted
      cases dotted
    have sigma : ∃ run ∈ lowerRuns, run.moves 0x3A3 = true := by decide +kernel
    have other : c.toNat ≠ 0x3A3 := by
      intro same
      obtain ⟨run, known, moved⟩ := sigma
      rw [← same, runs run known] at moved
      cases moved
    have nothing : lowerRuns.find? (·.moves c.toNat) = none := by
      apply List.find?_eq_none.mpr
      intro run member
      rw [runs run member]
      exact Bool.false_ne_true
    rw [if_neg ascii, if_neg undotted, if_neg other, moveBy, nothing]

/-- Where a run lands nothing is moved. -/
theorem isLow_ofNat_of_moves {run : CaseRun} {code : Nat} (member : run ∈ lowerRuns)
    (moved : run.moves code = true) : IsLow (.ofNat (code + run.shift).toNat) := by
  obtain ⟨inside, clear⟩ :=
    Bool.and_eq_true_iff.mp (List.all_eq_true.mp lowerRuns_clear run member)
  have landed : (Char.ofNat (code + run.shift).toNat).toNat = (code + run.shift).toNat := by
    rw [Char.ofNat, dif_pos (CaseRun.isValidChar_of_moves inside moved)]
    rfl
  apply isLow_of_unmoved
  intro other known
  rw [landed]
  exact CaseRun.not_moves_of_clears (List.all_eq_true.mp clear other known) inside moved

theorem isLow_of_mem_lowerAt (member : d ∈ lowerAt before c after) : IsLow d := by
  rw [lowerAt] at member
  split at member
  · rename_i ascii
    rw [List.mem_singleton.mp member]
    exact isLow_toLower ascii
  · split at member
    · rcases List.mem_cons.mp member with rfl | mark
      · exact isLow_of_unmoved (by decide +kernel)
      · rw [List.mem_singleton.mp mark]
        exact isLow_of_unmoved (by decide +kernel)
    · rename_i undotted
      split at member
      · rw [List.mem_singleton.mp member]
        split <;> exact isLow_of_unmoved (by decide +kernel)
      · rw [List.mem_singleton.mp member, moveBy]
        split
        · rename_i run found
          have moved : run.moves c.toNat = true :=
            List.find?_some (p := fun own : CaseRun => own.moves c.toNat) found
          exact isLow_ofNat_of_moves (List.mem_of_find?_eq_some found) moved
        · rename_i nothing
          apply isLow_of_unmoved
          refine List.forall_mem_cons.mpr ⟨?_, ?_⟩
          · apply Bool.eq_false_iff.mpr
            intro dotted
            obtain ⟨low, high, -⟩ := CaseRun.moves_iff.mp dotted
            exact undotted (Nat.le_antisymm high low)
          · intro run known
            exact Bool.eq_false_iff.mpr (List.find?_eq_none.mp nothing run known)

theorem isLow_of_mem_lowerFrom (member : d ∈ lowerFrom before cs) : IsLow d := by
  induction cs generalizing before with
  | nil => cases member
  | cons c cs ih =>
      rcases List.mem_append.mp member with first | later
      · exact isLow_of_mem_lowerAt first
      · exact ih later

theorem lowerFrom_of_isLow (low : ∀ c ∈ cs, IsLow c) : lowerFrom before cs = cs := by
  induction cs generalizing before with
  | nil => rfl
  | cons c cs ih =>
      obtain ⟨first, others⟩ := List.forall_mem_cons.mp low
      rw [lowerFrom, first, ih others]
      rfl

/-- Lowering a text twice is lowering it once. -/
theorem lower_lower (s : String) : lower (lower s) = lower s := by
  have low : ∀ c ∈ lowerFrom [] s.toList, IsLow c := fun _ member => isLow_of_mem_lowerFrom member
  rw [lower, lower, String.toList_ofList, lowerFrom_of_isLow low]

end TypedPages.Text
