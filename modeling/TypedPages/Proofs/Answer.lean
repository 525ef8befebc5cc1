/-!
# Computations that answer or fail

A computation that consists of parts answers exactly if its parts do, one after the other.
-/

namespace TypedPages

variable {α β ε δ : Type}

theorem bind_eq_ok_iff {x : Except ε α} {next : α → Except ε β} {b : β} :
    x >>= next = .ok b ↔ ∃ a, x = .ok a ∧ next a = .ok b := by
  cases x <;> simp [bind, Except.bind]

/-- Errors may be wrapped; answers stay. -/
theorem mapError_eq_ok_iff {x : Except ε α} {wrap : ε → δ} {a : α} :
    x.mapError wrap = .ok a ↔ x = .ok a := by
  constructor
  · intro h
    cases x <;> cases h
    rfl
  · rintro rfl
    rfl

theorem map_eq_ok_iff {x : Except ε α} {f : α → β} {b : β} :
    x.map f = .ok b ↔ ∃ a, x = .ok a ∧ f a = b := by
  cases x <;> simp [Except.map]

/-- Errors stay when the answer is put in other words. -/
theorem map_eq_error_iff {x : Except ε α} {f : α → β} {e : ε} :
    x.map f = .error e ↔ x = .error e := by
  cases x <;> simp [Except.map]

/-- A check of a list answers if it answers for every member. -/
theorem forM_eq_ok_iff {check : α → Except ε Unit} {xs : List α} :
    xs.forM check = .ok () ↔ ∀ x ∈ xs, check x = .ok () := by
  induction xs with
  | nil => simp [pure, Except.pure]
  | cons x xs ih =>
      rw [List.forall_mem_cons, ← ih]
      change (check x >>= fun _ => xs.forM check) = .ok () ↔ _
      rw [bind_eq_ok_iff]
      constructor
      · rintro ⟨⟨⟩, first, others⟩
        exact ⟨first, others⟩
      · rintro ⟨first, others⟩
        exact ⟨(), first, others⟩

/-- A check of a list fails with the failure of the first member that does not pass. -/
theorem forM_eq_error_iff {check : α → Except ε Unit} {xs : List α} {e : ε} :
    xs.forM check = .error e ↔ ∃ before x after, xs = before ++ x :: after ∧
      (∀ y ∈ before, check y = .ok ()) ∧ check x = .error e := by
  constructor
  · intro failed
    induction xs with
    | nil => cases failed
    | cons x xs ih =>
        change (check x >>= fun _ => xs.forM check) = .error e at failed
        cases first : check x with
        | error e' =>
            rw [first] at failed
            cases failed
            exact ⟨[], x, xs, rfl, by simp, first⟩
        | ok passed =>
            rw [first] at failed
            obtain ⟨before, y, after, rfl, passes, last⟩ := ih failed
            refine ⟨x :: before, y, after, rfl, ?_, last⟩
            exact List.forall_mem_cons.mpr ⟨first, passes⟩
  · rintro ⟨before, x, after, rfl, passes, failed⟩
    rw [List.forM_eq_forM, List.forM_append, ← List.forM_eq_forM,
      forM_eq_ok_iff.mpr passes]
    change (check x >>= fun _ => after.forM check) = .error e
    rw [failed]
    rfl

/-- A fold fails with the failure of the first step that does not answer. -/
theorem foldlM_eq_error_iff {step : β → α → Except ε β} {start : β} {xs : List α} {e : ε} :
    xs.foldlM step start = .error e ↔ ∃ before x after reached, xs = before ++ x :: after ∧
      before.foldlM step start = .ok reached ∧ step reached x = .error e := by
  constructor
  · intro failed
    induction xs generalizing start with
    | nil => cases failed
    | cons x xs ih =>
        rw [List.foldlM_cons] at failed
        cases first : step start x with
        | error e' =>
            rw [first] at failed
            cases failed
            exact ⟨[], x, xs, start, rfl, rfl, first⟩
        | ok next =>
            rw [first] at failed
            obtain ⟨before, y, after, reached, rfl, passed, last⟩ := ih failed
            refine ⟨x :: before, y, after, reached, rfl, ?_, last⟩
            rw [List.foldlM_cons, first]
            exact passed
  · rintro ⟨before, x, after, reached, rfl, passed, failed⟩
    rw [List.foldlM_append, passed]
    show (after.foldlM step =<< step reached x) = .error e
    rw [failed]
    rfl

/-- A list is computed if each of its members is. -/
theorem mapM_eq_ok_iff {compute : α → Except ε β} {xs : List α} {ys : List β} :
    xs.mapM compute = .ok ys ↔ xs.map compute = ys.map .ok := by
  induction xs generalizing ys with
  | nil => simp [pure, Except.pure, eq_comm]
  | cons x xs ih =>
      rw [List.mapM_cons, bind_eq_ok_iff]
      constructor
      · rintro ⟨y, first, rest⟩
        obtain ⟨others, computed, whole⟩ := bind_eq_ok_iff.mp rest
        cases whole
        rw [List.map_cons, List.map_cons, first, ih.mp computed]
      · intro same
        obtain ⟨y, others, rfl, first, rest⟩ := List.map_eq_cons_iff.mp same.symm
        refine ⟨y, first.symm, ?_⟩
        rw [ih.mpr rest.symm]
        rfl

end TypedPages
