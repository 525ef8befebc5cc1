import TypedPages.Sink

/-!
# Scripts of sink calls

A script is a list of calls that are made one after the other, up to the first that is refused.
What a sink has received afterwards is a prefix of the script, and nothing follows a refusal.
-/

namespace TypedPages

namespace Sink

variable {s t : Sink} {failure : Failure}

/-- The sink would refuse none of the calls if they were made one after the other. -/
def Takes (s : Sink) (script : List SinkCall) : Prop :=
  ∀ front call later, script = front ++ call :: later →
    s.refuses (s.calls ++ front ++ [call]) = none

/-- Makes calls one after the other, up to the first that is refused. -/
def tellAll : Sink → List SinkCall → Except Failure Unit × Sink
  | s, [] => (.ok (), s)
  | s, call :: script =>
    match s.tell call with
    | (.ok (), s) => s.tellAll script
    | (.error failure, s) => (.error failure, s)

@[simp] theorem tellAll_nil (s : Sink) : s.tellAll [] = (.ok (), s) := rfl

@[simp] theorem refuses_tellAll (s : Sink) (script : List SinkCall) :
    (s.tellAll script).2.refuses = s.refuses := by
  induction script generalizing s with
  | nil => rfl
  | cons call script ih =>
      have kept := refuses_tell s call
      rw [tellAll]
      split <;> rename_i told <;> rw [told] at kept
      · exact (ih _).trans kept
      · exact kept

theorem refuses_of_tellAll {script : List SinkCall} {answered : Except Failure Unit}
    (told : s.tellAll script = (answered, t)) : t.refuses = s.refuses := by
  have kept := refuses_tellAll s script
  rw [told] at kept
  exact kept

theorem tell_of_taken {call : SinkCall} (h : s.refuses (s.calls ++ [call]) = none) :
    s.tell call = (.ok (), { s with calls := s.calls ++ [call] }) := by
  simp [tell, h]

theorem tell_of_refused {call : SinkCall} (h : s.refuses (s.calls ++ [call]) = some failure) :
    s.tell call = (.error failure, { s with calls := s.calls ++ [call] }) := by
  simp [tell, h]

theorem tellAll_singleton (s : Sink) (call : SinkCall) : s.tellAll [call] = s.tell call := by
  rw [tellAll]
  split <;> rename_i told <;> simp [told]

theorem tellAll_append_of_ok {front : List SinkCall} (h : s.tellAll front = (.ok (), t))
    (later : List SinkCall) : s.tellAll (front ++ later) = t.tellAll later := by
  induction front generalizing s with
  | nil =>
      obtain ⟨-, rfl⟩ := Prod.mk.inj h
      rfl
  | cons call front ih =>
      rw [List.cons_append, tellAll]
      rw [tellAll] at h
      split at h
      · exact ih h
      · cases h

/-- After a refusal the rest of a script is not told. -/
theorem tellAll_append_of_error {front : List SinkCall}
    (h : s.tellAll front = (.error failure, t)) (later : List SinkCall) :
    s.tellAll (front ++ later) = (.error failure, t) := by
  induction front generalizing s with
  | nil => cases h
  | cons call front ih =>
      rw [List.cons_append, tellAll]
      rw [tellAll] at h
      split at h
      · exact ih h
      · exact h

theorem takes_cons {call : SinkCall} {script : List SinkCall} :
    s.Takes (call :: script) ↔ s.refuses (s.calls ++ [call]) = none ∧
      ({ s with calls := s.calls ++ [call] } : Sink).Takes script := by
  constructor
  · intro h
    refine ⟨by simpa using h [] call script rfl, ?_⟩
    rintro front next later rfl
    simpa using h (call :: front) next later rfl
  · rintro ⟨first, others⟩ front next later hsplit
    cases front with
    | nil =>
        obtain ⟨rfl, -⟩ := List.cons.inj hsplit
        simpa using first
    | cons head front =>
        obtain ⟨rfl, tail⟩ := List.cons.inj hsplit
        simpa using others front next later tail

/-- A sink that takes every call of a script has received all of it in the end. -/
theorem tellAll_eq_ok_iff {script : List SinkCall} :
    s.tellAll script = (.ok (), t) ↔
      s.Takes script ∧ t = { s with calls := s.calls ++ script } := by
  induction script generalizing s with
  | nil =>
      constructor
      · intro h
        obtain ⟨-, rfl⟩ := Prod.mk.inj h
        exact ⟨fun front call later hsplit => by simp at hsplit, by simp⟩
      · rintro ⟨-, rfl⟩
        simp
  | cons call script ih =>
      rw [tellAll, takes_cons]
      cases answer : s.refuses (s.calls ++ [call]) with
      | none => simp [tell_of_taken answer, ih]
      | some failure => simp [tell_of_refused answer]

/-- A sink that refuses a script has taken the calls in front of the refused one, and has received
that one too. -/
theorem tellAll_eq_error_iff {script : List SinkCall} :
    s.tellAll script = (.error failure, t) ↔
      ∃ front call later, script = front ++ call :: later ∧ s.Takes front ∧
        s.refuses (s.calls ++ front ++ [call]) = some failure ∧
        t = { s with calls := s.calls ++ front ++ [call] } := by
  induction script generalizing s with
  | nil => simp
  | cons call script ih =>
      rw [tellAll]
      cases answer : s.refuses (s.calls ++ [call]) with
      | none =>
          simp only [tell_of_taken answer, ih]
          constructor
          · rintro ⟨front, next, later, rfl, takes, refused, rfl⟩
            exact ⟨call :: front, next, later, rfl, takes_cons.mpr ⟨answer, takes⟩,
              by simpa using refused, by simp⟩
          · rintro ⟨front, next, later, hsplit, takes, refused, rfl⟩
            cases front with
            | nil =>
                obtain ⟨rfl, -⟩ := List.cons.inj hsplit
                simp [answer] at refused
            | cons head front =>
                obtain ⟨rfl, tail⟩ := List.cons.inj hsplit
                exact ⟨front, next, later, tail, (takes_cons.mp takes).2,
                  by simpa using refused, by simp⟩
      | some first =>
          simp only [tell_of_refused answer]
          constructor
          · intro h
            obtain ⟨hfailure, rfl⟩ := Prod.mk.inj h
            cases hfailure
            exact ⟨[], call, script, rfl, by
              intro front next later hsplit
              simp at hsplit, by simpa using answer, by simp⟩
          · rintro ⟨front, next, later, hsplit, takes, refused, rfl⟩
            cases front with
            | nil =>
                obtain ⟨rfl, -⟩ := List.cons.inj hsplit
                simp only [List.append_nil, answer, Option.some.injEq] at refused
                simp [refused]
            | cons head front =>
                obtain ⟨rfl, tail⟩ := List.cons.inj hsplit
                simp [(takes_cons.mp takes).1] at answer

/-- What a sink receives of a script is a front part of it, of which only the last call can have
been refused. -/
theorem exists_received (s : Sink) (script : List SinkCall) :
    ∃ received, received <+: script ∧
      (s.tellAll script).2 = { s with calls := s.calls ++ received } ∧
      ∀ front call later, received = front ++ call :: later →
        s.refuses (s.calls ++ front ++ [call]) ≠ none → later = [] := by
  cases told : s.tellAll script with
  | mk answered t =>
      cases answered with
      | ok =>
          obtain ⟨takes, rfl⟩ := tellAll_eq_ok_iff.mp told
          exact ⟨script, List.prefix_rfl, rfl, fun front call later split refused =>
            absurd (takes front call later split) refused⟩
      | error failure =>
          obtain ⟨front, call, later, rfl, takes, -, rfl⟩ := tellAll_eq_error_iff.mp told
          refine ⟨front ++ [call], ⟨later, by simp⟩, by simp, ?_⟩
          intro before next behind split refused
          rcases List.eq_nil_or_concat behind with rfl | ⟨others, last, rfl⟩
          · rfl
          · have taken : front = before ++ next :: others := by
              rw [List.concat_eq_append, ← List.cons_append, ← List.append_assoc] at split
              exact (List.append_inj' split rfl).1
            exact absurd (takes before next others taken) refused

/-- If a sink has refused nothing that it received of a script and of one more call, it has taken
them all. -/
theorem tell_of_received_taken {script : List SinkCall} {call : SinkCall}
    {answered : Except Failure Unit} (told : s.tellAll script = (answered, t))
    (taken : ∀ received, (t.tell call).2.calls = s.calls ++ received → s.Takes received) :
    answered = .ok () ∧
      t.tell call = (.ok (), { s with calls := s.calls ++ (script ++ [call]) }) := by
  cases answered with
  | error failure =>
      obtain ⟨front, refused, later, -, -, answer, rfl⟩ := tellAll_eq_error_iff.mp told
      have := taken (front ++ [refused, call]) (by simp) front refused [call] rfl
      rw [this] at answer
      cases answer
  | ok =>
      obtain ⟨takes, rfl⟩ := tellAll_eq_ok_iff.mp told
      have answer := taken (script ++ [call]) (by simp) script call [] rfl
      refine ⟨rfl, ?_⟩
      rw [tell_of_taken answer, List.append_assoc]

end Sink

end TypedPages
