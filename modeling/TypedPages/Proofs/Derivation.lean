import TypedPages.Proofs.Negotiation
import TypedPages.Proofs.Retention

/-!
# What the built-in filter makes of a configuration

A configuration is read as a selection, and the selection is resolved. What comes of it decides
about the proposal, and also about what is logged meanwhile: names that no column has are reported
before the output schema is made, but once they are told from the others nothing can fail any more.
So they are reported only if a projection follows.
-/

namespace TypedPages

namespace Filter

variable {config : Document} {input : Schema} {s : Selection} {p : Projection} {e : Error}
variable {name : String} {accept : Option (Schema → Bool)}

/-- What the built-in filter makes of a configuration: it is read as a selection, and that is
resolved. -/
def projectionOf (config : Document) (input : Schema) : Except Error Projection := do
  let s ← (Selection.ofDocument config).mapError .options
  Projection.resolve input s

theorem projectionOf_eq_ok_iff : projectionOf config input = .ok p ↔
    ∃ s, Selection.ofDocument config = .ok s ∧ Projection.resolve input s = .ok p := by
  simp only [projectionOf, bind_eq_ok_iff, mapError_eq_ok_iff]

theorem projectionOf_of_parsed (parsed : Selection.ofDocument config = .ok s) :
    projectionOf config input = Projection.resolve input s := by
  rw [projectionOf, parsed]
  rfl

theorem projectionOf_of_unparsed {cause : OptionsError}
    (unparsed : Selection.ofDocument config = .error cause) :
    projectionOf config input = .error (.options cause) := by
  rw [projectionOf, unparsed]
  rfl

/-- If nothing can be made of a configuration, then it is the configuration that is to blame. -/
theorem cause_of_projectionOf (failed : projectionOf config input = .error e) :
    (∃ cause, e = .options cause) ∨ ∃ cause, e = .selection cause := by
  cases parsed : Selection.ofDocument config with
  | error cause =>
      rw [projectionOf_of_unparsed parsed] at failed
      cases failed
      exact .inl ⟨cause, rfl⟩
  | ok s =>
      rw [projectionOf_of_parsed parsed] at failed
      rcases Projection.resolve_cases input s with
        ⟨cause, -, ends⟩ | ⟨_, _, -, ⟨-, name, -, ends⟩ | ⟨p, ends, -⟩⟩
      · rw [ends] at failed
        cases failed
        exact .inr ⟨cause, rfl⟩
      · rw [ends] at failed
        cases failed
        exact .inr ⟨.unmatched name, rfl⟩
      · rw [ends] at failed
        cases failed

/-! ## What is logged -/

/-- The report of the names that no column has, if there are any. -/
def skipReport (p : Projection) : List LogEvent :=
  if p.unmatched.isEmpty then [] else [unmatchedEvent p.choice p.unmatched]

theorem skipReport_of_nil (none : p.unmatched = []) : skipReport p = [] := by
  rw [skipReport, none]
  rfl

theorem skipReport_of_ne_nil (some : p.unmatched ≠ []) :
    skipReport p = [unmatchedEvent p.choice p.unmatched] :=
  if_neg fun empty => some (List.isEmpty_iff.mp empty)

theorem resolutionLog_of_resolve (resolved : Projection.resolve input s = .ok p) :
    resolutionLog input s = skipReport p := by
  simp only [Projection.resolve, bind_eq_ok_iff, mapError_eq_ok_iff] at resolved
  obtain ⟨⟨choice, names⟩, given, ⟨hits, unmatched⟩, matched, _, -, _, -, made⟩ := resolved
  cases made
  rw [resolutionLog, given]
  simp only [matched, skipReport]

/-- Names are not reported when the resolution fails, for it has failed before they are known. -/
theorem resolutionLog_of_unresolved (failed : Projection.resolve input s = .error e) :
    resolutionLog input s = [] := by
  rw [resolutionLog]
  split
  · rfl
  · rename_i choice names given
    split
    · rfl
    · -- The names are told apart, and a schema and a table can be made of any of them.
      rename_i hits unmatched matched
      have known := Schema.exists_matchNames_iff.mp ⟨(hits, unmatched), matched⟩
      obtain ⟨p, resolved⟩ := Projection.exists_resolve_iff.mpr ⟨choice, names, given, known⟩
      rw [resolved] at failed
      cases failed

/-! ## What is proposed -/

theorem log_of_projectionOf (made : projectionOf config input = .ok p) :
    (proposeSelection config input).log = skipReport p ++ [resolvedEvent input p] := by
  obtain ⟨s, parsed, resolved⟩ := projectionOf_eq_ok_iff.mp made
  rw [proposeSelection]
  simp only [parsed, resolved, resolutionLog_of_resolve resolved]

/-- The built-in filter breaks off with what is wrong with its configuration. It has not made a call
then, and has logged nothing. -/
theorem proposeSelection_of_projectionOf_error (failed : projectionOf config input = .error e) :
    proposeSelection config input = ⟨[], [], some e⟩ := by
  rw [proposeSelection]
  cases parsed : Selection.ofDocument config with
  | error cause =>
      rw [projectionOf_of_unparsed parsed] at failed
      cases failed
      rfl
  | ok s =>
      rw [projectionOf_of_parsed parsed] at failed
      simp only [failed, resolutionLog_of_unresolved failed]

theorem settle_of_projectionOf_error (failed : projectionOf config input = .error e) :
    ((proposeSelection config input).settle name accept).outcome = .error e := by
  rw [proposeSelection_of_projectionOf_error failed]
  rfl

/-- If nobody is to accept it, the output schema is settled on. -/
theorem settle_of_projectionOf (name : String) (made : projectionOf config input = .ok p) :
    ∃ task, ((proposeSelection config input).settle name none).outcome = .ok (task, p.output) := by
  obtain ⟨s, parsed, resolved⟩ := projectionOf_eq_ok_iff.mp made
  exact ⟨s.toDocument, settle_proposeSelection_eq_ok_iff.mpr
    ⟨s, p, parsed, resolved, rfl, rfl, nofun⟩⟩

end Filter

end TypedPages
