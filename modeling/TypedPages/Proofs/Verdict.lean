import TypedPages.CommandLine
import TypedPages.Proofs.Acceptance
import TypedPages.Proofs.Derivation
import TypedPages.Proofs.Serving

/-!
# What is said about settings

Settings that were read are checked to the end. What has to hold on the way there, that a pool can
be made and a schema be built and that a level is known, was seen to when they were read, and the
built-in filter proposes at most once. So there are three answers: the filter is not known, its
options come to nothing, or there are two schemas. The title of a complaint tells which one it is.
Only the schemas come with lines of the log; where there is a complaint nothing was logged.
-/

namespace TypedPages

/-- What stands in front of an element that has not occurred yet is determined, and so is what
follows it. -/
theorem append_cons_inj_of_not_mem {α : Type} [DecidableEq α] {a : α}
    {front front' back back' : List α} (early : a ∉ front) (early' : a ∉ front') :
    front ++ a :: back = front' ++ a :: back' ↔ front = front' ∧ back = back' := by
  have before {front back : List α} (early : a ∉ front) :
      (front ++ a :: back).takeWhile (· ≠ a) = front := by
    have passed : ∀ x ∈ front, decide (x ≠ a) = true := fun x member =>
      decide_eq_true (ne_of_mem_of_not_mem member early)
    rw [List.takeWhile_append_of_pos passed]
    simp
  constructor
  · intro same
    obtain rfl : front = front' := by rw [← before early, same, before early']
    exact ⟨rfl, (List.cons.inj (List.append_cancel_left same)).2⟩
  · rintro ⟨rfl, rfl⟩
    rfl

/-! ## Levels -/

/-- The levels that settings can name are thresholds. -/
theorem exists_logThreshold {level : String} (known : level ∈ LogSettings.levels) :
    ∃ rank, logThreshold level = .ok rank := by
  have ranked : ∀ level ∈ LogSettings.levels, (logThresholds.lookup level).isSome = true := by
    decide
  obtain ⟨rank, found⟩ := Option.isSome_iff_exists.mp (ranked level known)
  refine ⟨rank, ?_⟩
  simp only [logThreshold, LogSettings.upper_of_mem_levels level known, found]

/-! ## Answers -/

namespace Command

open TypedPages.Filter (projectionOf resolvedEvent skipReport)

variable {entries options : Entries} {s : Settings} {input : Schema} {p : Projection} {e : Error}
variable {title title' message message' lines : String} {json : Bool} {threshold : Nat}

/-- What is said tells the title, which is one line, from the rest. -/
theorem failed_eq_failed_iff (line : '\n' ∉ title.toList) (line' : '\n' ∉ title'.toList) :
    failed title message = failed title' message' ↔ title = title' ∧ message = message' := by
  constructor
  · intro same
    have said := congrArg (fun exit => exit.err.toList) same
    have parts : title.toList ++ '\n' :: (message.toList ++ ['\n']) =
        title'.toList ++ '\n' :: (message'.toList ++ ['\n']) := by
      simpa [failed, toString] using said
    obtain ⟨titles, rests⟩ := (append_cons_inj_of_not_mem line line').mp parts
    exact ⟨String.toList_injective titles,
      String.toList_injective (List.append_cancel_right rests)⟩
  · rintro ⟨rfl, rfl⟩
    rfl

theorem failed_ne_schemas {input output : Schema} :
    failed title message ≠ (schemas input output).after lines :=
  fun same => nomatch congrArg Exit.code same

/-- A complaint says at least what it is. -/
theorem failed_ne_crashed : failed title message ≠ crashed := by
  intro same
  have said := congrArg (fun exit => exit.err.toList) same
  simp [failed, crashed, toString] at said

/-- The classes of the standard registry leave nothing out, so only an unknown name keeps a filter
from being made. -/
theorem standard_create_cases [Host] (name : String) (allocator : Option BufferPool) :
    (name ∈ Registry.standard.names ∧
      ∃ filter, Registry.standard.create name allocator = .ok filter) ∨
    name ∉ Registry.standard.names ∧ Registry.standard.create name allocator =
      .error (.unknown name Registry.standard.names) := by
  by_cases known : name ∈ Registry.standard.names
  · have collected : Registry.collect Registry.standard.providers =
        .ok Registry.standard.classes := rfl
    have complete : ∀ c ∈ Registry.standard.filters, c.Complete := by
      intro c member
      obtain rfl : c = .removeColumns := List.mem_singleton.mp member
      exact ⟨rfl, fun allocator => ⟨_, rfl⟩⟩
    exact .inl ⟨known, ((Registry.Consistent.of_collect collected).exists_create_iff complete).mpr
      known⟩
  · obtain ⟨available, refused, same, -⟩ := Registry.create_of_not_mem known allocator
    obtain rfl : available = Registry.standard.names := List.perm_singleton.mp same
    exact .inr ⟨known, refused⟩

section

variable [Wording]

theorem negotiate_of_projectionOf (made : projectionOf (.mapping options) input = .ok p) :
    negotiate json threshold options input = (schemas input p.output).after
      (Wording.lines json threshold (skipReport p ++ [resolvedEvent input p])) := by
  obtain ⟨task, settled⟩ := Filter.settle_of_projectionOf Filter.removeColumnsName made
  rw [negotiate]
  simp only [Filter.removeColumns, settled, Filter.log_of_projectionOf made]

/-- Options of which nothing can be made are not logged about. -/
theorem negotiate_of_projectionOf_error
    (failure : projectionOf (.mapping options) input = .error e) :
    negotiate json threshold options input = failed "Invalid filter configuration" e.message := by
  have blamed : e.isConfiguration = true := by
    rcases Filter.cause_of_projectionOf failure with ⟨cause, rfl⟩ | ⟨cause, rfl⟩ <;> rfl
  have silent : (Filter.proposeSelection (.mapping options) input).log = [] := by
    rw [Filter.proposeSelection_of_projectionOf_error failure]
  rw [negotiate]
  simp only [Filter.removeColumns, Filter.settle_of_projectionOf_error failure, blamed, if_true,
    silent, Wording.lines_nil, Exit.after_empty]

variable [Host]

/-- Past the guarantees that reading gives, only the name of the filter is left to be looked up. -/
theorem check_of_sound (sound : s.Sound) :
    ∃ input threshold, s.schema = .ok input ∧ logThreshold s.log.level = .ok threshold ∧
      (s.filter.plugin ∉ Registry.standard.names → check s = failed "Unknown filter plugin"
        (RegistryError.unknown s.filter.plugin Registry.standard.names).message) ∧
      (s.filter.plugin ∈ Registry.standard.names →
        check s = negotiate s.log.json threshold s.filter.options input) := by
  obtain ⟨input, built⟩ := sound.schema
  obtain ⟨threshold, level⟩ := exists_logThreshold sound.level
  obtain ⟨pool, made, -⟩ := sound.exists_pool 0
  refine ⟨input, threshold, built, level, ?_⟩
  rcases standard_create_cases s.filter.plugin (some pool) with
    ⟨known, filter, created⟩ | ⟨absent, refused⟩
  · refine ⟨fun absent => absurd known absent, fun _ => ?_⟩
    simp only [check, level, made, created, built]
  · refine ⟨fun _ => ?_, fun known => absurd known absent⟩
    simp only [check, level, made, refused]

/-- The answers that settings can get, with what has to hold for each. -/
inductive Verdict (s : Settings) (input : Schema) (threshold : Nat) : Exit → Prop where
  | unknown (absent : s.filter.plugin ∉ Registry.standard.names) :
      Verdict s input threshold (failed "Unknown filter plugin"
        (RegistryError.unknown s.filter.plugin Registry.standard.names).message)
  | invalid {e : Error} (known : s.filter.plugin ∈ Registry.standard.names)
      (failure : projectionOf (.mapping s.filter.options) input = .error e) :
      Verdict s input threshold (failed "Invalid filter configuration" e.message)
  | settled {p : Projection} (known : s.filter.plugin ∈ Registry.standard.names)
      (made : projectionOf (.mapping s.filter.options) input = .ok p) :
      Verdict s input threshold ((schemas input p.output).after
        (Wording.lines s.log.json threshold (skipReport p ++ [resolvedEvent input p])))

theorem verdict_of_sound (sound : s.Sound) :
    ∃ input threshold, s.schema = .ok input ∧ logThreshold s.log.level = .ok threshold ∧
      Verdict s input threshold (check s) := by
  obtain ⟨input, threshold, built, level, refuses, goesOn⟩ := check_of_sound sound
  refine ⟨input, threshold, built, level, ?_⟩
  by_cases known : s.filter.plugin ∈ Registry.standard.names
  · rw [goesOn known]
    cases made : projectionOf (.mapping s.filter.options) input with
    | ok p =>
        rw [negotiate_of_projectionOf made]
        exact .settled known made
    | error e =>
        rw [negotiate_of_projectionOf_error made]
        exact .invalid known made
  · rw [refuses known]
    exact .unknown known

namespace Verdict

variable {exit : Exit} (h : Verdict s input threshold exit)
include h

theorem code_eq_zero_iff : exit.code = 0 ↔ s.filter.plugin ∈ Registry.standard.names ∧
    ∃ p, projectionOf (.mapping s.filter.options) input = .ok p := by
  cases h with
  | unknown absent => exact iff_of_false Nat.one_ne_zero fun ⟨known, _⟩ => absent known
  | invalid known failure =>
      refine iff_of_false Nat.one_ne_zero ?_
      rintro ⟨-, p, made⟩
      rw [failure] at made
      cases made
  | settled known made => exact iff_of_true rfl ⟨known, _, made⟩

theorem eq_schemas (known : s.filter.plugin ∈ Registry.standard.names)
    (made : projectionOf (.mapping s.filter.options) input = .ok p) :
    exit = (schemas input p.output).after
      (Wording.lines s.log.json threshold (skipReport p ++ [resolvedEvent input p])) := by
  cases h with
  | unknown absent => exact absurd known absent
  | invalid _ failure =>
      rw [failure] at made
      cases made
  | settled _ made' =>
      rw [made'] at made
      cases made
      rfl

theorem eq_unknown_iff : exit = failed "Unknown filter plugin" message ↔
    s.filter.plugin ∉ Registry.standard.names ∧
      (RegistryError.unknown s.filter.plugin Registry.standard.names).message = message := by
  cases h with
  | unknown absent =>
      rw [failed_eq_failed_iff (by decide) (by decide)]
      exact ⟨fun ⟨_, same⟩ => ⟨absent, same⟩, fun ⟨_, same⟩ => ⟨rfl, same⟩⟩
  | invalid known failure =>
      rw [failed_eq_failed_iff (by decide) (by decide)]
      exact iff_of_false (fun ⟨titles, _⟩ => nomatch titles) fun ⟨absent, _⟩ => absent known
  | settled known made =>
      exact iff_of_false failed_ne_schemas.symm fun ⟨absent, _⟩ => absent known

theorem eq_invalid_iff : exit = failed "Invalid filter configuration" message ↔
    s.filter.plugin ∈ Registry.standard.names ∧
      ∃ e, projectionOf (.mapping s.filter.options) input = .error e ∧ e.message = message := by
  cases h with
  | unknown absent =>
      rw [failed_eq_failed_iff (by decide) (by decide)]
      exact iff_of_false (fun ⟨titles, _⟩ => nomatch titles) fun ⟨known, _⟩ => absent known
  | invalid known failure =>
      rw [failed_eq_failed_iff (by decide) (by decide), failure]
      constructor
      · rintro ⟨-, same⟩
        exact ⟨known, _, rfl, same⟩
      · rintro ⟨-, e, ⟨⟩, same⟩
        exact ⟨rfl, same⟩
  | settled known made =>
      refine iff_of_false failed_ne_schemas.symm ?_
      rintro ⟨-, e, failure, -⟩
      rw [made] at failure
      cases failure

theorem ne_crashed : exit ≠ crashed := by
  cases h with
  | unknown absent => exact failed_ne_crashed
  | invalid known failure => exact failed_ne_crashed
  | settled known made => exact fun same => nomatch congrArg Exit.code same

/-- One of the two complaints is made, on the channel for errors, or all is well. -/
theorem well_or_complains : exit.code = 0 ∨ ∃ title message : String,
    title ∈ ["Unknown filter plugin", "Invalid filter configuration"] ∧
      exit = ⟨1, "", s!"Error: {title}\n{message}\n"⟩ := by
  cases h with
  | unknown absent => exact .inr ⟨_, _, List.mem_cons_self, rfl⟩
  | invalid known failure =>
      exact .inr ⟨_, _, List.mem_cons_of_mem _ List.mem_cons_self, rfl⟩
  | settled known made => exact .inl rfl

end Verdict

/-- What `validate` says about settings that it could load. It ends well exactly if the filter is
known and something can be made of its options, and then prints the specs of the input and of just
the schema that is left by the projection; the channel for errors has the lines that were logged
about the projection and pass the threshold, and nothing else. A filter that is not known is
complained about under one title, and options of which nothing can be made are under another, in the
words of their own error, which always lies in the configuration. Neither title is used for anything
else; there is no third complaint, and none is made on the channel for output. -/
theorem check_tells_settings (read : Settings.ofEntries entries = .ok s) :
    ∃ input threshold, s.schema = .ok input ∧ logThreshold s.log.level = .ok threshold ∧
      ((check s).code = 0 ↔ s.filter.plugin ∈ Registry.standard.names ∧
        ∃ p, projectionOf (.mapping s.filter.options) input = .ok p) ∧
      (∀ p, s.filter.plugin ∈ Registry.standard.names →
        projectionOf (.mapping s.filter.options) input = .ok p →
        check s = ⟨0, Scalars.sequence "input_schema" input.specs ++
          Scalars.sequence "output_schema" p.output.specs,
          Wording.lines s.log.json threshold (skipReport p ++ [resolvedEvent input p])⟩) ∧
      (∀ message, check s = failed "Unknown filter plugin" message ↔
        s.filter.plugin ∉ Registry.standard.names ∧
          (RegistryError.unknown s.filter.plugin Registry.standard.names).message = message) ∧
      (∀ message, check s = failed "Invalid filter configuration" message ↔
        s.filter.plugin ∈ Registry.standard.names ∧
          ∃ e, projectionOf (.mapping s.filter.options) input = .error e ∧ e.message = message) ∧
      (∀ e, projectionOf (.mapping s.filter.options) input = .error e →
        (∃ cause, e = .options cause) ∨ ∃ cause, e = .selection cause) ∧
      check s ≠ crashed ∧
      ((check s).code = 0 ∨ ∃ title message : String,
        title ∈ ["Unknown filter plugin", "Invalid filter configuration"] ∧
          check s = ⟨1, "", s!"Error: {title}\n{message}\n"⟩) ∧
      ∀ world path place, FilePath.expanded? world.home path = some place →
        Settings.load world place = .ok s → perform world (.validate path) = check s := by
  obtain ⟨input, threshold, built, level, verdict⟩ :=
    verdict_of_sound (Settings.sound_of_ofEntries read)
  refine ⟨input, threshold, built, level, verdict.code_eq_zero_iff, ?_, ?_, ?_, ?_,
    verdict.ne_crashed, verdict.well_or_complains, ?_⟩
  · intro p known made
    rw [verdict.eq_schemas known made]
    simp [schemas, Exit.after]
  · intro message
    exact verdict.eq_unknown_iff
  · intro message
    exact verdict.eq_invalid_iff
  · intro e failure
    exact Filter.cause_of_projectionOf failure
  · intro world path place expanded loaded
    simp only [perform, expanded, loaded]

end

namespace Sample

def written : Entries := [
  ("input_schema", .ofTexts ["id:long", "name : string"]),
  ("filter", .mapping [("plugin", .text " remove_columns"),
    ("options", .mapping [("remove", .ofTexts ["name"])])])]

def loaded : Settings where
  inputSchema := ["id:long", "name : string"]
  filter := ⟨"remove_columns", [("remove", .ofTexts ["name"])]⟩
  pageSize := BufferPool.defaultPageSize
  log := .standard

def counts : LogEvent where
  level := .info
  logger := "colsieve.plugins.filters.remove_columns"
  event := "Resolved column projection"
  fields := [("plugin", .text "remove_columns"), ("mode", .text "remove"),
    ("input_columns", .whole 2), ("output_columns", .whole 1), ("dropped", .whole 1)]

end Sample

set_option maxRecDepth 4096 in
/-- Of two columns one is left, and the specs of both schemas are printed as they should be
written. The counts of the columns are logged. -/
theorem sample_check : Settings.ofEntries Sample.written = .ok Sample.loaded ∧
    check Sample.loaded = ⟨0, "input_schema:\n- 'id: long'\n- 'name: string'\n" ++
      "output_schema:\n- 'id: long'\n", Wording.lines false 20 [Sample.counts]⟩ := by
  have read : Settings.ofEntries Sample.written = .ok Sample.loaded := rfl
  obtain ⟨input, threshold, built, level, -, prints, -⟩ := check_tells_settings read
  obtain rfl : Transaction.Sample.input = input := Except.ok.inj built
  obtain rfl : 20 = threshold := Except.ok.inj level
  exact ⟨read, prints _ (List.mem_singleton_self _) rfl⟩

end Command

end TypedPages
