import Mathlib.Data.List.Induction
import TypedPages.Proofs.Lookup

/-!
# What a selection leaves

A selection that can be resolved against a schema leaves the fields that it retains, as they are
and in their order. Which fields these are depends on the names alone: not on how often they are
listed, and not on the names that no column has.
-/

namespace TypedPages

namespace Selection

/-- Whether a column of the given name stays under the selection. A selection without exactly one
list retains nothing. -/
def retains (s : Selection) (name : String) : Bool :=
  match s.names with
  | .ok (.remove, names) => !names.contains name
  | .ok (.keep, names) => names.contains name
  | .error _ => false

/-- Exactly one list is given, and each name in it is that of a column or may be passed over. -/
def Applies (s : Selection) (input : Schema) : Prop :=
  ∃ choice names, s.names = .ok (choice, names) ∧
    ∀ name ∈ names, s.acceptUnmatched = true ∨ input.has name = true

end Selection

variable {input : Schema} {s : Selection} {p : Projection} {accept : Bool}
variable {names hits misses : List String} {name : String}

namespace Schema

/-- What one more name adds to the hits and the misses before it. -/
def matchName (s : Schema) (accept : Bool) (name : String) :
    List String × List String → Except SelectionError (List String × List String)
  | (hits, misses) =>
    if s.has name then .ok (if hits.contains name then hits else hits ++ [name], misses)
    else if !accept then .error (.unmatched name)
    else .ok (hits, if misses.contains name then misses else misses ++ [name])

theorem matchNames_concat (s : Schema) (accept : Bool) (names : List String) (name : String) :
    s.matchNames accept (names ++ [name]) =
      s.matchNames accept names >>= s.matchName accept name := by
  rw [matchNames, List.foldlM_append]
  simp only [List.foldlM_cons, List.foldlM_nil, bind_pure]
  rfl

theorem exists_matchName_iff {before : List String × List String} :
    (∃ matched, input.matchName accept name before = .ok matched) ↔
      accept = true ∨ input.has name = true := by
  obtain ⟨hits, misses⟩ := before
  rw [matchName]
  cases input.has name <;> cases accept <;> simp

theorem matchName_eq_error_iff {before : List String × List String} {e : SelectionError} :
    input.matchName accept name before = .error e ↔
      accept = false ∧ input.has name = false ∧ e = .unmatched name := by
  obtain ⟨hits, misses⟩ := before
  rw [matchName]
  cases input.has name <;> cases accept <;> simp [eq_comm]

/-- The hits are the names that are listed and that some column has. -/
theorem mem_hits_iff (h : input.matchNames accept names = .ok (hits, misses)) :
    name ∈ hits ↔ name ∈ names ∧ input.has name = true := by
  induction names using List.reverseRecOn generalizing hits misses with
  | nil =>
      obtain ⟨rfl, rfl⟩ : [] = hits ∧ [] = misses := by
        simpa [matchNames, pure, Except.pure] using h
      simp
  | append_singleton names last ih =>
      rw [matchNames_concat, bind_eq_ok_iff] at h
      obtain ⟨⟨hits', misses'⟩, early, h⟩ := h
      have before := ih early
      rw [matchName] at h
      by_cases found : input.has last = true
      · rw [if_pos found] at h
        obtain ⟨rfl, -⟩ := Prod.mk.inj (Except.ok.inj h)
        by_cases known : hits'.contains last = true <;> grind
      · rw [if_neg found] at h
        cases accept with
        | false => cases h
        | true =>
            obtain ⟨rfl, -⟩ := Prod.mk.inj (Except.ok.inj h)
            grind

/-- Names can be looked up if some column has each of them, or if the others are accepted. -/
theorem exists_matchNames_iff : (∃ matched, input.matchNames accept names = .ok matched) ↔
    ∀ name ∈ names, accept = true ∨ input.has name = true := by
  induction names using List.reverseRecOn with
  | nil => simp [matchNames, pure, Except.pure]
  | append_singleton names last ih =>
      simp only [matchNames_concat, bind_eq_ok_iff, List.forall_mem_append,
        List.forall_mem_singleton, ← ih]
      constructor
      · rintro ⟨matched, before, early, late⟩
        exact ⟨⟨before, early⟩, exists_matchName_iff.mp ⟨matched, late⟩⟩
      · rintro ⟨⟨before, early⟩, known⟩
        obtain ⟨matched, late⟩ := exists_matchName_iff.mpr known
        exact ⟨matched, before, early, late⟩

/-- The misses are the names that no column has, each once and where it is listed first. -/
theorem misses_eq (h : input.matchNames accept names = .ok (hits, misses)) :
    misses = (names.filter fun name => !input.has name).eraseDups := by
  induction names using List.reverseRecOn generalizing hits misses with
  | nil =>
      obtain ⟨-, rfl⟩ : [] = hits ∧ [] = misses := by
        simpa [matchNames, pure, Except.pure] using h
      rfl
  | append_singleton names last ih =>
      rw [matchNames_concat, bind_eq_ok_iff] at h
      obtain ⟨⟨hits', misses'⟩, early, late⟩ := h
      rw [List.filter_append, List.eraseDups_append]
      rw [matchName] at late
      have before := ih early
      by_cases found : input.has last = true
      · rw [if_pos found] at late
        obtain ⟨-, rfl⟩ := Prod.mk.inj (Except.ok.inj late)
        simp [found, List.removeAll, before]
      · rw [if_neg found] at late
        cases accept with
        | false => cases late
        | true =>
            obtain ⟨-, rfl⟩ := Prod.mk.inj (Except.ok.inj late)
            have absent : input.has last = false := Bool.not_eq_true _ ▸ found
            have listed : misses'.contains last = names.contains last := by
              rw [before, Bool.eq_iff_iff, List.contains_iff_mem, List.contains_iff_mem,
                List.mem_eraseDups, List.mem_filter, absent]
              exact and_iff_left rfl
            rw [listed, before]
            by_cases known : last ∈ names <;>
              simp [absent, known, List.removeAll, List.eraseDups_cons]

/-- Names cannot be looked up if the first of them that no column has is not accepted. -/
theorem matchNames_eq_error_iff {e : SelectionError} : input.matchNames accept names = .error e ↔
    accept = false ∧ ∃ name, names.find? (fun name => !input.has name) = some name ∧
      e = .unmatched name := by
  induction names using List.reverseRecOn generalizing e with
  | nil => simp [matchNames, pure, Except.pure]
  | append_singleton names last ih =>
      rw [matchNames_concat, List.find?_append]
      cases early : input.matchNames accept names with
      | error e' =>
          obtain ⟨strict, name, first, rfl⟩ := ih.mp early
          rw [first, Option.some_or]
          constructor
          · rintro ⟨⟩
            exact ⟨strict, name, rfl, rfl⟩
          · rintro ⟨-, _, ⟨⟩, rfl⟩
            rfl
      | ok matched =>
          have known := exists_matchNames_iff.mp ⟨matched, early⟩
          refine matchName_eq_error_iff.trans (and_congr_right fun strict => ?_)
          have none : (names.find? fun name => !input.has name) = none := by
            rw [List.find?_eq_none]
            intro name member
            simpa [strict] using known name member
          rw [none, Option.none_or]
          cases found : input.has last <;> simp [found]

end Schema

namespace Projection

/-- A resolved selection leaves exactly the fields that it retains, and there is a lookup table
for them. -/
theorem of_resolve (h : resolve input s = .ok p) :
    p.output.fields = input.fields.filter (s.retains ·.name) ∧
      input.lookupTable p.output = .ok p.lookup := by
  simp only [resolve, bind_eq_ok_iff, mapError_eq_ok_iff] at h
  obtain ⟨⟨choice, names⟩, hnames, ⟨hits, unmatched⟩, hmatch, output, houtput, table, htable, hp⟩ :=
    h
  have distinct : ((input.select choice hits).map Field.name).Nodup :=
    input.nodup.sublist (List.filter_sublist.map _)
  rw [Schema.ofFields_of_nodup distinct] at houtput
  cases houtput
  cases hp
  refine ⟨List.filter_congr fun f hf => ?_, htable⟩
  have listed : hits.contains f.name = names.contains f.name := by
    have known : f.name ∈ input.names := List.mem_map_of_mem hf
    rw [Bool.eq_iff_iff, List.contains_iff_mem, List.contains_iff_mem,
      Schema.mem_hits_iff hmatch, Schema.has_iff]
    exact and_iff_left known
  rw [listed, Selection.retains, hnames]
  cases choice with
  | remove =>
      change (names.contains f.name == false) = !names.contains f.name
      exact beq_false _
  | keep =>
      change (names.contains f.name == true) = names.contains f.name
      exact beq_true _

/-- The unmatched names of a projection are those of its list. -/
theorem exists_matchNames_of_resolve {choice : Choice} (h : resolve input s = .ok p)
    (listed : s.names = .ok (choice, names)) :
    ∃ hits, input.matchNames s.acceptUnmatched names = .ok (hits, p.unmatched) := by
  simp only [resolve, bind_eq_ok_iff, mapError_eq_ok_iff] at h
  obtain ⟨_, listed', ⟨hits, unmatched⟩, matched, _, -, _, -, hp⟩ := h
  rw [listed] at listed'
  cases listed'
  cases hp
  exact ⟨hits, matched⟩

/-- A selection can be resolved exactly if it applies to the schema. -/
theorem exists_resolve_iff : (∃ p, resolve input s = .ok p) ↔ s.Applies input := by
  simp only [resolve, bind_eq_ok_iff, mapError_eq_ok_iff]
  constructor
  · rintro ⟨p, ⟨choice, names⟩, listed, matched, hmatch, -⟩
    exact ⟨choice, names, listed, Schema.exists_matchNames_iff.mp ⟨matched, hmatch⟩⟩
  · rintro ⟨choice, names, listed, known⟩
    obtain ⟨⟨hits, unmatched⟩, hmatch⟩ := Schema.exists_matchNames_iff.mpr known
    have distinct : ((input.select choice hits).map Field.name).Nodup :=
      input.nodup.sublist (List.filter_sublist.map _)
    have projects : input.select choice hits ⊆ input.fields := List.filter_sublist.subset
    exact ⟨_, (choice, names), listed, (hits, unmatched), hmatch, _,
      Schema.ofFields_of_nodup distinct, _, Schema.lookupTable_eq_ok_iff.mpr ⟨projects, rfl⟩, rfl⟩

end Projection

/-- Of the names that the input has, the output has those that are retained. -/
theorem Schema.has_of_fields_eq {output : Schema} {retains : String → Bool}
    (fields : output.fields = input.fields.filter (retains ·.name)) {f : Field}
    (hf : f ∈ input.fields) : output.has f.name = retains f.name := by
  rw [Bool.eq_iff_iff, Schema.has_iff, Schema.names, fields]
  constructor
  · intro member
    obtain ⟨g, hg, same⟩ := List.mem_map.mp member
    rw [← same]
    exact (List.mem_filter.mp hg).2
  · intro retained
    exact List.mem_map_of_mem (List.mem_filter.mpr ⟨hf, retained⟩)

end TypedPages
