import Mathlib.Data.List.Count
import TypedPages.Proofs.Resolution

/-!
# A selection column by column

What resolving a selection comes to, said of its lists and of the columns alone: with which
complaint it ends, and otherwise which columns are retained, where each column goes and which names
are passed over. Two selections that are meant alike and name the same columns differ at most in
the names that they pass over.
-/

namespace TypedPages

/-- A member that a filter keeps stands behind the kept ones before it. -/
theorem getElem?_filter_countP {α : Type} (keeps : α → Bool) {xs : List α} {i : Nat} {x : α}
    (h : xs[i]? = some x) (kept : keeps x = true) :
    (xs.filter keeps)[(xs.take i).countP keeps]? = some x := by
  induction xs generalizing i with
  | nil => cases h
  | cons y xs ih =>
      cases i with
      | zero =>
          obtain rfl : y = x := by simpa using h
          simp [kept]
      | succ i =>
          have later := ih (i := i) (by simpa using h)
          by_cases first : keeps y = true <;> simpa [first] using later

namespace Choice

/-- Whether columns of a name are retained if some names are chosen. -/
def retains : Choice → List String → String → Bool
  | remove, names, name => !names.contains name
  | keep, names, name => names.contains name

theorem retains_congr (choice : Choice) {names names' : List String} {name : String}
    (same : name ∈ names ↔ name ∈ names') :
    choice.retains names name = choice.retains names' name := by
  have listed : names.contains name = names'.contains name := by
    rw [Bool.eq_iff_iff, List.contains_iff_mem, List.contains_iff_mem]
    exact same
  cases choice <;> simp only [retains, listed]

end Choice

namespace Selection

/-- One list alone is given, and the choice says what it is for. -/
def Lists (s : Selection) : Choice → List String → Prop
  | .remove, names => s.remove = some names ∧ s.keep = none
  | .keep, names => s.remove = none ∧ s.keep = some names

variable {s : Selection} {choice : Choice} {names : List String}

theorem names_eq_ok_iff : s.names = .ok (choice, names) ↔ s.Lists choice names := by
  obtain ⟨remove, keep, accept⟩ := s
  cases choice <;> cases remove <;> cases keep <;> simp [Selection.names, Lists]

theorem names_eq_bothLists_iff : s.names = .error .bothLists ↔ s.remove.isSome ∧ s.keep.isSome := by
  obtain ⟨remove, keep, accept⟩ := s
  cases remove <;> cases keep <;> simp [Selection.names]

theorem names_eq_noList_iff : s.names = .error .noList ↔ s.remove = none ∧ s.keep = none := by
  obtain ⟨remove, keep, accept⟩ := s
  cases remove <;> cases keep <;> simp [Selection.names]

/-- What is wrong with the lists themselves has nothing to do with any name. -/
theorem names_ne_unmatched {name : String} : s.names ≠ .error (.unmatched name) := by
  obtain ⟨remove, keep, accept⟩ := s
  cases remove <;> cases keep <;> simp [Selection.names]

theorem Lists.retains_eq (h : s.Lists choice names) : s.retains = choice.retains names := by
  funext name
  rw [retains, names_eq_ok_iff.mpr h]
  cases choice <;> rfl

end Selection

namespace Projection

/-- The projection is what the choice of some names makes of a schema. The retained columns keep
their order, names and types, and are numbered anew. A retained column goes behind the retained
ones before it, any other goes nowhere. -/
structure Selects (p : Projection) (input : Schema) (choice : Choice) (names : List String) :
    Prop where
  meant : p.choice = choice
  columns : p.output.columns = (input.fields.filter (choice.retains names ·.name)).zipIdx.map
    fun (f, i) => ⟨f.name, i, f.type⟩
  width : p.lookup.length = input.size
  place : ∀ (i : Nat) (f : Field), input.fields[i]? = some f → p.lookup[i]? = some
    (if choice.retains names f.name then
      some ((input.fields.take i).countP (choice.retains names ·.name)) else none)
  unmatched : p.unmatched = (names.filter fun name => !input.has name).eraseDups
  dropped : p.dropped + p.output.size = input.size

section

variable {input : Schema} {s : Selection} {p q : Projection} {choice : Choice}
variable {names names' : List String}

theorem Selects.fields (h : p.Selects input choice names) :
    p.output.fields = input.fields.filter (choice.retains names ·.name) := by
  rw [← Schema.map_field_columns, h.columns, List.map_map]
  exact List.zipIdx_map_fst 0 _

theorem choice_of_resolve (h : resolve input s = .ok p) (listed : s.Lists choice names) :
    p.choice = choice := by
  simp only [resolve, bind_eq_ok_iff, mapError_eq_ok_iff] at h
  obtain ⟨_, given, _, -, _, -, _, -, hp⟩ := h
  rw [Selection.names_eq_ok_iff.mpr listed] at given
  cases given
  cases hp
  rfl

/-- What is dropped and what is left are together the columns of the input. -/
theorem dropped_add_size (h : resolve input s = .ok p) :
    p.dropped + p.output.size = input.size := by
  obtain ⟨fields, lookup⟩ := of_resolve h
  have entries := (Schema.lookupTable_eq_ok_iff.mp lookup).2
  have dropped : p.dropped = input.fields.countP fun f => !s.retains f.name := by
    rw [Projection.dropped, entries, List.count, List.countP_map]
    apply List.countP_congr
    intro f hf
    rw [Function.comp_apply, ← Schema.has_of_fields_eq fields hf, ← Schema.isSome_findIdx?_name]
    cases p.output.columns.findIdx? (·.name == f.name) <;> simp
  have left : p.output.size = input.fields.countP fun f => s.retains f.name := by
    rw [Schema.size, fields, List.countP_eq_length_filter]
  have whole := List.length_eq_countP_add_countP (fun f => s.retains f.name) (l := input.fields)
  simp only [Bool.not_eq_true, Bool.decide_eq_false] at whole
  rw [dropped, left, Schema.size]
  omega

/-- A resolved selection comes to what its list makes of the schema. -/
theorem selects_of_resolve (h : resolve input s = .ok p) (listed : s.Lists choice names) :
    p.Selects input choice names := by
  obtain ⟨fields, lookup⟩ := of_resolve h
  obtain ⟨hits, matched⟩ := exists_matchNames_of_resolve h (Selection.names_eq_ok_iff.mpr listed)
  have retains := listed.retains_eq
  refine ⟨choice_of_resolve h listed, ?_, Schema.length_lookupTable lookup, ?_,
    Schema.misses_eq matched, dropped_add_size h⟩
  · rw [Schema.columns, fields, retains]
    rfl
  · intro i f hf
    by_cases kept : choice.retains names f.name = true
    · rw [if_pos kept]
      refine (Schema.lookupTable_target_iff lookup).mpr ⟨f, hf, ?_⟩
      rw [fields, retains]
      exact getElem?_filter_countP (choice.retains names ·.name) hf kept
    · rw [if_neg kept]
      apply (Schema.lookupTable_dropped_iff lookup hf).mpr
      rw [Schema.has_of_fields_eq fields (List.mem_of_getElem? hf), retains]
      exact Bool.not_eq_true _ ▸ kept

/-- All but the unmatched names depends on which columns are named, and on nothing else. -/
theorem Selects.eq_of_agree (hp : p.Selects input choice names) (hq : q.Selects input choice names')
    (agree : ∀ name, input.has name = true → (name ∈ names ↔ name ∈ names')) :
    q = { p with unmatched := q.unmatched } := by
  have retains (f : Field) (hf : f ∈ input.fields) :
      choice.retains names' f.name = choice.retains names f.name := by
    have known : input.has f.name = true := Schema.has_iff.mpr (List.mem_map_of_mem hf)
    exact choice.retains_congr (agree f.name known).symm
  have output : q.output = p.output := by
    apply Schema.eq_of_fields
    rw [hq.fields, hp.fields]
    exact List.filter_congr retains
  have lookup : q.lookup = p.lookup := by
    refine List.ext_getElem? fun i => ?_
    cases hf : input.fields[i]? with
    | some f =>
        have early : (input.fields.take i).countP (choice.retains names' ·.name) =
            (input.fields.take i).countP (choice.retains names ·.name) :=
          List.countP_congr fun g hg => by rw [retains g (List.mem_of_mem_take hg)]
        rw [hq.place i f hf, hp.place i f hf, retains f (List.mem_of_getElem? hf), early]
    | none =>
        have beyond : input.size ≤ i := List.getElem?_eq_none_iff.mp hf
        rw [List.getElem?_eq_none (hq.width ▸ beyond), List.getElem?_eq_none (hp.width ▸ beyond)]
  have meant := hq.meant.trans hp.meant.symm
  cases q
  cases p
  simp only at meant output lookup
  rw [meant, output, lookup]

theorem exists_selects (listed : s.Lists choice names)
    (known : s.acceptUnmatched = true ∨ ∀ name ∈ names, input.has name = true) :
    ∃ p, resolve input s = .ok p ∧ p.Selects input choice names := by
  have applies : s.Applies input :=
    ⟨choice, names, Selection.names_eq_ok_iff.mpr listed, fun name member =>
      known.imp id fun present => present name member⟩
  obtain ⟨p, resolved⟩ := exists_resolve_iff.mpr applies
  exact ⟨p, resolved, selects_of_resolve resolved listed⟩

theorem resolve_of_refused {cause : SelectionError} (refused : s.names = .error cause) :
    resolve input s = .error (.selection cause) := by
  rw [resolve, refused]
  rfl

theorem resolve_of_unmatched {cause : SelectionError} (listed : s.Lists choice names)
    (unmatched : input.matchNames s.acceptUnmatched names = .error cause) :
    resolve input s = .error (.selection cause) := by
  rw [resolve, Selection.names_eq_ok_iff.mpr listed]
  show ((input.matchNames s.acceptUnmatched names).mapError Error.selection >>= _) = _
  rw [unmatched]
  rfl

/-- How a selection ends: with a complaint about its lists, with one about the first name that no
column has, or with what its list makes of the schema. -/
theorem resolve_cases (input : Schema) (s : Selection) :
    (∃ cause, s.names = .error cause ∧ resolve input s = .error (.selection cause)) ∨
    ∃ choice names, s.Lists choice names ∧
      ((s.acceptUnmatched = false ∧
          ∃ name, names.find? (fun name => !input.has name) = some name ∧
            resolve input s = .error (.selection (.unmatched name))) ∨
        ∃ p, resolve input s = .ok p ∧ p.Selects input choice names) := by
  cases given : s.names with
  | error cause => exact .inl ⟨cause, rfl, resolve_of_refused given⟩
  | ok list =>
      obtain ⟨choice, names⟩ := list
      have listed := Selection.names_eq_ok_iff.mp given
      refine .inr ⟨choice, names, listed, ?_⟩
      cases matched : input.matchNames s.acceptUnmatched names with
      | error cause =>
          obtain ⟨strict, name, first, rfl⟩ := Schema.matchNames_eq_error_iff.mp matched
          exact .inl ⟨strict, name, first, resolve_of_unmatched listed matched⟩
      | ok hits =>
          have known := Schema.exists_matchNames_iff.mp ⟨hits, matched⟩
          obtain ⟨p, resolved⟩ := exists_resolve_iff.mpr ⟨choice, names, given, known⟩
          exact .inr ⟨p, resolved, selects_of_resolve resolved listed⟩

/-- A complaint that is not about a name is one about the lists. -/
theorem resolve_eq_refusal_iff {cause : SelectionError}
    (general : ∀ name, cause ≠ .unmatched name) :
    resolve input s = .error (.selection cause) ↔ s.names = .error cause := by
  refine ⟨fun complained => ?_, resolve_of_refused⟩
  rcases resolve_cases input s with
    ⟨_, refused, ends⟩ | ⟨_, _, -, ⟨-, name, -, ends⟩ | ⟨_, ends, -⟩⟩
  · rw [ends] at complained
    cases complained
    exact refused
  · rw [ends] at complained
    cases complained
    exact absurd rfl (general name)
  · rw [ends] at complained
    cases complained

theorem resolve_eq_unmatched_iff {name : String} :
    resolve input s = .error (.selection (.unmatched name)) ↔ s.acceptUnmatched = false ∧
      ∃ choice names, s.Lists choice names ∧
        names.find? (fun name => !input.has name) = some name := by
  constructor
  · intro complained
    rcases resolve_cases input s with
      ⟨_, refused, ends⟩ | ⟨choice, names, listed, ⟨strict, _, first, ends⟩ | ⟨_, ends, -⟩⟩
    · rw [ends] at complained
      cases complained
      exact absurd refused Selection.names_ne_unmatched
    · rw [ends] at complained
      cases complained
      exact ⟨strict, choice, names, listed, first⟩
    · rw [ends] at complained
      cases complained
  · rintro ⟨strict, choice, names, listed, first⟩
    have unmatched := Schema.matchNames_eq_error_iff.mpr ⟨strict, name, first, rfl⟩
    exact resolve_of_unmatched listed unmatched

end

/-- Resolving selects. Two lists are refused whatever they name, and so is no list; of one list the
first name that no column has is refused, unless such names are accepted. Everything else resolves,
to just what the list makes of the schema. So which columns are named decides about all of it but
the unmatched names: their order does not, nor how often they are named, nor what else is. -/
theorem resolve_selects (input : Schema) (s : Selection) :
    (resolve input s = .error (.selection .bothLists) ↔ s.remove.isSome ∧ s.keep.isSome) ∧
    (resolve input s = .error (.selection .noList) ↔ s.remove = none ∧ s.keep = none) ∧
    (∀ name, resolve input s = .error (.selection (.unmatched name)) ↔
      s.acceptUnmatched = false ∧ ∃ choice names, s.Lists choice names ∧
        names.find? (fun name => !input.has name) = some name) ∧
    (∀ choice names, s.Lists choice names →
      (s.acceptUnmatched = true ∨ ∀ name ∈ names, input.has name = true) →
      ∃ p, resolve input s = .ok p ∧ p.Selects input choice names) ∧
    ∀ (s' : Selection) (choice : Choice) (names names' : List String) (p q : Projection),
      s.Lists choice names → s'.Lists choice names' →
      (∀ name, input.has name = true → (name ∈ names ↔ name ∈ names')) →
      resolve input s = .ok p → resolve input s' = .ok q →
      q = { p with unmatched := q.unmatched } := by
  refine ⟨?_, ?_, fun name => resolve_eq_unmatched_iff,
    fun choice names listed known => exists_selects listed known, ?_⟩
  · rw [resolve_eq_refusal_iff (by simp), Selection.names_eq_bothLists_iff]
  · rw [resolve_eq_refusal_iff (by simp), Selection.names_eq_noList_iff]
  intro s' choice names names' p q listed listed' agree resolved resolved'
  have selects := selects_of_resolve resolved listed
  have selects' := selects_of_resolve resolved' listed'
  exact selects.eq_of_agree selects' agree

namespace Sample

def input : Schema where
  fields := [⟨"id", .long⟩, ⟨"name", .string⟩, ⟨"active", .boolean⟩, ⟨"score", .double⟩]
  nodup := by decide

/-- Names that no column has stand between the others, one of them twice. -/
def chosen : List String := ["score", "ghost", "name", "Name", "score", "ghost"]

end Sample

/-- A list keeps two of four columns, and a shorter one keeps the same. -/
theorem sample_selects :
    ∃ p, resolve Sample.input ⟨none, some Sample.chosen, true⟩ = .ok p ∧
      p.output.columns = [⟨"name", 0, .string⟩, ⟨"score", 1, .double⟩] ∧
      p.lookup[2]? = some none ∧ p.lookup[3]? = some (some 1) ∧
      p.unmatched = ["ghost", "Name"] ∧
      ∀ q, resolve Sample.input ⟨none, some ["name", "score"], false⟩ = .ok q →
        q = { p with unmatched := q.unmatched } := by
  obtain ⟨-, -, -, resolves, decides⟩ :=
    resolve_selects Sample.input ⟨none, some Sample.chosen, true⟩
  obtain ⟨p, resolved, selects⟩ := resolves .keep Sample.chosen ⟨rfl, rfl⟩ (.inl rfl)
  have agree : ∀ name ∈ Sample.input.names,
      (name ∈ Sample.chosen ↔ name ∈ ["name", "score"]) := by decide
  refine ⟨p, resolved, selects.columns, selects.place 2 _ rfl, selects.place 3 _ rfl,
    selects.unmatched, ?_⟩
  intro q resolved'
  exact decides _ .keep Sample.chosen _ p q ⟨rfl, rfl⟩ ⟨rfl, rfl⟩
    (fun name known => agree name (Schema.has_iff.mp known)) resolved resolved'

end Projection

end TypedPages
