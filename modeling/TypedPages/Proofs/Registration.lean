import Mathlib.Data.List.Basic
import TypedPages.Proofs.Answer
import TypedPages.Registry

/-!
# What a failed registration leaves behind

The offers of providers can be collected exactly if they are named filter classes with distinct
names. Offers that cannot be collected cannot be collected behind further ones either. A provider
that is refused for its offers is therefore the last one: the registry goes on serving what it had,
and refuses every provider that follows. Only a provider that was there before is refused without
a trace.
-/

namespace TypedPages

/-- The entry that an offer makes, which is a filter class under its name. -/
def Offer.entry? : Offer → Option (String × FilterClass)
  | .other _ => none
  | .filterClass c => if c.isFilter then c.name.map fun name => (name, c) else none

namespace Registry

variable {r r' : Registry} {p q : Provider} {providers : List Provider} {offer : Offer}
variable {offers : List Offer} {classes classes' : List (String × FilterClass)}
variable {e : RegistryError}

/-! ## Collecting offers -/

/-- What providers offer, in their order. -/
def offersOf (providers : List Provider) : List Offer :=
  providers.flatMap fun p => p.offers.getD []

@[simp] theorem offersOf_cons (p : Provider) (providers : List Provider) :
    offersOf (p :: providers) = p.offers.getD [] ++ offersOf providers :=
  List.flatMap_cons

theorem lookup_eq_none_iff_not_mem {name : String} :
    classes.lookup name = none ↔ name ∉ classes.map (·.1) := by
  rw [List.lookup_eq_none_iff]
  constructor
  · intro other member
    obtain ⟨entry, present, rfl⟩ := List.mem_map.mp member
    exact absurd rfl (bne_iff_ne.mp (other entry present))
  · intro absent entry present
    refine bne_iff_ne.mpr ?_
    rintro rfl
    exact absent (List.mem_map_of_mem present)

section

variable [Host]

/-- An offer is taken if it makes an entry whose name is new. -/
theorem collectOffer_eq_ok_iff : collectOffer classes offer = .ok classes' ↔
    ∃ entry, offer.entry? = some entry ∧ entry.1 ∉ classes.map (·.1) ∧
      classes ++ [entry] = classes' := by
  simp only [← lookup_eq_none_iff_not_mem]
  cases offer with
  | other d => simp [collectOffer, Offer.entry?]
  | filterClass c =>
      cases filter : c.isFilter with
      | false => simp [collectOffer, Offer.entry?, filter]
      | true =>
          cases named : c.name with
          | none => simp [collectOffer, Offer.entry?, filter, named]
          | some name =>
              cases found : classes.lookup name <;>
                simp [collectOffer, Offer.entry?, filter, named, found, -List.lookup_eq_none_iff]

/-- Offers are taken one after the other if each makes an entry, under a name that none of the
entries before it has. -/
theorem foldlM_collectOffer_eq_ok_iff : offers.foldlM collectOffer classes = .ok classes' ↔
    ∃ found, offers.map Offer.entry? = found.map some ∧ (found.map (·.1)).Nodup ∧
      (∀ entry ∈ found, entry.1 ∉ classes.map (·.1)) ∧ classes ++ found = classes' := by
  induction offers generalizing classes with
  | nil =>
      constructor
      · intro collected
        cases collected
        exact ⟨[], rfl, .nil, by simp, List.append_nil _⟩
      · rintro ⟨found, none, -, -, rfl⟩
        obtain rfl : found = [] := List.map_eq_nil_iff.mp none.symm
        rw [List.append_nil]
        rfl
  | cons offer offers ih =>
      rw [List.foldlM_cons, bind_eq_ok_iff]
      simp only [collectOffer_eq_ok_iff, ih]
      constructor
      · rintro ⟨_, ⟨entry, own, fresh, rfl⟩, found, others, distinct, apart, rfl⟩
        refine ⟨entry :: found, ?_, ?_, ?_, ?_⟩
        · rw [List.map_cons, List.map_cons, own, others]
        · rw [List.map_cons, List.nodup_cons]
          refine ⟨?_, distinct⟩
          intro again
          obtain ⟨other, member, same⟩ := List.mem_map.mp again
          exact apart other member (by simp [same])
        · intro other member
          rcases List.mem_cons.mp member with rfl | later
          · exact fresh
          · have := apart other later
            simp only [List.map_append, List.mem_append, not_or] at this
            exact this.1
        · exact (List.append_assoc classes [entry] found).symm
      · rintro ⟨found, entries, distinct, apart, rfl⟩
        obtain ⟨entry, found, rfl, own, others⟩ := List.map_eq_cons_iff.mp entries.symm
        rw [List.map_cons, List.nodup_cons] at distinct
        obtain ⟨first, later⟩ := List.forall_mem_cons.mp apart
        refine ⟨classes ++ [entry], ⟨entry, own.symm, first, rfl⟩, found, others.symm,
          distinct.2, ?_, List.append_assoc classes [entry] found⟩
        intro other member
        have new : other.1 ≠ entry.1 := by
          intro same
          exact distinct.1 (same ▸ List.mem_map_of_mem member)
        simp [new, later other member]

/-- Providers can be collected exactly if all that they offer are named filter classes with
distinct names, and these are then the classes in the order of the offers. -/
theorem collect_eq_ok_iff : collect providers = .ok classes ↔
    (offersOf providers).map Offer.entry? = classes.map some ∧ (classes.map (·.1)).Nodup := by
  change (offersOf providers).foldlM collectOffer [] = .ok classes ↔ _
  rw [foldlM_collectOffer_eq_ok_iff]
  constructor
  · rintro ⟨found, entries, distinct, -, rfl⟩
    exact ⟨entries, distinct⟩
  · rintro ⟨entries, distinct⟩
    exact ⟨classes, entries, distinct, by simp, rfl⟩

/-- Providers that can be collected behind another one can be collected without it. -/
theorem exists_collect_of_cons (h : collect (p :: providers) = .ok classes) :
    ∃ classes', collect providers = .ok classes' := by
  obtain ⟨entries, distinct⟩ := collect_eq_ok_iff.mp h
  rw [offersOf_cons, List.map_append] at entries
  obtain ⟨own, others, rfl, -, same⟩ := List.map_eq_append_iff.mp entries.symm
  rw [List.map_append, List.nodup_append] at distinct
  exact ⟨others, collect_eq_ok_iff.mpr ⟨same.symm, distinct.2.1⟩⟩

theorem ofThing_ne_knownProvider (d : Document) : RegistryError.ofThing d ≠ .knownProvider := by
  rw [RegistryError.ofThing]
  split <;> simp

theorem collectOffer_ne_knownProvider :
    collectOffer classes offer ≠ .error .knownProvider := by
  rw [collectOffer.eq_def]
  repeat' split
  all_goals simp [ofThing_ne_knownProvider]

/-- Collecting finds fault with offers, not with providers. -/
theorem collect_ne_knownProvider : collect providers ≠ .error .knownProvider := by
  change (offersOf providers).foldlM collectOffer [] ≠ _
  generalize ([] : List (String × FilterClass)) = classes
  induction offersOf providers generalizing classes with
  | nil => simp [pure, Except.pure]
  | cons offer offers ih =>
      rw [List.foldlM_cons]
      cases taken : collectOffer classes offer with
      | ok next => exact ih next
      | error cause =>
          intro refused
          cases refused
          exact collectOffer_ne_knownProvider taken

end

/-! ## Work on a registry -/

/-- What can be asked of a registry. -/
inductive Query where
  | filters
  | get (name : String)
  | infos
  | create (name : String) (allocator : Option BufferPool)

/-- What can be done with a registry. -/
inductive Step where
  | register (p : Provider)
  | ask (query : Query)

/-- What a registry replies. -/
inductive Reply where
  | registered (outcome : Except RegistryError Unit)
  | filters (classes : List FilterClass)
  | found (c : Option FilterClass)
  | infos (infos : List FilterInfo)
  | created (outcome : Except RegistryError MadeFilter)

/-- The reply to a query, which changes nothing. -/
def ask (r : Registry) : Query → Reply
  | .filters => .filters r.filters
  | .get name => .found (r.get? name)
  | .infos => .infos r.infos
  | .create name allocator => .created (r.create name allocator)

/-- Performs a step; after a failed one work goes on with what it left behind. -/
def step [Host] (r : Registry) : Step → Reply × Registry
  | .register p => (.registered (r.register p).1, (r.register p).2)
  | .ask query => (r.ask query, r)

/-- Performs steps one after the other. -/
def after [Host] : Registry → List Step → Registry
  | r, [] => r
  | r, step :: steps => (r.step step).2.after steps

/-- The replies to steps. -/
def replies [Host] : Registry → List Step → List Reply
  | _, [] => []
  | r, step :: steps => (r.step step).1 :: (r.step step).2.replies steps

/-- Only the classes matter for queries. -/
theorem ask_congr (same : r'.classes = r.classes) (query : Query) : r'.ask query = r.ask query := by
  cases query <;> simp [ask, filters, get?, infos, create, same]

section

variable [Host]

/-- A registration fails for one of two reasons: the provider was there before, and nothing
happens; or the providers cannot be collected with it, and it stays with them. -/
theorem register_eq_error_iff : r.register p = (.error e, r') ↔
    (r.providers.any (·.key == p.key) = true ∧ e = .knownProvider ∧ r' = r) ∨
    (r.providers.any (·.key == p.key) = false ∧ collect (p :: r.providers) = .error e ∧
      r' = ⟨p :: r.providers, r.classes⟩) := by
  cases known : r.providers.any (·.key == p.key) with
  | true => simp [register, known, eq_comm]
  | false =>
      cases collected : collect (p :: r.providers) <;>
        simp [register, known, collected, eq_comm]

/-- A provider is taken if it is new and can be collected with those that are there. -/
theorem register_eq_ok_iff : r.register p = (.ok (), r') ↔
    ∃ classes, collect (p :: r.providers) = .ok classes ∧
      r.providers.any (·.key == p.key) = false ∧ r' = ⟨p :: r.providers, classes⟩ := by
  cases known : r.providers.any (·.key == p.key) with
  | true => simp [register, known]
  | false =>
      cases collected : collect (p :: r.providers) <;>
        simp [register, known, collected, eq_comm]

/-- The providers of the registry cannot be collected. -/
def Stuck (r : Registry) : Prop :=
  ∀ classes, collect r.providers ≠ .ok classes

theorem stuck_of_error (h : collect r.providers = .error e) : r.Stuck := by
  intro classes collects
  rw [h] at collects
  cases collects

/-- A registry that is stuck refuses every provider. It stays stuck, with the classes it has. -/
theorem Stuck.register (h : r.Stuck) (p : Provider) :
    (∃ e, (r.register p).1 = .error e) ∧ (r.register p).2.Stuck ∧
      (r.register p).2.classes = r.classes := by
  cases answered : r.register p with
  | mk outcome r' =>
      cases outcome with
      | ok =>
          -- Then the providers of the registry could be collected as well.
          obtain ⟨classes, collected, -⟩ := register_eq_ok_iff.mp answered
          obtain ⟨others, collects⟩ := exists_collect_of_cons collected
          exact absurd collects (h others)
      | error e =>
          rcases register_eq_error_iff.mp answered with ⟨-, -, rfl⟩ | ⟨-, collected, rfl⟩
          · exact ⟨⟨e, rfl⟩, h, rfl⟩
          · exact ⟨⟨e, rfl⟩, stuck_of_error collected, rfl⟩

theorem Stuck.step (h : r.Stuck) (step : Step) :
    (r.step step).2.Stuck ∧ (r.step step).2.classes = r.classes := by
  cases step with
  | register p => exact (h.register p).2
  | ask query => exact ⟨h, rfl⟩

/-- Nothing that is done with a registry that is stuck gets it going again. -/
theorem Stuck.after (h : r.Stuck) (steps : List Step) :
    (r.after steps).Stuck ∧ (r.after steps).classes = r.classes := by
  induction steps generalizing r with
  | nil => exact ⟨h, rfl⟩
  | cons step steps ih =>
      obtain ⟨stuck, same⟩ := h.step step
      obtain ⟨stuck', same'⟩ := ih stuck
      exact ⟨stuck', same'.trans same⟩

/-- After a failed registration everything is as if it had not been tried exactly if the provider
was there before. Otherwise the registry replies to all later queries as it did before the failure,
whatever is done in between, and every later registration fails. -/
theorem replies_eq_iff_knownProvider (failed : r.register p = (.error e, r')) :
    ((∀ steps, r'.replies steps = r.replies steps) ↔ e = .knownProvider) ∧
    (e ≠ .knownProvider → ∀ steps,
      (∀ query, (r'.after steps).ask query = r.ask query) ∧
      ∀ q, ∃ e', ((r'.after steps).register q).1 = .error e') := by
  rcases register_eq_error_iff.mp failed with ⟨-, rfl, rfl⟩ | ⟨new, collected, rfl⟩
  · exact ⟨iff_of_true (fun _ => rfl) rfl, fun other => absurd rfl other⟩
  · have other : e ≠ .knownProvider := by
      rintro rfl
      exact collect_ne_knownProvider collected
    have stuck : Stuck ⟨p :: r.providers, r.classes⟩ := stuck_of_error collected
    refine ⟨iff_of_false ?_ other, ?_⟩
    · -- The provider is there now, so it is refused for another reason when it comes again.
      intro same
      have again : (register ⟨p :: r.providers, r.classes⟩ p).1 = .error .knownProvider := by
        simp [register]
      have first := same [.register p]
      simp only [replies, step, again, failed, List.cons.injEq, Reply.registered.injEq,
        Except.error.injEq] at first
      exact other first.1.symm
    · intro _ steps
      obtain ⟨stuck', classes⟩ := stuck.after steps
      exact ⟨ask_congr classes, fun q => (stuck'.register q).1⟩

end

/-! ## A registry that is stuck -/

namespace Sample

def usable : FilterClass where
  className := "Usable"
  module := "plugins"
  name := some "usable"
  doc := none
  version := "1.0.0"
  isFilter := true

/-- A class that is no filter. -/
def misfit : FilterClass := { usable with className := "Misfit", isFilter := false }

def good : Provider := ⟨"good", some [.filterClass usable]⟩

def bad : Provider := ⟨"bad", some [.filterClass misfit]⟩

end Sample

/-- After one bad provider a good one is refused, and its class is not to be had. -/
theorem sample_stuck :
    (empty.register Sample.bad).1 = .error (.notFilter "<class 'plugins.Misfit'>") ∧
    ((empty.register Sample.bad).2.after [.register Sample.good]).ask (.get "usable") =
      .found none ∧
    ∃ e, ((empty.register Sample.bad).2.register Sample.good).1 = .error e := by
  have failed : empty.register Sample.bad =
      (.error (.notFilter Sample.misfit.literal), ⟨[Sample.bad], []⟩) := rfl
  have other : RegistryError.notFilter Sample.misfit.literal ≠ .knownProvider := by
    intro same
    cases same
  obtain ⟨-, stuck⟩ := replies_eq_iff_knownProvider failed
  refine ⟨rfl, (stuck other [.register Sample.good]).1 (.get "usable"), ?_⟩
  exact (stuck other []).2 Sample.good

/-- A failed registration can be told from later replies: behind the bad provider the good one is
refused, which an empty registry takes. -/
theorem not_replies_eq :
    ¬ ∀ (history : List Step) (p : Provider) (e : RegistryError) (r' : Registry),
      (empty.after history).register p = (.error e, r') →
      ∀ steps, r'.replies steps = (empty.after history).replies steps := by
  intro traceless
  have same := traceless [] Sample.bad _ _ rfl [.register Sample.good]
  have refused : Reply.registered (.error (.notFilter Sample.misfit.literal)) =
      .registered (.ok ()) := (List.cons.inj same).1
  cases refused

end Registry

end TypedPages
