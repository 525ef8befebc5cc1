import TypedPages.Proofs.Task

/-!
# Negotiations call by call

Whoever negotiates with a filter hears its calls one by one. The first is taken, whatever it lacks,
and every further one is refused; a filter that does not mind the refusal breaks off with it. What
was taken is looked at when the filter has returned, and nobody is asked about a schema before. So a
negotiation is decided by the list of calls that the filter would make and by how it would end.
-/

namespace TypedPages

/-- What is remembered of the calls of a filter: the task and the output schema of the one that was
taken, and how many were made. -/
structure Listener where
  task : Option Document
  output : Option Schema
  calls : Nat

namespace Listener

/-- No call was made. -/
def fresh : Listener := ⟨none, none, 0⟩

/-- Hears a call. The first one is taken. -/
def hear (l : Listener) (p : Proposal) : Except Error Unit × Listener :=
  let calls := l.calls + 1
  if 1 < calls then (.error (.violation .secondProposal), { l with calls })
  else (.ok (), ⟨p.task, p.output, calls⟩)

/-- Hears the calls of a filter that breaks off at the first refusal, and otherwise ends in the
given way. -/
def hearAll : Listener → List Proposal → Option Error → Option Error × Listener
  | l, [], ending => (ending, l)
  | l, p :: later, ending =>
    match l.hear p with
    | (.ok (), l) => l.hearAll later ending
    | (.error e, l) => (some e, l)

variable {l : Listener} {p : Proposal} {later : List Proposal} {ending : Option Error}

theorem hear_fresh (p : Proposal) : fresh.hear p = (.ok (), ⟨p.task, p.output, 1⟩) := rfl

/-- After the first call every call is refused, and what was taken stays. -/
theorem hear_of_called (called : 1 ≤ l.calls) :
    l.hear p = (.error (.violation .secondProposal), { l with calls := l.calls + 1 }) := by
  have beyond : 1 < l.calls + 1 := by omega
  simp only [hear, if_pos beyond]

theorem hearAll_of_called (called : 1 ≤ l.calls) : l.hearAll (p :: later) ending =
    (some (.violation .secondProposal), { l with calls := l.calls + 1 }) := by
  simp only [hearAll, hear_of_called called]

/-- At most two calls are made, and the first is taken. -/
theorem hearAll_fresh (proposals : List Proposal) (ending : Option Error) :
    fresh.hearAll proposals ending =
      (if 2 ≤ proposals.length then some (.violation .secondProposal) else ending,
        ⟨proposals.head?.bind (·.task), proposals.head?.bind (·.output),
          min proposals.length 2⟩) := by
  match proposals with
  | [] => rfl
  | [p] => rfl
  | p :: q :: later =>
      have more : 2 ≤ (p :: q :: later).length := by
        simp only [List.length_cons]
        omega
      have called : 1 ≤ (Listener.mk p.task p.output 1).calls := Nat.le_refl 1
      rw [hearAll, hear_fresh, if_pos more, Nat.min_eq_right more]
      exact hearAll_of_called called

end Listener

namespace Negotiation

/-- Settles a negotiation by listening to it: the filter is heard to its end, then what was taken
has to be complete, and then whoever wants to be asked is asked. -/
def heard (n : Negotiation) (filter : String) (accept : Option (Schema → Bool)) : Settlement :=
  match Listener.fresh.hearAll n.proposals n.ending with
  | (some e, _) => ⟨.error e, []⟩
  | (none, ⟨some task, some output, _⟩) =>
    match accept with
    | none => ⟨.ok (task, output), []⟩
    | some accepts =>
      if accepts output then ⟨.ok (task, output), [output]⟩
      else ⟨.error (.rejected filter output.specs), [output]⟩
  | (none, _) => ⟨.error (.violation (.noProposal filter)), []⟩

/-- The filter makes exactly one call, with both parts, and returns. -/
def Offers (n : Negotiation) (task : Document) (output : Schema) : Prop :=
  n.proposals = [⟨some task, some output⟩] ∧ n.ending = none

/-- The filter returns without a complete call: it makes none, or a single one that lacks a part. -/
def Lacks (n : Negotiation) : Prop :=
  n.ending = none ∧
    (n.proposals = [] ∨ ∃ p, n.proposals = [p] ∧ (p.task = none ∨ p.output = none))

variable {n : Negotiation} {filter : String} {accept : Option (Schema → Bool)}
variable {task : Document} {output : Schema} {e : Error}

/-- A filter calls twice, breaks off before that, returns without a complete call, or offers
something. -/
theorem cases (n : Negotiation) : 2 ≤ n.proposals.length ∨
    (∃ e, n.proposals.length ≤ 1 ∧ n.ending = some e) ∨ n.Lacks ∨
    ∃ task output, n.Offers task output := by
  obtain ⟨log, proposals, ending⟩ := n
  match proposals, ending with
  | _ :: _ :: _, _ =>
      left
      simp only [List.length_cons]
      omega
  | [], some e => exact .inr (.inl ⟨e, Nat.zero_le 1, rfl⟩)
  | [_], some e => exact .inr (.inl ⟨e, Nat.le_refl 1, rfl⟩)
  | [], none => exact .inr (.inr (.inl ⟨rfl, .inl rfl⟩))
  | [⟨none, output⟩], none => exact .inr (.inr (.inl ⟨rfl, .inr ⟨_, rfl, .inl rfl⟩⟩))
  | [⟨some task, none⟩], none => exact .inr (.inr (.inl ⟨rfl, .inr ⟨_, rfl, .inr rfl⟩⟩))
  | [⟨some task, some output⟩], none => exact .inr (.inr (.inr ⟨task, output, rfl, rfl⟩))

/-- What a negotiation comes to is what comes of hearing it call by call. -/
theorem settle_eq_heard (n : Negotiation) : n.settle filter accept = n.heard filter accept := by
  rw [heard, Listener.hearAll_fresh]
  obtain ⟨log, proposals, ending⟩ := n
  match proposals, ending with
  | _ :: _ :: _, _ =>
      rw [if_pos (by simp)]
      rfl
  | [], some e => rfl
  | [_], some e => rfl
  | [], none => rfl
  | [⟨none, output⟩], none => rfl
  | [⟨some task, none⟩], none => rfl
  | [⟨some task, some output⟩], none => rfl

theorem settle_of_repeated (repeated : 2 ≤ n.proposals.length) :
    n.settle filter accept = ⟨.error (.violation .secondProposal), []⟩ := by
  rw [settle_eq_heard, heard, Listener.hearAll_fresh, if_pos repeated]

theorem settle_of_broken (single : n.proposals.length ≤ 1)
    (broken : n.ending = some e) : n.settle filter accept = ⟨.error e, []⟩ := by
  have few : ¬ 2 ≤ n.proposals.length := by omega
  rw [settle_eq_heard, heard, Listener.hearAll_fresh, if_neg few, broken]

theorem settle_of_lacks (lacks : n.Lacks) :
    n.settle filter accept = ⟨.error (.violation (.noProposal filter)), []⟩ := by
  obtain ⟨log, proposals, ending⟩ := n
  obtain ⟨returned, none | ⟨⟨task, output⟩, single, lacking⟩⟩ := lacks
  · cases returned
    cases none
    rfl
  · cases returned
    cases single
    rcases lacking with taskless | outputless
    · cases taskless
      rfl
    · cases outputless
      cases task <;> rfl

theorem settle_of_accepted (offers : n.Offers task output)
    (accepted : ∀ accepts ∈ accept, accepts output = true) :
    n.settle filter accept = ⟨.ok (task, output), if accept.isSome then [output] else []⟩ := by
  obtain ⟨log, proposals, ending⟩ := n
  obtain ⟨single, returned⟩ := offers
  cases single
  cases returned
  cases accept with
  | none => rfl
  | some accepts => exact if_pos (accepted accepts rfl)

theorem settle_of_rejected {accepts : Schema → Bool} (offers : n.Offers task output)
    (rejected : accepts output = false) :
    n.settle filter (some accepts) = ⟨.error (.rejected filter output.specs), [output]⟩ := by
  obtain ⟨log, proposals, ending⟩ := n
  obtain ⟨single, returned⟩ := offers
  cases single
  cases returned
  exact if_neg (by simp [rejected])

theorem accepted_or_rejected (accept : Option (Schema → Bool)) (output : Schema) :
    (∀ accepts ∈ accept, accepts output = true) ∨
      ∃ accepts, accept = some accepts ∧ accepts output = false := by
  cases accept with
  | none => exact .inl nofun
  | some accepts =>
      cases answer : accepts output with
      | true =>
          left
          rintro _ ⟨⟩
          exact answer
      | false => exact .inr ⟨accepts, rfl, answer⟩

/-- All that a negotiation can come to. -/
theorem settle_cases (n : Negotiation) (filter : String) (accept : Option (Schema → Bool)) :
    (2 ≤ n.proposals.length ∧
      n.settle filter accept = ⟨.error (.violation .secondProposal), []⟩) ∨
    (∃ e, (n.proposals.length ≤ 1 ∧ n.ending = some e) ∧
      n.settle filter accept = ⟨.error e, []⟩) ∨
    (n.Lacks ∧ n.settle filter accept = ⟨.error (.violation (.noProposal filter)), []⟩) ∨
    ∃ task output, n.Offers task output ∧
      (((∀ accepts ∈ accept, accepts output = true) ∧
        n.settle filter accept = ⟨.ok (task, output), if accept.isSome then [output] else []⟩) ∨
      ∃ accepts, (accept = some accepts ∧ accepts output = false) ∧
        n.settle filter accept = ⟨.error (.rejected filter output.specs), [output]⟩) := by
  rcases n.cases with repeated | ⟨e, single, broken⟩ | lacks | ⟨task, output, offers⟩
  · exact .inl ⟨repeated, settle_of_repeated repeated⟩
  · exact .inr (.inl ⟨e, ⟨single, broken⟩, settle_of_broken single broken⟩)
  · exact .inr (.inr (.inl ⟨lacks, settle_of_lacks lacks⟩))
  · refine .inr (.inr (.inr ⟨task, output, offers, ?_⟩))
    rcases accepted_or_rejected accept output with accepted | ⟨accepts, rfl, rejected⟩
    · exact .inl ⟨accepted, settle_of_accepted offers accepted⟩
    · exact .inr ⟨accepts, ⟨rfl, rejected⟩, settle_of_rejected offers rejected⟩

theorem settle_eq_ok_iff : (n.settle filter accept).outcome = .ok (task, output) ↔
    n.Offers task output ∧ ∀ accepts ∈ accept, accepts output = true := by
  constructor
  · intro settled
    rcases n.settle_cases filter accept with ⟨-, came⟩ | ⟨e, -, came⟩ | ⟨-, came⟩ |
      ⟨task', output', offers, ⟨accepted, came⟩ | ⟨accepts, -, came⟩⟩ <;>
      rw [came] at settled <;> cases settled
    exact ⟨offers, accepted⟩
  · rintro ⟨offers, accepted⟩
    rw [settle_of_accepted offers accepted]

theorem settle_eq_error_iff : (n.settle filter accept).outcome = .error e ↔
    (2 ≤ n.proposals.length ∧ e = .violation .secondProposal) ∨
    (n.proposals.length ≤ 1 ∧ n.ending = some e) ∨
    (n.Lacks ∧ e = .violation (.noProposal filter)) ∨
    ∃ task output accepts, n.Offers task output ∧ accept = some accepts ∧
      accepts output = false ∧ e = .rejected filter output.specs := by
  constructor
  · intro failed
    rcases n.settle_cases filter accept with ⟨repeated, came⟩ | ⟨e', broken, came⟩ |
      ⟨lacks, came⟩ | ⟨task, output, offers, ⟨-, came⟩ | ⟨accepts, ⟨own, rejected⟩, came⟩⟩ <;>
      rw [came] at failed <;> cases failed
    · exact .inl ⟨repeated, rfl⟩
    · exact .inr (.inl broken)
    · exact .inr (.inr (.inl ⟨lacks, rfl⟩))
    · exact .inr (.inr (.inr ⟨task, output, accepts, offers, own, rejected, rfl⟩))
  · rintro (⟨repeated, rfl⟩ | ⟨single, broken⟩ | ⟨lacks, rfl⟩ |
      ⟨task, output, accepts, offers, rfl, rejected, rfl⟩)
    · rw [settle_of_repeated repeated]
    · rw [settle_of_broken single broken]
    · rw [settle_of_lacks lacks]
    · rw [settle_of_rejected offers rejected]

theorem offered_of_offers (offers : n.Offers task output) :
    (n.settle filter accept).offered = if accept.isSome then [output] else [] := by
  rcases accepted_or_rejected accept output with accepted | ⟨accepts, rfl, rejected⟩
  · rw [settle_of_accepted offers accepted]
  · rw [settle_of_rejected offers rejected]
    rfl

theorem offered_of_no_offer (none : ∀ task output, ¬ n.Offers task output) :
    (n.settle filter accept).offered = [] := by
  rcases n.settle_cases filter accept with ⟨-, came⟩ | ⟨e, -, came⟩ | ⟨-, came⟩ |
    ⟨task, output, offers, -⟩
  · rw [came]
  · rw [came]
  · rw [came]
  · exact absurd offers (none task output)

end Negotiation

namespace Filter

/-- What keeps the built-in filter from a call: its configuration cannot be read, or what it says
cannot be resolved. -/
theorem proposals_of_unresolved {config : Document} {input : Schema}
    (unresolved : ¬ ∃ s p, Selection.ofDocument config = .ok s ∧
      Projection.resolve input s = .ok p) :
    (proposeSelection config input).proposals = [] := by
  apply List.eq_nil_iff_forall_not_mem.mpr
  intro proposal made
  obtain ⟨s, p, parsed, resolved, -⟩ := of_mem_proposals made
  exact unresolved ⟨s, p, parsed, resolved⟩

/-- A filter settles on what it offers, unless this is rejected, and whoever is to accept a schema
is asked once, about the one that is offered, and not at all if none is. A filter that makes a
second call is refused for it, however it would go on. Short of that it ends with the error with
which it breaks off, or is refused for a call that lacks a part or was not made. All this is what
comes of hearing its calls one by one, of which it makes two at most. The built-in filter makes
exactly one call if its configuration can be read and resolved, and otherwise none. -/
theorem settle_answers_single_offer (f : Filter) (config : Document) (input : Schema)
    (accept : Option (Schema → Bool)) :
    let n := f.propose config input
    let s := n.settle f.name accept
    (∀ task output, s.outcome = .ok (task, output) ↔
      n.Offers task output ∧ ∀ accepts ∈ accept, accepts output = true) ∧
    (∀ e, s.outcome = .error e ↔
      (2 ≤ n.proposals.length ∧ e = .violation .secondProposal) ∨
      (n.proposals.length ≤ 1 ∧ n.ending = some e) ∨
      (n.Lacks ∧ e = .violation (.noProposal f.name)) ∨
      ∃ task output accepts, n.Offers task output ∧ accept = some accepts ∧
        accepts output = false ∧ e = .rejected f.name output.specs) ∧
    (∀ task output, n.Offers task output →
      s.offered = if accept.isSome then [output] else []) ∧
    ((∀ task output, ¬ n.Offers task output) → s.offered = []) ∧
    s = n.heard f.name accept ∧
    (Listener.fresh.hearAll n.proposals n.ending).2.calls = min n.proposals.length 2 ∧
    (∀ selection p, Selection.ofDocument config = .ok selection →
      Projection.resolve input selection = .ok p →
      (removeColumns.propose config input).proposals =
        [⟨some selection.toDocument, some p.output⟩]) ∧
    ((¬ ∃ selection p, Selection.ofDocument config = .ok selection ∧
        Projection.resolve input selection = .ok p) →
      (removeColumns.propose config input).proposals = []) := by
  intro n s
  refine ⟨?_, ?_, ?_, ?_, n.settle_eq_heard, ?_, ?_, proposals_of_unresolved⟩
  · intro task output
    exact Negotiation.settle_eq_ok_iff
  · intro e
    exact Negotiation.settle_eq_error_iff
  · intro task output offers
    exact Negotiation.offered_of_offers offers
  · intro none
    exact Negotiation.offered_of_no_offer none
  · rw [Listener.hearAll_fresh]
  · intro selection p parsed resolved
    exact proposals_of_resolve parsed resolved

end Filter

end TypedPages
