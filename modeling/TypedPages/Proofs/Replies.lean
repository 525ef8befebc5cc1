import Mathlib.Data.List.Perm.Basic
import TypedPages.Sink

/-!
# How a sink answers

A caller may go on after a refusal. Each call then has an answer of its own, and the pages that
were offered fall into those that the sink took and those that it refused.
-/

namespace TypedPages

namespace SinkCall

/-- The page that a call hands over. -/
def page? : SinkCall → Option Page
  | add page => some page
  | _ => none

/-- The pages that calls hand over, in order. -/
def pages (calls : List SinkCall) : List Page :=
  calls.filterMap page?

@[simp] theorem pages_nil : pages [] = [] := rfl

@[simp] theorem pages_append (front later : List SinkCall) :
    pages (front ++ later) = pages front ++ pages later :=
  List.filterMap_append

end SinkCall

namespace Sink

variable {s : Sink} {calls : List SinkCall}

/-- The sink after further calls, whatever it answered. -/
def hearing (s : Sink) (calls : List SinkCall) : Sink :=
  { s with calls := s.calls ++ calls }

@[simp] theorem hearing_nil (s : Sink) : s.hearing [] = s := by
  simp [hearing]

@[simp] theorem hearing_hearing (s : Sink) (calls later : List SinkCall) :
    (s.hearing calls).hearing later = s.hearing (calls ++ later) := by
  simp [hearing]

/-- Calls that are made one after the other, each with the failure by which it is refused. -/
def replies (s : Sink) : List SinkCall → List (SinkCall × Option Failure)
  | [] => []
  | call :: calls => (call, s.refuses (s.calls ++ [call])) :: (s.hearing [call]).replies calls

/-- The failures among the answers to calls. -/
def refusals (s : Sink) (calls : List SinkCall) : List Failure :=
  (s.replies calls).filterMap (·.2)

/-- The pages that calls hand over, each with the failure by which it is refused. -/
def offers (s : Sink) (calls : List SinkCall) : List (Page × Option Failure) :=
  (s.replies calls).filterMap fun (call, refusal) => call.page?.map (·, refusal)

/-- The pages that a sink takes of those that calls hand over. -/
def taken (s : Sink) (calls : List SinkCall) : List Page :=
  ((s.offers calls).filter fun offer => offer.2.isNone).map (·.1)

theorem replies_append (s : Sink) (calls later : List SinkCall) :
    s.replies (calls ++ later) = s.replies calls ++ (s.hearing calls).replies later := by
  induction calls generalizing s with
  | nil => rw [List.nil_append, hearing_nil, replies, List.nil_append]
  | cons call calls ih =>
      rw [List.cons_append, replies, replies, ih, hearing_hearing]
      rfl

/-- One more call adds its own refusal. -/
theorem refusals_concat (s : Sink) (calls : List SinkCall) (call : SinkCall) :
    s.refusals (calls ++ [call]) = s.refusals calls ++
      ((s.hearing calls).refuses ((s.hearing calls).calls ++ [call])).toList := by
  rw [refusals, replies_append, List.filterMap_append, replies, replies]
  cases refusal : (s.hearing calls).refuses ((s.hearing calls).calls ++ [call]) <;>
    simp [refusals]

@[simp] theorem map_fst_offers (s : Sink) (calls : List SinkCall) :
    (s.offers calls).map (·.1) = SinkCall.pages calls := by
  induction calls generalizing s with
  | nil => rfl
  | cons call calls ih =>
      have later := ih (s.hearing [call])
      cases call with
      | add page => exact congrArg (page :: ·) later
      | finish => exact later
      | close => exact later

/-- If no page that was offered is empty, the records that were taken are all that were offered
exactly if no page was refused. -/
theorem flatten_taken_eq_iff (filled : ∀ page ∈ SinkCall.pages calls, page ≠ []) :
    (s.taken calls).flatten = (SinkCall.pages calls).flatten ↔
      ∀ offer ∈ s.offers calls, offer.2 = none := by
  constructor
  · intro same offer member
    -- The refused pages hold as many records as the taken ones lack: none at all.
    have parts := ((s.offers calls).filter_append_perm fun offer => offer.2.isNone).map (·.1)
    rw [List.map_append, map_fst_offers] at parts
    have lengths := parts.flatten.length_eq
    rw [List.flatten_append, List.length_append, ← same] at lengths
    have lost := List.length_eq_zero_iff.mp (Nat.add_eq_left.mp lengths)
    by_contra refused
    have found : (!offer.2.isNone) = true := by
      simpa [Option.isSome_iff_ne_none] using refused
    have down : offer.1 ∈ ((s.offers calls).filter fun offer => !offer.2.isNone).map (·.1) :=
      List.mem_map_of_mem (List.mem_filter.mpr ⟨member, found⟩)
    exact filled offer.1 (parts.subset (List.mem_append_right _ down))
      (List.flatten_eq_nil_iff.mp lost _ down)
  · intro none
    rw [taken, List.filter_eq_self.mpr fun offer member => by simp [none offer member],
      map_fst_offers]

end Sink

end TypedPages
