import Mathlib.Data.List.Forall2
import TypedPages.Proofs.Inertia
import TypedPages.Proofs.Progress

/-!
# What the counters tell

A projector has four counters, its own two and those of its writer. They are moved at different
moments: a record is counted by the writer when it is sealed, by the projector when it was not
refused, a page of the sink when it was taken, and a page that was fed at its end. Whatever is done
with the projector and whatever fails, each counter tells how often its own event has happened, and
so they can be compared in every state.
-/

namespace TypedPages

namespace Projector

/-- A step: the projector as it was found, the answer, and the projector as it was left. -/
structure Turn where
  found : Projector
  step : Step
  answer : Except Error Unit
  left : Projector

namespace Turn

/-- The failure of the sink that a turn passed on. -/
def failure? (t : Turn) : Option Failure :=
  passedOn? t.answer

/-- A page was fed without an error. -/
def isFed (t : Turn) : Bool :=
  match t.step with
  | .feed _ => t.answer.isOk
  | _ => false

/-- A page was fed, and this failed with the sink. -/
def isRefused (t : Turn) : Bool :=
  match t.step with
  | .feed _ => t.failure?.isSome
  | _ => false

/-- What happens in a turn. Only pages that are fed to a projector that was not closed can seal
records. While a page is fed, the sink is offered pages and nothing else, and what it refuses of
them is what the turn passes on. -/
structure Does [Host] (input output : Schema) (t : Turn) (calls : List SinkCall)
    (sealed : List Record) :
    Prop where
  sealing : ∀ page, t.step = .feed page → t.found.closed = false →
    Sealing input output 0 page t.answer sealed
  idle : (∀ page, t.step = .feed page → t.found.closed = true) → sealed = []
  offered : ∀ page, t.step = .feed page → ∃ offered : List Page, calls = offered.map .add
  writer : t.found.writer.Gains t.left.writer calls t.failure?.toList sealed
  pages : t.left.pages = t.found.pages + if t.isFed then 1 else 0
  records : t.left.records + (if t.isRefused then 1 else 0) = t.found.records + sealed.length

end Turn

/-- The turn that a step is. -/
def turn [Host] (p : Projector) (pool : BufferPool) (step : Step) : Turn :=
  ⟨p, step, (p.step pool step).1, (p.step pool step).2.1⟩

/-- The turns of steps that are performed one after the other. -/
def turns [Host] : Projector → BufferPool → List Step → List Turn
  | _, _, [] => []
  | p, pool, step :: steps =>
    p.turn pool step :: (p.step pool step).2.1.turns (p.step pool step).2.2 steps

variable {input output : Schema} {sink : Sink} {p q : Projector}

/-- The projector is at work: it was not closed, and less than a page waits in its writer. -/
structure Working (input output : Schema) (sink : Sink) (p : Projector) : Prop where
  ready : p.Ready input output sink
  unclosed : p.closed = false
  short : p.writer.pending.length < p.writer.pageSize

theorem pages_transferRecord [Host] (p : Projector) : p.transferRecord.2.pages = p.pages := by
  rw [transferRecord]
  split
  · rfl
  · split <;> rfl

theorem pages_feed [Host] (p : Projector) (page : Page) :
    (p.feed page).2.pages = p.pages + if (p.feed page).1.isOk then 1 else 0 := by
  have same : (transferAll page { p with cursor := p.cursor.bind page }).2.pages = p.pages :=
    @transferAll_induction _ (fun q => q.pages = p.pages) _ (fun _ _ _ h => h)
      (fun q h => (pages_transferRecord q).trans h) page rfl
  rw [feed]
  split <;> rename_i result <;> rw [result] at same
  · exact congrArg (· + 1) same
  · exact same

namespace Ready

variable (h : p.Ready input output sink)
include h

theorem isClosed_writer : p.writer.isClosed = false := by
  obtain ⟨id, found⟩ := h.isOpen
  obtain ⟨b, buffer, -⟩ := Option.map_eq_some_iff.mp found
  exact Writer.isClosed_of_buffer buffer

theorem finish : p.finish.2.Ready input output sink := by
  refine ⟨⟨h.tied.cursor, h.tied.lookup, h.tied.writer.finish⟩, ?_⟩
  obtain ⟨id, found⟩ := h.isOpen
  exact ⟨id, p.writer.bufferId?_finish.trans found⟩

end Ready

namespace Working

variable (h : p.Working input output sink)
include h

/-- A projector stays at work until it is closed. -/
theorem step [Host] (pool : BufferPool) (step : Step) (other : step ≠ .close) :
    (p.step pool step).2.1.Working input output sink := by
  cases step with
  | close => exact absurd rfl other
  | feed page =>
      obtain ⟨calls, sealed, progress⟩ := h.ready.progress_feed h.short page
      exact ⟨h.ready.feed page, (closed_feed p page).trans h.unclosed, progress.writer.short⟩
  | finish =>
      obtain ⟨calls, gains, nothing, -⟩ := Writer.gains_finish h.ready.isClosed_writer
      refine ⟨h.ready.finish, h.unclosed, ?_⟩
      show p.writer.finish.2.pending.length < p.writer.finish.2.pageSize
      rw [nothing, gains.pageSize]
      exact Nat.zero_lt_of_lt h.short

theorem after [Host] (pool : BufferPool) {steps : List Step} (unclosed : .close ∉ steps) :
    (p.after pool steps).1.Working input output sink := by
  induction steps generalizing p pool with
  | nil => exact h
  | cons step steps ih =>
      rw [List.mem_cons, not_or] at unclosed
      obtain ⟨other, others⟩ := unclosed
      exact ih (h.step pool step (Ne.symm other)) _ others

theorem shut_close (pool : BufferPool) : (p.close pool).2.1.Shut := by
  refine Projector.shut_close ?_ pool
  intro closed
  rw [h.unclosed] at closed
  cases closed

theorem does_feed [Host] (pool : BufferPool) (page : Page) : ∃ calls sealed,
    (p.turn pool (.feed page)).Does input output calls sealed := by
  obtain ⟨calls, sealed, progress⟩ := h.ready.progress_feed h.short page
  refine ⟨calls, sealed, ?_, ?_, ?_, progress.writer.toGains, pages_feed p page, ?_⟩
  · rintro page' ⟨⟩ -
    exact progress.sealing
  · intro closed
    have other := closed page rfl
    rw [show (p.turn pool (.feed page)).found.closed = false from h.unclosed] at other
    cases other
  · rintro page' ⟨⟩
    refine ⟨SinkCall.pages calls, ?_⟩
    exact progress.writer.calls_eq
  · have counted := progress.records
    show (p.feed page).2.records + (if (passedOn? (p.feed page).1).isSome then 1 else 0) = _
    cases failed : passedOn? (p.feed page).1 <;> rw [failed] at counted <;> exact counted

theorem does_finish [Host] (pool : BufferPool) : ∃ calls,
    (p.turn pool .finish).Does input output calls [] := by
  obtain ⟨calls, gains, -⟩ := Writer.gains_finish h.ready.isClosed_writer
  exact ⟨calls, nofun, fun _ => rfl, nofun, gains, rfl, rfl⟩

theorem does_close [Host] (pool : BufferPool) : ∃ calls,
    (p.turn pool .close).Does input output calls [] := by
  obtain ⟨calls, gains⟩ := p.writer.gains_close pool
  have unclosed : ¬ p.closed = true := by
    rw [h.unclosed]
    exact Bool.false_ne_true
  have closing : p.step pool .close =
      ((p.writer.close pool).1, { p with
        cursor := p.cursor.close, writer := (p.writer.close pool).2.1, closed := true },
        (p.writer.close pool).2.2) := if_neg unclosed
  refine ⟨calls, nofun, fun _ => rfl, nofun, ?_, ?_, ?_⟩
  · rw [turn, closing]
    exact gains
  · rw [turn, closing]
    rfl
  · rw [turn, closing]
    rfl

end Working

namespace Shut

variable (h : p.Shut)
include h

/-- What a closed projector answers has nothing to do with the sink. -/
theorem passedOn?_step [Host] (pool : BufferPool) (step : Step) :
    passedOn? (p.step pool step).1 = none := by
  cases step with
  | feed page =>
      show passedOn? (p.feed page).1 = none
      rcases feed_of_closed h.writer page with ⟨-, _, _, fed⟩ |
        ⟨-, e, _, refused, ⟨-, v, rfl⟩ | ⟨-, cause, rfl⟩⟩
      · rw [fed]
        rfl
      · rw [refused]
        rfl
      · rw [refused]
        rfl
  | finish =>
      show passedOn? p.finish.1 = none
      rw [finish_of_closed h.writer]
      rfl
  | close =>
      show passedOn? (p.close pool).1 = none
      rw [close_of_closed h.closed pool]
      rfl

theorem does [Host] (pool : BufferPool) (step : Step) :
    (p.turn pool step).Does input output [] [] := by
  have silent : (p.turn pool step).failure? = none := h.passedOn?_step pool step
  obtain ⟨cursor, pages, same⟩ := h.step pool step
  have writer : (p.turn pool step).left.writer = p.writer := congrArg (·.1.writer) same
  have records : (p.turn pool step).left.records = p.records := congrArg (·.1.records) same
  refine ⟨?_, fun _ => rfl, fun _ _ => ⟨[], rfl⟩, ?_, ?_, ?_⟩
  · intro page _ unclosed
    rw [show (p.turn pool step).found.closed = true from h.closed] at unclosed
    cases unclosed
  · rw [silent, writer]
    exact .refl p.writer
  · cases step with
    | feed page => exact pages_feed p page
    | finish => rfl
    | close => exact congrArg (·.2.1.pages) (close_of_closed h.closed pool)
  · rw [records, Turn.isRefused, silent]
    cases step <;> rfl

/-- A closed projector cannot be finished without an error. -/
theorem exists_error [Host] (pool : BufferPool) (steps : List Step) :
    ∃ t ∈ p.turns pool (steps ++ [.finish]), t.answer ≠ .ok () := by
  induction steps generalizing p pool with
  | nil =>
      refine ⟨p.turn pool .finish, List.mem_cons_self, ?_⟩
      show p.finish.1 ≠ .ok ()
      rw [finish_of_closed h.writer]
      exact nofun
  | cons step steps ih =>
      obtain ⟨cursor, pages, same⟩ := h.step pool step
      have still : (p.step pool step).2.1.Shut := by
        rw [same]
        exact h.of_cursor cursor pages
      obtain ⟨t, member, failed⟩ := ih still (p.step pool step).2.2
      exact ⟨t, List.mem_cons_of_mem _ member, failed⟩

end Shut

/-- One projector has become the other by turns, which have sealed records, each its own. The
counters have moved as far as the turns tell. -/
structure Accounted [Host] (input output : Schema) (p q : Projector) (turns : List Turn)
    (calls : List SinkCall) (sealed : List (List Record)) : Prop where
  each : List.Forall₂ (fun t own => ∃ calls, Turn.Does input output t calls own) turns sealed
  writer : p.writer.Gains q.writer calls (turns.filterMap Turn.failure?) sealed.flatten
  pages : q.pages = p.pages + turns.countP Turn.isFed
  records : q.records + turns.countP Turn.isRefused = p.records + sealed.flatten.length

theorem Accounted.refl [Host] (p : Projector) : Accounted input output p p [] [] [] :=
  ⟨.nil, .refl p.writer, rfl, rfl⟩

/-- A turn comes before others. -/
theorem Accounted.cons [Host] {t : Turn} {turns : List Turn} {calls calls' : List SinkCall}
    {own : List Record} {sealed : List (List Record)} (first : t.Does input output calls own)
    (others : Accounted input output t.left q turns calls' sealed) :
    Accounted input output t.found q (t :: turns) (calls ++ calls') (own :: sealed) := by
  refine ⟨.cons ⟨calls, first⟩ others.each, ?_, ?_, ?_⟩
  · have failures : (t :: turns).filterMap Turn.failure? =
        t.failure?.toList ++ turns.filterMap Turn.failure? := by
      rw [List.filterMap_cons]
      cases t.failure? <;> rfl
    rw [failures, List.flatten_cons]
    exact first.writer.trans others.writer
  · rw [others.pages, first.pages, List.countP_cons]
    omega
  · have before := first.records
    have after := others.records
    rw [List.countP_cons, List.flatten_cons, List.length_append]
    omega

section

variable (h : p.Working input output sink ∨ p.Shut)
include h

theorem working_or_shut_step [Host] (pool : BufferPool) (step : Step) :
    (p.step pool step).2.1.Working input output sink ∨ (p.step pool step).2.1.Shut := by
  rcases h with working | shut
  · by_cases closing : step = .close
    · rw [closing]
      exact .inr (working.shut_close pool)
    · exact .inl (working.step pool step closing)
  · obtain ⟨cursor, pages, same⟩ := shut.step pool step
    rw [same]
    exact .inr (shut.of_cursor cursor pages)

theorem does_turn [Host] (pool : BufferPool) (step : Step) : ∃ calls sealed,
    (p.turn pool step).Does input output calls sealed := by
  rcases h with working | shut
  · cases step with
    | feed page => exact working.does_feed pool page
    | finish =>
        obtain ⟨calls, does⟩ := working.does_finish pool
        exact ⟨calls, [], does⟩
    | close =>
        obtain ⟨calls, does⟩ := working.does_close pool
        exact ⟨calls, [], does⟩
  · exact ⟨[], [], shut.does pool step⟩

/-- Whatever is done with a projector, its counters are accounted for. -/
theorem accounted_after [Host] (pool : BufferPool) (steps : List Step) : ∃ calls sealed,
    Accounted input output p (p.after pool steps).1 (p.turns pool steps) calls sealed := by
  induction steps generalizing p pool with
  | nil => exact ⟨[], [], .refl p⟩
  | cons step steps ih =>
      obtain ⟨calls, own, does⟩ := does_turn h pool step
      obtain ⟨calls', sealed, others⟩ :=
        ih (working_or_shut_step h pool step) (p.step pool step).2.2
      exact ⟨calls ++ calls', own :: sealed, .cons does others⟩

end

end Projector

end TypedPages
