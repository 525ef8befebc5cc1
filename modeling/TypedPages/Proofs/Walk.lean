import TypedPages.Proofs.Reading
import TypedPages.Proofs.Turns

/-!
# Walking over a page

Who moves the cursor of a workbench knows which page was bound last and what the advances since
then have answered. From this it follows what reads tell of, whatever else has been done between
them: the record of the latest advance that was not refused, if it found one, and nothing if there
is none. So an advance that is refused after one that found a record leaves this record to be read.
-/

namespace TypedPages

/-- The page that was bound last, none after a close, and what the advances since then have
answered, the latest one first. -/
structure Walk where
  page : Page
  answers : List (Except Error Bool)

namespace Walk

open Workbench (Step)

/-- No page is bound, and nothing was asked. -/
def start : Walk := ⟨[], []⟩

/-- The number of the record on which advances have led: the one of the latest advance that was
not refused, if this one found a record. -/
def standing? : List (Except Error Bool) → Option Nat
  | [] => none
  | .ok true :: earlier => some earlier.length
  | .ok false :: _ => none
  | .error _ :: earlier => standing? earlier

/-- What a step adds to the walk of the cursor that it finds. -/
def note (walk : Walk) (c : Cursor) : Step → Walk
  | .bind page => ⟨page, []⟩
  | .advance => { walk with answers := c.advance.1 :: walk.answers }
  | .closeCursor => start
  | _ => walk

/-- What is expected of reads on a walk: if the latest advance found a record, they tell of the
record of its number, and otherwise everyone is refused. -/
def Exposes [Host] (walk : Walk) (c : Cursor) : Prop :=
  match walk.answers with
  | .ok true :: earlier => ∃ record, walk.page[earlier.length]? = some record ∧ c.Tells record
  | _ => c.Refuses

/-- The cursor is where the walk has led. -/
structure Leads (walk : Walk) (c : Cursor) : Prop where
  ahead : c.ahead = walk.page.drop walk.answers.length
  on : ∀ k, standing? walk.answers = some k →
    ∃ record, walk.page[k]? = some record ∧ c.current = some record
  off : standing? walk.answers = none → c.current = none

variable {walk : Walk} {c : Cursor}

/-- Before the first advance a walk has led on no record. -/
theorem leads_of_unasked (page : Page) (ahead : c.ahead = page) (off : c.current = none) :
    (Walk.mk page []).Leads c := by
  refine ⟨ahead, ?_, fun _ => off⟩
  rintro k ⟨⟩

/-- An advance takes the next record of the page, finds the page at its end, or is refused and
leaves the cursor on the record on which it stood. -/
theorem Leads.advance (h : walk.Leads c) :
    Leads { walk with answers := c.advance.1 :: walk.answers } c.advance.2 := by
  cases ahead : c.ahead with
  | nil =>
      rw [Cursor.advance_of_end ahead]
      refine ⟨?_, ?_, fun _ => rfl⟩
      · have passed : walk.page.length ≤ walk.answers.length := by
          rw [← List.drop_eq_nil_iff, ← h.ahead, ahead]
        show c.ahead = walk.page.drop (walk.answers.length + 1)
        rw [ahead, List.drop_eq_nil_iff.mpr (by omega)]
      · rintro k ⟨⟩
  | cons record later =>
      have suffix : walk.page.drop walk.answers.length = record :: later := by
        rw [← h.ahead, ahead]
      have here : walk.page[walk.answers.length]? = some record := by
        rw [← List.head?_drop, suffix]
        rfl
      have rest : later = walk.page.drop (walk.answers.length + 1) := by
        rw [← List.tail_drop, suffix]
        rfl
      by_cases width : record.length = c.schema.size
      · rw [Cursor.advance_of_width ahead width]
        refine ⟨rest, ?_, ?_⟩
        · rintro k ⟨⟩
          exact ⟨record, here, rfl⟩
        · rintro ⟨⟩
      · rw [Cursor.advance_of_misfit ahead width]
        exact ⟨rest, h.on, h.off⟩

/-- Where the walk has led decides what reads tell of. -/
theorem Leads.tells [Host] (h : walk.Leads c) {k : Nat} (found : standing? walk.answers = some k) :
    ∃ record, walk.page[k]? = some record ∧ c.Tells record := by
  obtain ⟨record, here, current⟩ := h.on k found
  exact ⟨record, here, Cursor.tells_of_current current⟩

/-- Everyone is refused exactly if the walk has led on no record. -/
theorem Leads.refuses_iff [Host] (h : walk.Leads c) :
    c.Refuses ↔ standing? walk.answers = none := by
  rw [Cursor.refuses_iff]
  constructor
  · intro off
    cases found : standing? walk.answers with
    | none => rfl
    | some k =>
        obtain ⟨record, -, current⟩ := h.on k found
        rw [off] at current
        cases current
  · exact h.off

/-- Reads are as expected, unless the latest advance was refused when the cursor already stood on
a record. -/
theorem Leads.exposes_iff [Host] (h : walk.Leads c) : walk.Exposes c ↔
    ∀ e earlier, walk.answers = .error e :: earlier → standing? earlier = none := by
  have refuses := h.refuses_iff
  rw [Exposes]
  cases answers : walk.answers with
  | nil =>
      rw [answers] at refuses
      refine iff_of_true (refuses.mpr rfl) ?_
      rintro e earlier ⟨⟩
  | cons latest earlier =>
      rw [answers] at refuses
      rcases latest with e | more
      · refine refuses.trans ⟨?_, fun expected => expected e earlier rfl⟩
        rintro none _ _ ⟨⟩
        exact none
      · cases more with
        | true =>
            have found : standing? walk.answers = some earlier.length := by
              rw [answers]
              rfl
            refine iff_of_true (h.tells found) ?_
            rintro e earlier ⟨⟩
        | false =>
            refine iff_of_true (refuses.mpr rfl) ?_
            rintro e earlier ⟨⟩

end Walk

namespace Workbench

variable {bench : Workbench} {walk : Walk}

/-- No turn of a writer moves the cursor. -/
theorem cursor_turn [Host] (bench : Workbench) (number : Nat) (own : WriterStep) :
    (bench.step (.writer number own)).2.cursor = bench.cursor := by
  cases found : bench.writers[number]? with
  | none => rw [step_of_absent found]
  | some w => rw [step_own found]

/-- The walk and the cursor go on together at each step. -/
theorem leads_step [Host] (h : walk.Leads bench.cursor) (step : Step) :
    (walk.note bench.cursor step).Leads (bench.step step).2.cursor := by
  cases step with
  | bind page => exact Walk.leads_of_unasked page rfl rfl
  | advance => exact h.advance
  | isNull column => exact h
  | read type column => exact h
  | closeCursor => exact Walk.leads_of_unasked [] rfl rfl
  | openWriter schema sink => exact h
  | writer number own =>
      rw [cursor_turn]
      exact h

/-- The walk in the course of steps. -/
def walkOn [Host] : Walk → Workbench → List Step → Walk
  | walk, _, [] => walk
  | walk, bench, step :: steps =>
    walkOn (walk.note bench.cursor step) (bench.step step).2 steps

theorem leads_after [Host] (h : walk.Leads bench.cursor) (steps : List Step) :
    (walkOn walk bench steps).Leads (bench.after steps).cursor := by
  induction steps generalizing walk bench with
  | nil => exact h
  | cons step steps ih => exact ih (leads_step h step)

/-- The walk of a new cursor in the course of steps. -/
def walkOf [Host] (pool : BufferPool) (reader : Schema) (steps : List Step) : Walk :=
  walkOn .start (ofReader pool reader) steps

/-- What has become of a new cursor after steps. -/
def cursorAfter [Host] (pool : BufferPool) (reader : Schema) (steps : List Step) : Cursor :=
  ((ofReader pool reader).after steps).cursor

theorem leads_walkOf [Host] (pool : BufferPool) (reader : Schema) (steps : List Step) :
    (walkOf pool reader steps).Leads (cursorAfter pool reader steps) :=
  leads_after (Walk.leads_of_unasked [] rfl rfl) steps

/-- Whatever is done at a workbench, reads tell of the record on which the advances since the page
was bound have led, and are all refused if they have led on none. This is what is expected of them,
with one exception: if an advance is refused for the width of its record, the record before it, if
there was one, goes on being told of. -/
theorem exposes_iff_of_steps [Host] (pool : BufferPool) (reader : Schema) (steps : List Step) :
    ((walkOf pool reader steps).Exposes (cursorAfter pool reader steps) ↔
      ∀ e earlier, (walkOf pool reader steps).answers = .error e :: earlier →
        Walk.standing? earlier = none) ∧
    (∀ k, Walk.standing? (walkOf pool reader steps).answers = some k →
      ∃ record, (walkOf pool reader steps).page[k]? = some record ∧
        (cursorAfter pool reader steps).Tells record) ∧
    ((cursorAfter pool reader steps).Refuses ↔
      Walk.standing? (walkOf pool reader steps).answers = none) := by
  have leads := leads_walkOf pool reader steps
  exact ⟨leads.exposes_iff, fun k found => leads.tells found, leads.refuses_iff⟩

/-- Reads are not always as expected: behind a record of the right width comes one without cells,
and after the advance to it was refused the first one is still told of. -/
theorem not_exposes :
    ¬ ∀ (pool : BufferPool) (reader : Schema) (steps : List Step),
      (walkOf pool reader steps).Exposes (cursorAfter pool reader steps) := by
  intro exposes
  let pool : BufferPool := .fresh 0 1 (by decide)
  let steps : List Step := [.bind [[.long 1], []], .advance, .advance]
  have refuses : (cursorAfter pool Cursor.Sample.reader steps).Refuses :=
    exposes pool Cursor.Sample.reader steps
  obtain ⟨v, refused⟩ := refuses.isNull ⟨"code", 0, .long⟩
  have told : (cursorAfter pool Cursor.Sample.reader steps).isNull ⟨"code", 0, .long⟩ =
      .ok false := rfl
  rw [told] at refused
  cases refused

end Workbench

end TypedPages
