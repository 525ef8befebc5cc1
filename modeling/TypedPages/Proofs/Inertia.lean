import TypedPages.Proofs.Closed
import TypedPages.Proofs.Projector

/-!
# Closed projectors

A projector that was closed can still be asked to work: it binds a page and advances to its first
record. There it ends, at the latest when the record is to be sealed. The record has the wrong
width, one of its cells cannot be read, or the closed writer refuses it. Nothing gets further than
to the cursor, so the writer, its sink and the pool stay as they were left, whatever follows.
-/

namespace TypedPages

namespace Projector

variable {p : Projector} {record : Record} {later : List Record} {page : Page} {pool : BufferPool}

/-- Performs steps one after the other, whatever they answer. -/
def after [Host] : Projector → BufferPool → List Step → Projector × BufferPool
  | p, pool, [] => (p, pool)
  | p, pool, step :: steps => (p.step pool step).2.1.after (p.step pool step).2.2 steps

theorem after_append [Host] (p : Projector) (pool : BufferPool) (early late : List Step) :
    p.after pool (early ++ late) =
      (p.after pool early).1.after (p.after pool early).2 late := by
  induction early generalizing p pool with
  | nil => rfl
  | cons step early ih => exact ih (p.step pool step).2.1 (p.step pool step).2.2

/-- Whether the cell has a place to go to. -/
def Transit.isRouted (t : Transit) : Bool :=
  t.1.2.isSome

/-- The error by which a cell is refused that is on its way to a closed writer. It is looked at
before the writer is. -/
def Transit.refusal [Host] (t : Transit) : Error :=
  if t.2.suits t.1.1.type then .violation .closedWriter
  else (Violation.wrongClass t.1.1.name t.1.1.type t.2).raised

/-- The cell that has to be shown when it is refused. -/
def Transit.shown? (t : Transit) : Option Cell :=
  if t.2.suits t.1.1.type then none else some t.2

/-- The first cell of a record that has a place to go to, if the record is as wide as the schema. -/
def firstRouted? (p : Projector) (record : Record) : Option Transit :=
  if record.length = p.cursor.schema.size then
    (transits p.cursor.schema p.lookup record).find? Transit.isRouted
  else none

/-- The error by which a record is refused that is on its way to a closed writer. -/
def refusal [Host] (p : Projector) (record : Record) : Error :=
  match p.firstRouted? record with
  | none => .violation .closedWriter
  | some t => t.refusal

/-- The cell that has to be shown when a page is refused: the first one of its first record that
has a place to go to, unless it suits its column. -/
def shown? (p : Projector) : Page → Option Cell
  | [] => none
  | record :: _ => (p.firstRouted? record).bind Transit.shown?

/-- Whether a page can be refused with a violation. -/
def Refusable [Host] (p : Projector) (page : Page) : Prop :=
  ∀ cell ∈ p.shown? page, cell.obstacle? = none

/-- The refusal of a record is a violation exactly if it can show what it has to. -/
theorem refusal_cases [Host] (p : Projector) (record : Record) (later : List Record) :
    (p.Refusable (record :: later) ∧ ∃ v, p.refusal record = .violation v) ∨
      (¬ p.Refusable (record :: later) ∧ ∃ cause, p.refusal record = .unwritable cause) := by
  rw [Refusable, shown?, refusal]
  cases p.firstRouted? record with
  | none => exact .inl ⟨nofun, _, rfl⟩
  | some t =>
      simp only [Option.bind_some, Transit.shown?, Transit.refusal]
      split
      · exact .inl ⟨nofun, _, rfl⟩
      · cases obstacle : t.2.obstacle? with
        | none => exact .inl ⟨by simpa using obstacle, _, Error.raised_of_writable obstacle⟩
        | some cause => exact .inr ⟨by simp [obstacle], cause, Error.raised_of_obstacle obstacle⟩

section

variable (closed : p.writer.buffer = none)
include closed

/-- Cells are copied to a closed writer as long as none has a place in the output. -/
theorem copyCells_of_closed [Host] {transits : List Transit}
    (found : ∀ t ∈ transits, p.cursor.cell t.1.1 = .ok t.2) :
    copyCells p.cursor (transits.map (·.1)) p.writer =
      match transits.find? Transit.isRouted with
      | none => (.ok (), p.writer)
      | some t => (.error t.refusal, p.writer) := by
  induction transits with
  | nil => rfl
  | cons t transits ih =>
      obtain ⟨first, others⟩ := List.forall_mem_cons.mp found
      obtain ⟨⟨column, target⟩, cell⟩ := t
      cases target with
      | none => exact ih others
      | some index =>
          have refused := Writer.copy_of_closed_of_cell closed first index
          rw [List.map_cons, copyCells, refused]
          rfl

/-- No record goes through: if no cell is refused, the sealing is. -/
theorem transferRecord_of_closed [Host] (current : p.cursor.current = some record) :
    p.transferRecord = (.error (p.refusal record), p) := by
  have width := p.cursor.width record current
  have found : ∀ t ∈ transits p.cursor.schema p.lookup record, p.cursor.cell t.1.1 = .ok t.2 := by
    intro t member
    obtain ⟨i, f, hf, own, -, cell⟩ := mem_transits member
    rw [own]
    exact Cursor.cell_of_field current hf cell
  have copied := copyCells_of_closed closed found
  rw [map_fst_transits p.lookup width] at copied
  rw [transferRecord, routes, copied, refusal, firstRouted?, if_pos width]
  cases (transits p.cursor.schema p.lookup record).find? Transit.isRouted with
  | none => simp only [Writer.sealRow_of_closed closed]
  | some t => rfl

/-- The next record is as far as a page gets. -/
theorem transferAll_of_closed [Host] (ahead : p.cursor.ahead = record :: later)
    (width : record.length = p.cursor.schema.size) :
    transferAll (record :: later) p =
      (.error (p.refusal record), { p with cursor := p.cursor.moved later width }) := by
  have refused := transferRecord_of_closed
    (p := { p with cursor := p.cursor.moved later width }) closed rfl
  rw [transferAll, Cursor.advance_of_width ahead width]
  simp only [refused]
  rfl

/-- A page is refused, unless it has no records. -/
theorem feed_of_closed [Host] (page : Page) :
    (page = [] ∧ ∃ cursor pages, p.feed page = (.ok (), { p with cursor, pages })) ∨
      (page ≠ [] ∧ ∃ e cursor, p.feed page = (.error e, { p with cursor }) ∧
        ((p.Refusable page ∧ ∃ v, e = .violation v) ∨
          (¬ p.Refusable page ∧ ∃ cause, e = .unwritable cause))) := by
  cases page with
  | nil => exact .inl ⟨rfl, _, _, rfl⟩
  | cons record later =>
      refine .inr ⟨List.cons_ne_nil record later, ?_⟩
      have ahead : (p.cursor.bind (record :: later)).ahead = record :: later := rfl
      by_cases width : record.length = p.cursor.schema.size
      · have refused := transferAll_of_closed
          (p := { p with cursor := p.cursor.bind (record :: later) }) closed ahead width
        rw [feed, refused]
        exact ⟨_, _, rfl, p.refusal_cases record later⟩
      · have shown : p.Refusable (record :: later) := by
          rw [Refusable, shown?, firstRouted?, if_neg width]
          intro cell shown
          cases shown
        rw [feed, transferAll, Cursor.advance_of_misfit ahead width]
        exact ⟨_, _, rfl, .inl ⟨shown, _, rfl⟩⟩

theorem finish_of_closed : p.finish = (.error (.violation .closedWriter), p) := by
  rw [finish, Writer.finish_of_closed closed]

end

theorem close_of_closed (closed : p.closed = true) (pool : BufferPool) :
    p.close pool = (.ok (), p, pool) := by
  rw [close, if_pos closed]

/-- The projector was closed, and with it its writer. -/
structure Shut (p : Projector) : Prop where
  closed : p.closed = true
  writer : p.writer.buffer = none

namespace Shut

variable (h : p.Shut)
include h

theorem of_cursor (cursor : Cursor) (pages : Nat) : { p with cursor, pages }.Shut :=
  ⟨h.closed, h.writer⟩

/-- A step concerns the cursor and the number of pages alone. -/
theorem step [Host] (pool : BufferPool) (step : Step) :
    ∃ cursor pages, (p.step pool step).2 = ({ p with cursor, pages }, pool) := by
  cases step with
  | feed page =>
      rcases feed_of_closed h.writer page with
        ⟨-, cursor, pages, fed⟩ | ⟨-, e, cursor, refused, -⟩
      · exact ⟨cursor, pages, congrArg (fun result => (result.2, pool)) fed⟩
      · exact ⟨cursor, p.pages, congrArg (fun result => (result.2, pool)) refused⟩
  | finish =>
      have refused := finish_of_closed h.writer
      exact ⟨p.cursor, p.pages, congrArg (fun result => (result.2, pool)) refused⟩
  | close => exact ⟨p.cursor, p.pages, congrArg Prod.snd (close_of_closed h.closed pool)⟩

theorem after [Host] (pool : BufferPool) (steps : List Step) :
    ∃ cursor pages, p.after pool steps = ({ p with cursor, pages }, pool) := by
  induction steps generalizing p with
  | nil => exact ⟨p.cursor, p.pages, rfl⟩
  | cons step steps ih =>
      obtain ⟨cursor, pages, stepped⟩ := h.step pool step
      obtain ⟨cursor', pages', last⟩ := ih (h.of_cursor cursor pages)
      refine ⟨cursor', pages', ?_⟩
      rw [Projector.after, stepped, last]

end Shut

theorem closed_transferRecord [Host] (p : Projector) : p.transferRecord.2.closed = p.closed := by
  rw [transferRecord]
  split
  · rfl
  · split <;> rfl

theorem closed_feed [Host] (p : Projector) (page : Page) : (p.feed page).2.closed = p.closed :=
  @feed_induction _ (fun q => q.closed = p.closed) p (fun _ _ _ same => same)
    (fun q same => (closed_transferRecord q).trans same) (fun _ _ same => same) page rfl

/-- The first closing closes the writer, and this is all that marks a projector as closed. -/
theorem shut_close (h : p.closed = true → p.Shut) (pool : BufferPool) :
    (p.close pool).2.1.Shut := by
  by_cases closed : p.closed = true
  · rw [close_of_closed closed]
    exact h closed
  · rw [close, if_neg closed]
    exact ⟨rfl, Writer.buffer_close p.writer pool⟩

namespace Sample

/-- A pool of pages of two records, of which the projector takes a buffer. -/
def lender : BufferPool := .fresh 0 2 Nat.two_pos

/-- A column whose cells are kept. -/
def keeping : Projector :=
  ⟨.ofSchema ⟨[⟨"name", .string⟩], by decide⟩,
    (Writer.ofPool lender ⟨[⟨"name", .string⟩], by decide⟩ (.fresh fun _ => none)).1, [some 0],
    false, 0, 0⟩

/-- A page and the end of them, before the projector is closed. -/
def before : List Step := [.feed [[.long 1]], .finish]

end Sample

end Projector

end TypedPages
