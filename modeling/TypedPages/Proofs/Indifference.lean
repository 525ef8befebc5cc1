import TypedPages.Proofs.Transaction

/-!
# Dropped columns make no difference

Two sources that differ only in cells of dropped columns cannot be told apart by a transaction:
the cells go into no page, no message and no count. This is shown for two projectors that work side
by side, whose cursors stand at the same place of records that agree along the lookup table. They
answer the same at each step, and stay like this.
-/

namespace TypedPages

/-- Equally many cells, and the same cell wherever the table has a target. -/
def Record.AgreeAlong (table : LookupTable) (a b : Record) : Prop :=
  a.length = b.length ∧ ∀ i j : Nat, table[i]? = some (some j) → a[i]? = b[i]?

/-- Equally many cells, and the same cell under every retained column. -/
def Schema.Agree (input : Schema) (retains : String → Bool) (a b : Record) : Prop :=
  a.length = b.length ∧
    ∀ (i : Nat) (f : Field), input.fields[i]? = some f → retains f.name = true → a[i]? = b[i]?

/-- As many pages of as many records, which agree, and the same failure behind them. -/
structure Source.Agree (input : Schema) (retains : String → Bool) (a b : Source) : Prop where
  pages : List.Forall₂ (List.Forall₂ (input.Agree retains)) a.pages b.pages
  failure : a.failure = b.failure

variable {table : LookupTable} {input output : Schema} {c d : Cursor} {w : Writer}
variable {record : Record} {later page page' : List Record}

theorem Record.AgreeAlong.refl (table : LookupTable) (a : Record) : a.AgreeAlong table a :=
  ⟨rfl, fun _ _ _ => rfl⟩

/-- What agrees under the columns of the output agrees along the table to it. -/
theorem Schema.Agree.along (lookup : input.lookupTable output = .ok table) {a b : Record}
    (h : input.Agree output.has a b) : a.AgreeAlong table b := by
  refine ⟨h.1, ?_⟩
  intro i j target
  obtain ⟨f, hf, hout⟩ := (Schema.lookupTable_target_iff lookup).mp target
  have retained : output.has f.name = true :=
    Schema.has_iff.mpr (Schema.mem_names_iff.mpr ⟨j, f, hout, rfl⟩)
  exact h.2 i f hf retained

namespace Cursor

/-- The cursors stand at the same place of records that agree along a table. -/
structure Alike (table : LookupTable) (c d : Cursor) : Prop where
  schema : c.schema = d.schema
  advances : c.advances = d.advances
  ahead : List.Forall₂ (Record.AgreeAlong table) c.ahead d.ahead
  current : Option.Rel (Record.AgreeAlong table) c.current d.current

theorem Alike.refl (table : LookupTable) (c : Cursor) : c.Alike table c := by
  refine ⟨rfl, rfl, ?_, ?_⟩
  · exact List.forall₂_same.mpr fun record _ => .refl table record
  · cases c.current with
    | none => exact .none
    | some record => exact .some (.refl table record)

/-- Binding pages that agree makes cursors alike. -/
theorem Alike.bind (h : c.Alike table d)
    (pages : List.Forall₂ (Record.AgreeAlong table) page page') :
    (c.bind page).Alike table (d.bind page') :=
  ⟨h.schema, rfl, pages, .none⟩

/-- Cursors that are alike advance alike, also over a record of a wrong width. -/
theorem Alike.advance (h : c.Alike table d) :
    ∃ answered c' d', c.advance = (answered, c') ∧ d.advance = (answered, d') ∧
      c'.Alike table d' := by
  obtain ⟨schema, advances, ahead, current⟩ := h
  have advances' : c.advances + 1 = d.advances + 1 := congrArg (· + 1) advances
  cases hc : c.ahead with
  | nil =>
      rw [hc, List.forall₂_nil_left_iff] at ahead
      refine ⟨_, _, _, advance_of_end hc, advance_of_end ahead, schema, advances', ?_, .none⟩
      rw [hc, ahead]
      exact .nil
  | cons record later =>
      rw [hc] at ahead
      obtain ⟨other, others, agree, rest, hd⟩ := List.forall₂_cons_left_iff.mp ahead
      by_cases width : record.length = c.schema.size
      · have width' : other.length = d.schema.size := by rw [← agree.1, ← schema, width]
        exact ⟨_, _, _, advance_of_width hc width, advance_of_width hd width', schema, advances',
          rest, .some agree⟩
      · have width' : other.length ≠ d.schema.size := by rwa [← agree.1, ← schema]
        have message : Violation.wrongWidth c.advances record.length c.schema.size =
            .wrongWidth d.advances other.length d.schema.size := by
          rw [agree.1, schema, advances]
        have there := advance_of_misfit hd width'
        rw [← message] at there
        exact ⟨_, _, _, advance_of_misfit hc width, there, schema, advances', rest, current⟩

/-- The cell of a column that has a target is the same. -/
theorem Alike.cell_eq [Host] (h : c.Alike table d) {f : Field} {i j : Nat}
    (target : table[i]? = some (some j)) : c.cell (.ofField f i) = d.cell (.ofField f i) := by
  obtain ⟨schema, -, -, current⟩ := h
  rw [cell, cell, schema]
  generalize c.current = here at current
  generalize d.current = there at current
  cases current with
  | none => rfl
  | some agree =>
      simp only [Column.index_ofField, Int.toNat_natCast, agree.2 i j target]
      rfl

end Cursor

/-- Copying looks at nothing of a cursor but the cell of the column. -/
theorem Writer.copy_congr [Host] {column : Column} (same : c.cell column = d.cell column)
    (index : Int) :
    w.copy c column index = w.copy d column index := by
  rw [copy, copy, Cursor.isNull, Cursor.isNull, Cursor.read, Cursor.read, same]

namespace Projector

variable {p q : Projector}

/-- Only the cells along the routes that lead somewhere are looked at. -/
theorem copyCells_congr [Host] {routes : List (Column × Option Nat)}
    (same : ∀ column j, (column, some j) ∈ routes → c.cell column = d.cell column) :
    copyCells c routes w = copyCells d routes w := by
  induction routes generalizing w with
  | nil => rfl
  | cons route routes ih =>
      have later : ∀ column j, (column, some j) ∈ routes → c.cell column = d.cell column := by
        intro column j member
        exact same column j (List.mem_cons_of_mem _ member)
      obtain ⟨column, target⟩ := route
      cases target with
      | none => exact ih later
      | some j =>
          rw [copyCells, copyCells, Writer.copy_congr (same column j List.mem_cons_self)]
          split
          · exact ih later
          · rfl

/-- The projectors differ in nothing but their cursors, which are alike along their table. -/
def Alike (table : LookupTable) (p q : Projector) : Prop :=
  p.lookup = table ∧ ∃ cursor, q = { p with cursor } ∧ p.cursor.Alike table cursor

/-- The same answer, and projectors that are alike. -/
def AnswerAlike (table : LookupTable) (left right : Except Error Unit × Projector) : Prop :=
  ∃ answered p q, left = (answered, p) ∧ right = (answered, q) ∧ p.Alike table q

theorem Alike.refl (p : Projector) : p.Alike p.lookup p :=
  ⟨rfl, p.cursor, rfl, .refl p.lookup p.cursor⟩

theorem mem_routes {column : Column} {target : Option Nat} (h : (column, target) ∈ p.routes) :
    ∃ (i : Nat) (f : Field), column = .ofField f i ∧ p.lookup[i]? = some target := by
  obtain ⟨i, hi⟩ := List.mem_iff_getElem?.mp h
  obtain ⟨hcolumn, htarget⟩ := List.getElem?_zip_eq_some.mp hi
  rw [Schema.getElem?_columns] at hcolumn
  obtain ⟨f, -, same⟩ := Option.map_eq_some_iff.mp hcolumn
  exact ⟨i, f, same.symm, htarget⟩

section

variable (h : p.Alike table q)
include h

theorem Alike.transferRecord [Host] : AnswerAlike table p.transferRecord q.transferRecord := by
  obtain ⟨rfl, cursor, rfl, alike⟩ := h
  have routes : Projector.routes { p with cursor } = p.routes := by
    rw [Projector.routes, Projector.routes, alike.schema]
  have same : ∀ column j, (column, some j) ∈ p.routes →
      p.cursor.cell column = cursor.cell column := by
    intro column j member
    obtain ⟨i, f, rfl, target⟩ := mem_routes member
    exact alike.cell_eq target
  have copied : copyCells cursor (Projector.routes { p with cursor }) p.writer =
      copyCells p.cursor p.routes p.writer := by
    rw [routes, copyCells_congr same]
  rw [Projector.transferRecord, Projector.transferRecord, copied]
  cases copyCells p.cursor p.routes p.writer with
  | mk answered writer =>
      cases answered with
      | error e => exact ⟨_, _, _, rfl, rfl, rfl, cursor, rfl, alike⟩
      | ok =>
          cases sealed : writer.sealRow with
          | mk answered writer =>
              simp only [sealed]
              cases answered <;> exact ⟨_, _, _, rfl, rfl, rfl, cursor, rfl, alike⟩

/-- Lists of equally many records are sent through alike, whatever they hold: the records that are
looked at are those that lie ahead of the cursors. -/
theorem Alike.transferAll [Host] (same : page.length = page'.length) :
    AnswerAlike table (transferAll page p) (transferAll page' q) := by
  induction page generalizing page' p q with
  | nil =>
      obtain rfl := List.length_eq_zero_iff.mp same.symm
      obtain ⟨rfl, cursor, rfl, alike⟩ := h
      obtain ⟨answered, c, d, left, right, moved⟩ := alike.advance
      rw [Projector.transferAll, Projector.transferAll, left, right]
      exact ⟨_, _, _, rfl, rfl, rfl, d, rfl, moved⟩
  | cons record page ih =>
      obtain ⟨other, page', rfl⟩ := List.exists_cons_of_length_eq_add_one same.symm
      obtain ⟨rfl, cursor, rfl, alike⟩ := h
      obtain ⟨answered, c, d, left, right, moved⟩ := alike.advance
      have moving : { p with cursor := c }.Alike p.lookup { p with cursor := d } :=
        ⟨rfl, d, rfl, moved⟩
      rw [Projector.transferAll, Projector.transferAll, left, right]
      rcases answered with e | _ | _
      · exact ⟨_, _, _, rfl, rfl, moving⟩
      · exact ⟨_, _, _, rfl, rfl, moving⟩
      · obtain ⟨answered, p', q', left, right, next⟩ := moving.transferRecord
        simp only [left, right]
        cases answered with
        | error e => exact ⟨_, _, _, rfl, rfl, next⟩
        | ok => exact ih next (Nat.succ.inj same)

/-- Pages that agree along the table are sent through alike. -/
theorem Alike.feed [Host] (pages : List.Forall₂ (Record.AgreeAlong table) page page') :
    AnswerAlike table (p.feed page) (q.feed page') := by
  obtain ⟨rfl, cursor, rfl, alike⟩ := h
  have bound : { p with cursor := p.cursor.bind page }.Alike p.lookup
      { p with cursor := cursor.bind page' } := ⟨rfl, cursor.bind page', rfl, alike.bind pages⟩
  obtain ⟨answered, p', q', left, right, lookup, d, rfl, alike⟩ :=
    bound.transferAll pages.length_eq
  rw [Projector.feed, Projector.feed]
  simp only [left, right]
  cases answered with
  | error e => exact ⟨_, _, _, rfl, rfl, lookup, d, rfl, alike⟩
  | ok => exact ⟨_, _, _, rfl, rfl, lookup, d, rfl, alike⟩

end

end Projector

namespace Transaction

open Projector (Alike)

variable {p q p' : Projector} {a b : Source} {pool pool' : BufferPool}

/-- Pages that agree along the table are fed alike: as many go through, with as many records. -/
theorem feedAll_alike [Host] {pages pages' : List Page} (h : p.Alike table q) (tally : Tally)
    (agree : List.Forall₂ (List.Forall₂ (Record.AgreeAlong table)) pages pages') :
    ∃ answered tally' p' q', feedAll pages tally p = (answered, tally', p') ∧
      feedAll pages' tally q = (answered, tally', q') ∧ p'.Alike table q' := by
  induction agree generalizing p q tally with
  | nil => exact ⟨.ok (), tally, p, q, rfl, rfl, h⟩
  | @cons page page' pages pages' first _ ih =>
      obtain ⟨answered, p', q', left, right, fed⟩ := h.feed first
      have counted : tally.pull.count page = tally.pull.count page' := by
        rw [Tally.count, Tally.count, first.length_eq]
      rw [feedAll, feedAll, left, right, ← counted]
      cases answered with
      | error e => exact ⟨.error e, tally.pull, p', q', rfl, rfl, fed⟩
      | ok => exact ih fed _

/-- Streams of sources that agree end alike. -/
theorem stream_alike [Host] (h : p.Alike table q) (failure : a.failure = b.failure)
    (agree : List.Forall₂ (List.Forall₂ (Record.AgreeAlong table)) a.pages b.pages) :
    ∃ answered tally p' q', stream a p = (answered, tally, p') ∧
      stream b q = (answered, tally, q') ∧ p'.Alike table q' := by
  obtain ⟨answered, tally, p', q', left, right, alike⟩ := feedAll_alike h .zero agree
  rw [stream, stream, left, right, ← failure]
  cases answered with
  | error e => exact ⟨.error e, tally, p', q', rfl, rfl, alike⟩
  | ok =>
      cases a.failure with
      | some broke => exact ⟨.error (.failure broke), tally, p', q', rfl, rfl, alike⟩
      | none =>
          obtain ⟨lookup, d, rfl, alike⟩ := alike
          exact ⟨p'.writer.finish.1, tally, p'.finish.2, _, rfl, rfl, lookup, d, rfl, alike⟩

/-- Nothing that is reported of a transaction tells its cursor's records. -/
theorem conduct_alike [Host] (h : p.Alike table q) (failure : a.failure = b.failure)
    (agree : List.Forall₂ (List.Forall₂ (Record.AgreeAlong table)) a.pages b.pages)
    (id : String) (output : Schema) (pool : BufferPool) :
    conduct id output a p pool = conduct id output b q pool := by
  obtain ⟨answered, tally, p', q', left, right, -, d, rfl, -⟩ := stream_alike h failure agree
  rw [conduct, conduct, left, right]
  simp only [Projector.close, Projector.finishEvent]
  cases p'.closed with
  | true => rfl
  | false => rfl

section

variable {filter : Filter} {config task : Document} {sink : Sink}
variable {accept : Option (Schema → Bool)} {id : String} {s : Selection}

/-- A transaction looks at its source only while it streams, behind an opening that succeeded. -/
theorem run_congr [Host] (same : ∀ task output p pool',
      ((filter.propose config input).settle filter.name accept).outcome = .ok (task, output) →
      filter.openStream pool task input output sink = .opened p pool' →
      conduct id output a p pool' = conduct id output b p pool') :
    run filter pool config input a sink accept id =
      run filter pool config input b sink accept id := by
  rw [run, run]
  cases settled : ((filter.propose config input).settle filter.name accept).outcome with
  | error e => rfl
  | ok answer =>
      obtain ⟨task, output⟩ := answer
      cases opened : filter.openStream pool task input output sink with
      | refused e sink pool => simp only [opened]
      | opened p pool' => simp only [opened, same task output p pool' settled opened]

/-- What agrees under the columns that the selection retains agrees along the table to the schema
that was settled on. -/
theorem along_of_settled (settled : ((Filter.removeColumns.propose config input).settle
      Filter.removeColumns.name accept).outcome = .ok (task, output))
    (parsed : Selection.ofDocument config = .ok s)
    (lookup : input.lookupTable output = .ok table) {x y : Record}
    (agree : input.Agree s.retains x y) : x.AgreeAlong table y := by
  refine Schema.Agree.along lookup ⟨agree.1, ?_⟩
  intro i f hf retained
  rw [has_of_settled settled parsed (List.mem_of_getElem? hf)] at retained
  exact agree.2 i f hf retained

/-- Transactions over sources that differ only under the columns that the configuration drops are
the same in everything that can be observed: outcome, calls of the sink, pool, pages taken, log. -/
theorem run_eq_of_agree [Host]
    (agree : ∀ s, Selection.ofDocument config = .ok s → Source.Agree input s.retains a b) :
    run .removeColumns pool config input a sink accept id =
      run .removeColumns pool config input b sink accept id := by
  refine run_congr ?_
  intro task output p pool' settled opened
  obtain ⟨s, _, parsed, -⟩ := Filter.settle_proposeSelection_eq_ok_iff.mp settled
  obtain ⟨p', opened', streams⟩ := opened_of_settled settled pool sink
  rw [opened] at opened'
  cases opened'
  obtain ⟨pages, failure⟩ := agree s parsed
  have along : ∀ x y : Record, input.Agree s.retains x y → x.AgreeAlong p.lookup y := by
    intro x y
    exact along_of_settled settled parsed streams.lookup
  exact conduct_alike (.refl p) failure (pages.imp fun _ _ => List.Forall₂.imp along) id output _

end

/-- The removed column may hold anything, values of a wrong type too: the stream stops at the same
faulty record with the same message. -/
theorem sample_run_eq :
    let source (x y z : Cell) : Source := ⟨[[[.long 1, x], [.long 2, y]], [[.string "4", z]]], none⟩
    let report (source : Source) := run .removeColumns Sample.pool Sample.config Sample.input source
      Sample.willing none "t"
    report (source (.string "a") .null (.long 7)) =
        report (source (.long 0) (.string "b") .null) ∧
      (report (source (.string "a") .null (.long 7))).outcome =
        .error (.violation (.wrongClass "id" .long (.string "4"))) := by
  intro source report
  have agree (first x y : Cell) :
      Sample.input.Agree Sample.selection.retains [first, x] [first, y] := by
    refine ⟨rfl, ?_⟩
    intro i f hf retained
    match i with
    | 0 => rfl
    | 1 =>
        cases hf
        cases retained
  refine ⟨run_eq_of_agree fun s parsed => ?_, rfl⟩
  rw [Sample.parsed] at parsed
  cases parsed
  exact ⟨.cons (.cons (agree ..) (.cons (agree ..) .nil)) (.cons (.cons (agree ..) .nil) .nil), rfl⟩

end Transaction

end TypedPages
