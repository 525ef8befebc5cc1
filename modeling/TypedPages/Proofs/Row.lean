import Mathlib.Data.List.Basic
import Mathlib.Data.List.Find
import TypedPages.Projector
import TypedPages.Proofs.Lookup
import TypedPages.Proofs.Reading
import TypedPages.Proofs.Record

/-!
# Filling a row

A record is copied cell by cell along its columns. If the lookup table belongs to the two
schemas, only the cells themselves can stop the copying: it ends at the first retained cell that
does not suit its column, and otherwise the row holds the cells of the record, rearranged.
-/

namespace TypedPages

open Projector (copyCells)

variable {cursor : Cursor} {w : Writer} {b : Buffer} {input output : Schema} {table : LookupTable}
variable {record : Record} {retains : String → Bool}

theorem Writer.column_of_field [Host] {f : Field} {j : Nat} (hopen : w.buffer = some b)
    (hf : w.schema.fields[j]? = some f) : w.column j = .ok (.ofField f j) := by
  have inside : ¬ ((j : Int) < 0 ∨ (w.schema.size : Int) ≤ j) := by
    have := Schema.lt_size hf
    omega
  simp only [Writer.column, Writer.isClosed, hopen, Option.isNone_some]
  rw [if_neg Bool.false_ne_true, if_neg inside, Schema.columnAt?_of_field hf]

/-- Between columns of one type a cell is copied exactly if it suits the column. -/
theorem Writer.copy_of_cell [Host] {column own : Column} {index : Int} {cell : Cell}
    (hcell : cursor.cell column = .ok cell) (hown : w.column index = .ok own)
    (same : own.type = column.type) :
    w.copy cursor column index =
      if cell.suits column.type then (.ok (), w.place index cell)
      else (.error (Violation.wrongClass column.name column.type cell).raised, w) := by
  have null : cursor.isNull column = .ok cell.isNull := by
    rw [Cursor.isNull, hcell]
    rfl
  rw [Writer.copy, null]
  by_cases isNull : cell.isNull = true
  · obtain rfl : cell = .null := by
      cases cell <;> simp_all [Cell.isNull]
    simp [Writer.writeNull, hown, Cell.suits, Cell.isNull]
  · rw [Bool.not_eq_true] at isNull
    have read := Cursor.read_of_cell hcell isNull
    have check (fits : cell.fits column.type = true) :
        w.checkWrite column.type index cell = .ok () := by
      simp [Writer.checkWrite, hown, same, Cursor.checkValue, isNull, fits, bind, Except.bind]
    by_cases fits : cell.fits column.type = true
    · simp [isNull, read, fits, Cell.suits, Writer.write, check fits]
    · simp [isNull, read, fits, Cell.suits]

namespace Projector

/-- A cell on its way: its column, the place it goes to if it has one, and the cell itself. -/
abbrev Transit := (Column × Option Nat) × Cell

/-- The cursor holds the cell, and its place in the row is of the column's type. -/
def Transit.Ready [Host] (cursor : Cursor) (w : Writer) (t : Transit) : Prop :=
  cursor.cell t.1.1 = .ok t.2 ∧
    ∀ target, t.1.2 = some target → ∃ own, w.column target = .ok own ∧ own.type = t.1.1.type

/-- Whether the cell has a place that it does not suit. -/
def Transit.misfits (t : Transit) : Bool :=
  t.1.2.isSome && !t.2.suits t.1.1.type

/-- Cells are copied up to the first misfit. -/
theorem copyCells_of_ready [Host] {transits : List Transit}
    (ready : ∀ t ∈ transits, t.Ready cursor w) :
    match transits.find? Transit.misfits with
    | none => copyCells cursor (transits.map (·.1)) w =
        (.ok (), { w with row := Record.fill (transits.map fun t => (t.1.2, t.2)) w.row })
    | some t => ∃ row, copyCells cursor (transits.map (·.1)) w =
        (.error (Violation.wrongClass t.1.1.name t.1.1.type t.2).raised, { w with row }) := by
  induction transits generalizing w with
  | nil => rfl
  | cons t transits ih =>
      obtain ⟨⟨column, target⟩, cell⟩ := t
      obtain ⟨⟨hcell, hown⟩, later⟩ := List.forall_mem_cons.mp ready
      cases target with
      | none => exact ih later
      | some target =>
          obtain ⟨own, hcolumn, same⟩ := hown target rfl
          have step := Writer.copy_of_cell hcell hcolumn same
          by_cases suits : cell.suits column.type = true
          · rw [if_pos suits] at step
            rw [List.find?_cons_of_neg (by simp [Transit.misfits, suits])]
            -- The row alone has changed, so the other cells are still ready.
            have next := ih (w := w.place target cell) later
            split <;> rename_i found <;> rw [found] at next <;>
              simp only [List.map_cons, copyCells, step]
            · exact next
            · exact next
          · rw [if_neg suits] at step
            rw [List.find?_cons_of_pos (by simp [Transit.misfits, suits])]
            exact ⟨w.row, by simp only [List.map_cons, copyCells, step]⟩

/-- The cells of a record on their way along a lookup table. -/
def transits (input : Schema) (table : LookupTable) (record : Record) : List Transit :=
  (input.columns.zip table).zip record

theorem mem_transits {t : Transit} (h : t ∈ transits input table record) :
    ∃ (i : Nat) (f : Field), input.fields[i]? = some f ∧ t.1.1 = .ofField f i ∧
      table[i]? = some t.1.2 ∧ record[i]? = some t.2 := by
  obtain ⟨i, hi⟩ := List.mem_iff_getElem?.mp h
  obtain ⟨hroute, hcell⟩ := List.getElem?_zip_eq_some.mp hi
  obtain ⟨hcolumn, htarget⟩ := List.getElem?_zip_eq_some.mp hroute
  rw [Schema.getElem?_columns] at hcolumn
  obtain ⟨f, hf, same⟩ := Option.map_eq_some_iff.mp hcolumn
  exact ⟨i, f, hf, same.symm, htarget, hcell⟩

/-- What is known of routes is known of the cells that travel along them. -/
theorem map_transits {α : Type} (route : Column × Option Nat → α) :
    ((transits input table record).map fun t => (route t.1, t.2)) =
      ((input.columns.zip table).map route).zip record :=
  List.zip_map_left.symm

theorem map_fst_transits (table : LookupTable) (width : record.length = input.size) :
    (transits input table record).map (·.1) = input.columns.zip table :=
  List.map_fst_zip (by simp [width])

section

variable (lookup : input.lookupTable output = .ok table)
include lookup

theorem map_target_transits :
    ((transits input table record).map fun t => (t.1.2, t.2)) = table.zip record := by
  rw [map_transits (·.2), List.map_snd_zip]
  simp [Schema.length_lookupTable lookup]

theorem map_field_transits :
    ((transits input table record).map fun t => (t.1.1.field, t.2)) = input.fields.zip record := by
  have routes : (input.columns.zip table).map (·.1) = input.columns :=
    List.map_fst_zip (by simp [Schema.length_lookupTable lookup])
  have fields := congrArg (List.map Column.field) routes
  rw [List.map_map, Schema.map_field_columns] at fields
  rw [map_transits (·.1.field)]
  exact congrArg (·.zip record) fields

/-- A cell misfits if it is retained and does not suit its field. -/
theorem misfits_of_mem_transits {t : Transit} (h : t ∈ transits input table record) :
    t.misfits = (output.has t.1.1.name && !t.2.suits t.1.1.type) := by
  obtain ⟨i, f, hf, same, htarget, -⟩ := mem_transits h
  have kept : t.1.2.isSome = output.has t.1.1.name := by
    rw [same, Column.name_ofField]
    cases target : t.1.2 with
    | none =>
        rw [target] at htarget
        exact ((Schema.lookupTable_dropped_iff lookup hf).mp htarget).symm
    | some j =>
        rw [target] at htarget
        obtain ⟨g, hg, hout⟩ := (Schema.lookupTable_target_iff lookup).mp htarget
        rw [hf] at hg
        cases hg
        exact (Schema.has_iff.mpr (Schema.mem_names_iff.mpr ⟨j, f, hout, rfl⟩)).symm
  rw [Transit.misfits, kept]

theorem fault?_eq_find?_misfits (width : record.length = input.size) (position : Nat) :
    input.fault? output.has position record =
      ((transits input table record).find? Transit.misfits).map
        fun t => .wrongClass t.1.1.name t.1.1.type t.2 := by
  rw [Schema.fault?, if_pos width, ← map_field_transits lookup, List.find?_map, Option.map_map,
    List.find?_congr fun t h => misfits_of_mem_transits lookup h]
  rfl

end

/-- All cells of a cursor's record are ready to be copied along the table of two schemas. -/
theorem ready_of_mem_transits [Host] (lookup : input.lookupTable w.schema = .ok table)
    (bound : cursor.schema = input) (current : cursor.current = some record)
    (hopen : w.buffer = some b) {t : Transit} (h : t ∈ transits input table record) :
    t.Ready cursor w := by
  obtain ⟨i, f, hf, same, htarget, hcell⟩ := mem_transits h
  rw [← bound] at hf
  refine ⟨by rw [same]; exact Cursor.cell_of_field current hf hcell, fun j target => ?_⟩
  rw [target] at htarget
  obtain ⟨g, hg, hout⟩ := (Schema.lookupTable_target_iff lookup).mp htarget
  rw [bound] at hf
  rw [hf] at hg
  cases hg
  exact ⟨_, Writer.column_of_field hopen hout, by rw [same]; rfl⟩

section

variable (lookup : input.lookupTable w.schema = .ok table) (bound : cursor.schema = input)
variable (current : cursor.current = some record) (hopen : w.buffer = some b)
include lookup bound current hopen

/-- A record that can go through is copied as a whole. -/
theorem copyCells_of_admits [Host] (admitted : input.Admits w.schema.has record) :
    copyCells cursor (input.columns.zip table) w =
      (.ok (), { w with row := Record.fill (table.zip record) w.row }) := by
  have copied := copyCells_of_ready fun t =>
    ready_of_mem_transits (t := t) lookup bound current hopen
  have clean := (Schema.fault?_eq_none_iff 0).mpr admitted
  rw [fault?_eq_find?_misfits lookup admitted.1, Option.map_eq_none_iff] at clean
  rw [clean] at copied
  rwa [map_fst_transits table admitted.1, map_target_transits lookup] at copied

/-- A record of the right width that cannot go through is copied up to its fault. -/
theorem copyCells_of_fault [Host] (width : record.length = input.size) {position : Nat}
    {v : Violation} (fault : input.fault? w.schema.has position record = some v) :
    ∃ row, copyCells cursor (input.columns.zip table) w =
      (.error v.raised, { w with row }) := by
  have copied := copyCells_of_ready fun t =>
    ready_of_mem_transits (t := t) lookup bound current hopen
  rw [fault?_eq_find?_misfits lookup width, Option.map_eq_some_iff] at fault
  obtain ⟨t, found, rfl⟩ := fault
  rw [found] at copied
  rwa [map_fst_transits table width] at copied

end

end Projector

section

variable (lookup : input.lookupTable output = .ok table) (width : record.length = input.size)
include lookup width

/-- Where the table leads, the rearranged record has the cell of the column. -/
theorem Schema.getElem?_rearrange {i j : Nat} (target : table[i]? = some (some j)) :
    (input.rearrange output record)[j]? = record[i]? := by
  obtain ⟨f, origin, place⟩ := (lookupTable_target_iff lookup).mp target
  have found : input.fields.idxOf f = i := by
    have searched : input.fields[input.fields.idxOf f]? = some f :=
      List.getElem?_idxOf (List.mem_of_getElem? origin)
    exact position_unique searched origin rfl
  have inside : i < record.length := by
    rw [width]
    exact lt_size origin
  rw [rearrange, List.getElem?_map, place, Option.map_some, found, List.getElem?_eq_getElem inside,
    Option.getD_some]

/-- A row that was filled along the table holds the record, rearranged. Every place is a target, so
nothing is left of what the row held before. -/
theorem Record.fill_eq_rearrange {row : Record} (size : row.length = output.size) :
    Record.fill (table.zip record) row = input.rearrange output record := by
  refine List.ext_getElem? fun j => ?_
  cases hf : output.fields[j]? with
  | none =>
      have beyond : output.size ≤ j := List.getElem?_eq_none_iff.mp hf
      rw [List.getElem?_eq_none (by rwa [length_fill, size]),
        List.getElem?_eq_none (by rwa [Schema.rearrange, List.length_map])]
  | some f =>
      obtain ⟨i, origin, target⟩ := Schema.exists_target lookup hf
      have inside : i < record.length := by
        rw [width]
        exact Schema.lt_size origin
      have cell := List.getElem?_eq_getElem inside
      rw [Schema.getElem?_rearrange lookup width target, cell]
      refine getElem?_fill_of_target (by rw [size]; exact Schema.lt_size hf)
        (List.getElem?_zip_eq_some.mpr ⟨target, cell⟩) fun k other hk => ?_
      obtain ⟨g, hg, hout⟩ :=
        (Schema.lookupTable_target_iff lookup).mp (List.getElem?_zip_eq_some.mp hk).1
      rw [hf] at hout
      cases hout
      exact Schema.position_unique hg origin rfl

end

end TypedPages
