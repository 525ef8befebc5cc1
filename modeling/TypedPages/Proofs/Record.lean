import Mathlib.Data.List.Find
import Mathlib.Data.List.Nodup
import TypedPages.Error
import TypedPages.Schema

/-!
# Records under a selection of columns

What becomes of a record when only some columns are retained, and what can be wrong with it.
Cells of dropped columns matter for neither. These are the rules that a stream of pages is
measured against; nothing here refers to cursors or writers.
-/

namespace TypedPages

namespace Cell

/-- Whether the cell may stand in a column of the type. Null may stand in every column. -/
def suits (type : ColumnType) (cell : Cell) : Bool :=
  cell.isNull || cell.fits type

end Cell

namespace Record

/-- Puts cells into a row, each at its target; cells without one are left out. -/
def fill : List (Option Nat × Cell) → Record → Record
  | [], row => row
  | (none, _) :: cells, row => fill cells row
  | (some target, cell) :: cells, row => fill cells (row.set target cell)

@[simp] theorem length_fill (cells : List (Option Nat × Cell)) (row : Record) :
    (fill cells row).length = row.length := by
  fun_induction fill <;> simp_all

/-- A place that is no target keeps its cell. -/
theorem getElem?_fill_of_untargeted {cells : List (Option Nat × Cell)} {row : Record} {j : Nat}
    (h : ∀ entry ∈ cells, entry.1 ≠ some j) : (fill cells row)[j]? = row[j]? := by
  fun_induction fill with
  | case1 => rfl
  | case2 cell cells row ih => exact ih fun entry member => h entry (List.mem_cons_of_mem _ member)
  | case3 target cell cells row ih =>
      have other : target ≠ j := fun same => h _ List.mem_cons_self (congrArg some same)
      rw [ih fun entry member => h entry (List.mem_cons_of_mem _ member),
        List.getElem?_set_ne other]

/-- A place that is the target of one cell alone holds that cell. -/
theorem getElem?_fill_of_target {cells : List (Option Nat × Cell)} {row : Record} {i j : Nat}
    {cell : Cell} (bound : j < row.length) (h : cells[i]? = some (some j, cell))
    (unique : ∀ k other, cells[k]? = some (some j, other) → k = i) :
    (fill cells row)[j]? = some cell := by
  induction cells generalizing row i with
  | nil => cases h
  | cons head cells ih =>
      cases i with
      | zero =>
          obtain rfl : head = (some j, cell) := by simpa using h
          rw [fill, getElem?_fill_of_untargeted, List.getElem?_set_self bound]
          rintro ⟨target, other⟩ member rfl
          obtain ⟨k, hk⟩ := List.mem_iff_getElem?.mp member
          exact absurd (unique (k + 1) other hk) (Nat.succ_ne_zero k)
      | succ i =>
          have later (k : Nat) (other : Cell) (hk : cells[k]? = some (some j, other)) : k = i :=
            Nat.succ.inj (unique (k + 1) other hk)
          obtain ⟨target, first⟩ := head
          cases target with
          | none => exact ih bound h later
          | some target => exact ih (by simpa using bound) h later

end Record

namespace Schema

variable {input output : Schema} {retains : String → Bool} {position : Nat} {record : Record}

/-- The retained cells of a record, in the order of the columns. -/
def project (input : Schema) (retains : String → Bool) (record : Record) : Record :=
  ((input.fields.zip record).filter fun (f, _) => retains f.name).map (·.2)

/-- The cells of a record in the order of another schema: under each field the cell that the
record has under this field. -/
def rearrange (input output : Schema) (record : Record) : Record :=
  output.fields.map fun f => (record[input.fields.idxOf f]?).getD .null

/-- A record that can go through: it has one cell per column, and all retained ones suit their
columns. -/
def Admits (input : Schema) (retains : String → Bool) (record : Record) : Prop :=
  record.length = input.size ∧
    ∀ entry ∈ input.fields.zip record, retains entry.1.name = true → entry.2.suits entry.1.type

instance : Decidable (input.Admits retains record) :=
  inferInstanceAs (Decidable (_ ∧ _))

/-- What is wrong with a record that stands at a position of its page: the number of its cells,
or else the first retained cell that does not suit its column. -/
def fault? (input : Schema) (retains : String → Bool) (position : Nat) (record : Record) :
    Option Violation :=
  if record.length = input.size then
    ((input.fields.zip record).find? fun (f, cell) => retains f.name && !cell.suits f.type).map
      fun (f, cell) => .wrongClass f.name f.type cell
  else some (.wrongWidth position record.length input.size)

theorem fault?_eq_none_iff (position : Nat) :
    input.fault? retains position record = none ↔ input.Admits retains record := by
  rw [fault?, Admits]
  split <;> simp_all

theorem exists_fault?_of_not_admits (h : ¬ input.Admits retains record) (position : Nat) :
    ∃ v, input.fault? retains position record = some v := by
  rw [← fault?_eq_none_iff position] at h
  exact Option.ne_none_iff_exists'.mp h

section

variable {keeps : String → Bool} (agree : ∀ f ∈ input.fields, retains f.name = keeps f.name)
include agree

theorem retains_of_mem_zip {entry : Field × Cell} (h : entry ∈ input.fields.zip record) :
    retains entry.1.name = keeps entry.1.name :=
  agree entry.1 (List.of_mem_zip h).1

/-- Only the names that the schema has matter for what can go through. -/
theorem admits_congr : input.Admits retains record ↔ input.Admits keeps record := by
  refine and_congr_right fun _ => forall₂_congr fun _ entry => ?_
  rw [retains_of_mem_zip agree entry]

theorem fault?_congr :
    input.fault? retains position record = input.fault? keeps position record := by
  have search : ((input.fields.zip record).find? fun (f, cell) =>
        retains f.name && !cell.suits f.type) =
      (input.fields.zip record).find? fun (f, cell) => keeps f.name && !cell.suits f.type :=
    List.find?_congr fun (f, cell) member =>
      congrArg (· && !cell.suits f.type) (retains_of_mem_zip agree member)
  rw [fault?, fault?, search]

end

/-- Under an output that keeps the order of the input nothing is rearranged. -/
theorem rearrange_eq_project (h : output.fields = input.fields.filter (retains ·.name))
    (width : record.length = input.size) :
    input.rearrange output record = input.project retains record := by
  have distinct : input.fields.Nodup := input.nodup.of_map Field.name
  rw [rearrange, project, h]
  rw [size] at width
  generalize input.fields = fields at distinct width
  induction fields generalizing record with
  | nil => rfl
  | cons f fields ih =>
      obtain ⟨cell, cells, rfl⟩ := List.exists_cons_of_length_eq_add_one width
      obtain ⟨fresh, distinct⟩ := List.nodup_cons.mp distinct
      have tail : ((fields.filter (retains ·.name)).map fun g =>
          ((cell :: cells)[(f :: fields).idxOf g]?).getD .null) =
          ((fields.zip cells).filter fun (f, _) => retains f.name).map (·.2) := by
        rw [← ih distinct (by simpa using width)]
        refine List.map_congr_left fun g hg => ?_
        have other : f ≠ g := by
          rintro rfl
          exact fresh (List.mem_filter.mp hg).1
        rw [List.idxOf_cons, beq_eq_false_iff_ne.mpr other, cond_false, List.getElem?_cons_succ]
      simp only [List.zip_cons_cons, List.filter_cons]
      split
      · rw [List.map_cons, List.map_cons, tail, List.idxOf_cons_self]
        rfl
      · exact tail

/-- Under such an output all records that can go through are projected. -/
theorem map_rearrange_eq_project {records : List Record}
    (fields : output.fields = input.fields.filter (retains ·.name))
    (clean : ∀ record ∈ records, input.Admits retains record) :
    records.map (input.rearrange output) = records.map (input.project retains) :=
  List.map_congr_left fun record member => rearrange_eq_project fields (clean record member).1

end Schema

end TypedPages
