import TypedPages.Cell
import TypedPages.Failure
import TypedPages.Schema.Column
import TypedPages.Wording

/-!
# Errors

Every reason for which a call of this library can fail, by cause. Three families matter to a
caller: the configuration is wrong, a contract between the parts is broken, or the source or the
sink of the stream failed.
-/

namespace TypedPages

/-- A broken contract between components: a mistake in the calling program, never in its input. -/
inductive Violation where
  | nullCell (column : String)
  | wrongClass (column : String) (type : ColumnType) (cell : Cell)
  | deadBuffer
  | wrongWidth (position cells columns : Nat)
  | noRecord
  | foreignColumn (column : Column)
  | readAs (column : String) (actual asked : ColumnType)
  | writeAs (column : String) (actual asked : ColumnType)
  | outsideRow (index : Int) (columns : Nat)
  | closedWriter
  | strangerColumn (column : String)
  | retypedColumn (column : String) (output input : ColumnType)
  | secondProposal
  | noProposal (filter : String)
  deriving Inhabited

/-- Why a selection of columns cannot be resolved against a schema. -/
inductive SelectionError where
  | bothLists
  | noList
  | unmatched (name : String)
  deriving DecidableEq, Repr, Inhabited

/-- Why a document is no selection: it is no mapping, or its entries have issues. -/
inductive OptionsError where
  | notMapping (className : String)
  | invalid (entries : Entries) (issues : List Issue)
  deriving Inhabited

/-- Why a call failed. -/
inductive Error where
  | schema (cause : SchemaError)
  | selection (cause : SelectionError)
  | options (cause : OptionsError)
  | violation (cause : Violation)
  | rejected (filter : String) (output : List String)
  | beyondColumns (position : Int)
  | pageSize (size : Int)
  | unwritable (cause : Unwritable)
  | failure (cause : Failure)
  deriving Inhabited

/-- The wording of a broken contract. -/
def Violation.message : Violation → String
  | nullCell column =>
    s!"Null value passed to typed accessor for column '{column}'; use set_null()/is_null()"
  | wrongClass column type cell =>
    s!"Column '{column}' ({type.name}) holds a value of type {cell.className}: {cell.literal}"
  | deadBuffer => "Buffer released twice or not allocated by this allocator"
  | wrongWidth position cells columns =>
    s!"Record {position} has {cells} cells but the reader schema has {columns} columns"
  | noRecord => "No current record: call next_record() first"
  | foreignColumn column => s!"Column {column.literal} is not part of the reader schema"
  | readAs column actual asked => s!"Column '{column}' is {actual.name}, not {asked.name}"
  | writeAs column actual asked => s!"Output column '{column}' is {actual.name}, not {asked.name}"
  | outsideRow index columns =>
    s!"Output index {index} is out of range for a schema of {columns} columns"
  | closedWriter => "PageBuilder is closed"
  | strangerColumn column => s!"Output column '{column}' does not exist in the input schema"
  | retypedColumn column output input =>
    s!"Output column '{column}' is {output.name} but input column is {input.name}"
  | secondProposal => "Filter called control() more than once in a transaction"
  | noProposal filter => s!"Filter '{filter}' returned from transaction() without calling control()"

/-- The wording of a selection error. -/
def SelectionError.message : SelectionError → String
  | bothLists => "remove: and keep: must not be multi-select"
  | noList => "Must require remove: or keep:"
  | unmatched name => s!"Column '{name}' doesn't exist in the schema"

/-- The wording of an error in a document that is no selection, with the whole report on it. -/
def OptionsError.message [Wording] : OptionsError → String
  | notMapping className =>
    s!"Invalid configuration for RemoveColumnsConfig: config must be a dict, got {className}."
  | invalid entries issues =>
    "Invalid configuration for RemoveColumnsConfig: " ++
      Wording.report "RemoveColumnsConfig" entries issues

/-- The wording of an error. -/
def Error.message [Wording] : Error → String
  | schema cause => cause.message
  | selection cause => cause.message
  | options cause => cause.message
  | violation cause => cause.message
  | rejected filter output =>
    s!"Output schema of filter '{filter}' was rejected: {Text.quotedList output}"
  | beyondColumns position =>
    if -(Nat.pow 2 63 : Int) ≤ position ∧ position < Nat.pow 2 63 then "tuple index out of range"
    else "cannot fit 'int' into an index-sized integer"
  | pageSize size => s!"page_size must be >= 1, got {size}"
  | unwritable cause => cause.message
  | failure cause => cause.text

section

variable [Host]

/-- What keeps the message of an error from being written. Only values that come from outside can do
so: cells, and the positions and sizes that callers ask for. -/
def Error.obstacle? : Error → Option Unwritable
  | violation (.wrongClass _ _ cell) => cell.obstacle?
  | violation (.foreignColumn column) => Host.obstacle? column.index
  | violation (.outsideRow index _) => Host.obstacle? index
  | schema (.misplaced _ index _) => Host.obstacle? index
  | pageSize size => Host.obstacle? size
  | _ => none

/-- The error that is raised for a cause. Its message is written first, and where this cannot be
done the call fails for that reason instead. -/
def Error.raised (e : Error) : Error :=
  match e.obstacle? with
  | some cause => .unwritable cause
  | none => e

/-- The error that is raised for a broken contract. -/
abbrev Violation.raised (v : Violation) : Error :=
  (Error.violation v).raised

theorem Violation.raised_cases (v : Violation) :
    v.raised = .violation v ∨ ∃ cause, v.raised = .unwritable cause := by
  unfold raised Error.raised
  split
  · exact .inr ⟨_, rfl⟩
  · exact .inl rfl

@[simp] theorem Violation.raised_wrongWidth (position cells columns : Nat) :
    (wrongWidth position cells columns).raised = .violation (.wrongWidth position cells columns) :=
  rfl

theorem Error.raised_of_obstacle {e : Error} {cause : Unwritable} (h : e.obstacle? = some cause) :
    e.raised = .unwritable cause := by
  rw [raised, h]

theorem Error.raised_of_writable {e : Error} (h : e.obstacle? = none) : e.raised = e := by
  rw [raised, h]

theorem Error.raised_eq_schema_iff {cause cause' : SchemaError} :
    (schema cause).raised = schema cause' ↔
      cause' = cause ∧ (schema cause).obstacle? = none := by
  rw [raised]
  cases (schema cause).obstacle? <;> simp [eq_comm]

theorem Error.raised_eq_violation_iff {cause cause' : Violation} :
    (violation cause).raised = violation cause' ↔
      cause' = cause ∧ (violation cause).obstacle? = none := by
  rw [raised]
  cases (violation cause).obstacle? <;> simp [eq_comm]

end

/-- Whether the user's configuration is to blame. -/
def Error.isConfiguration : Error → Bool
  | schema _ => true
  | selection _ => true
  | options _ => true
  | _ => false

end TypedPages
