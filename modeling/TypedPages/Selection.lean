import TypedPages.Checked
import TypedPages.Error

/-!
# Selections

A selection names columns to remove or columns to keep. Reading one from a document checks the
shape alone; that exactly one of the two lists is there is checked when it is resolved against a
schema.
-/

namespace TypedPages

/-- The columns to remove and the columns to keep, as far as they are given, and whether names
that no column has are passed over. -/
structure Selection where
  remove : Option (List String)
  keep : Option (List String)
  acceptUnmatched : Bool
  deriving DecidableEq, Repr, Inhabited

/-- How the names of a selection are meant. -/
inductive Choice where
  | remove
  | keep
  deriving DecidableEq, Repr, Inhabited

namespace Choice

/-- The written form of a choice. -/
def name : Choice → String
  | remove => "remove"
  | keep => "keep"

end Choice

namespace Selection

/-- The fields that a selection document can have. -/
def fieldNames : List String := ["remove", "keep", "accept_unmatched_columns"]

/-- Reads the entries of a selection document. -/
def ofEntries (entries : Entries) : Checked Selection :=
  let remove := Checked.optional "remove" none Document.readOptionalTexts entries
  let keep := Checked.optional "keep" none Document.readOptionalTexts entries
  let accept := Checked.optional "accept_unmatched_columns" false Document.readFlag entries
  let unknown := Checked.unknownFields fieldNames entries
  match remove, keep, accept, unknown with
  | .ok remove, .ok keep, .ok acceptUnmatched, [] => .ok { remove, keep, acceptUnmatched }
  | _, _, _, _ => .error (remove.issues ++ keep.issues ++ accept.issues ++ unknown)

/-- Reads a selection document. -/
def ofDocument : Document → Except OptionsError Selection
  | .mapping entries => (ofEntries entries).mapError (.invalid entries)
  | d => .error (.notMapping d.className)

/-- A list of names as a document; null if there is none. -/
def listDocument : Option (List String) → Document
  | some names => .ofTexts names
  | none => .null

/-- The document that is handed from the negotiation to the stream. -/
def toDocument (s : Selection) : Document :=
  .mapping [("remove", listDocument s.remove), ("keep", listDocument s.keep),
    ("accept_unmatched_columns", .flag s.acceptUnmatched)]

/-- The list that is given, and how it is meant. -/
def names (s : Selection) : Except SelectionError (Choice × List String) :=
  match s.remove, s.keep with
  | some _, some _ => .error .bothLists
  | some names, none => .ok (.remove, names)
  | none, some names => .ok (.keep, names)
  | none, none => .error .noList

end Selection

end TypedPages
