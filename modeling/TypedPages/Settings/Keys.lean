import TypedPages.Document
import TypedPages.Text.Case

/-!
# Keys of settings

The keys of settings sections may be written in any letter case. They are lowered at four levels:
the top, the logging section, the filter section and the filter's options. Values, and the keys
of any other mapping, are left alone.
-/

namespace TypedPages

namespace Entries

/-- Changes the entries of one section; a section that is missing or no mapping stays as it is. -/
def updateSection (name : String) (change : Entries → Entries) (entries : Entries) : Entries :=
  match entries.lookup name with
  | some (.mapping inner) => entries.insert name (.mapping (change inner))
  | _ => entries

/-- Renames the keys of the filter section and of its options. -/
def renameFilterKeys (rename : String → String) (filter : Entries) : Entries :=
  (filter.mapKeys rename).updateSection "options" (mapKeys rename)

/-- Renames the keys of the top and of the sections; the last of several keys that come to be the
same gives the value. -/
def renameKeys (rename : String → String) (entries : Entries) : Entries :=
  ((entries.mapKeys rename).updateSection "logging" (mapKeys rename)).updateSection "filter"
    (renameFilterKeys rename)

/-- Lowers the keys of the top and of the sections. -/
def normalize (entries : Entries) : Entries :=
  entries.renameKeys Text.lower

end Entries

end TypedPages
