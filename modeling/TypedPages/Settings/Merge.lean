import TypedPages.Document
import TypedPages.Text.Blank
import TypedPages.Text.Case

/-!
# Merging settings

How a setting that is given again meets the one given before: mappings are merged entry by entry,
a list is appended to a list, and everything else is replaced. Entries keep their places, and new
ones come last.
-/

namespace TypedPages

namespace Entries

/-- The key of a mapping that a given key means: itself, or else the first that differs from it in
letter case alone, where a blank in the mapping's key answers to an underscore. -/
def matchingKey (entries : Entries) (key : String) : String :=
  if (entries.lookup key).isSome then key
  else
    let lowered := Text.lower key
    let spaced := fun (k : String) =>
      String.ofList (k.toList.map fun c => if c = ' ' then '_' else c)
    let answers := fun (k : String) => Text.lower k == lowered || Text.lower (spaced k) == lowered
    match entries.find? fun e => answers e.1 with
    | some (k, _) => k
    | none => key

end Entries

namespace Document

mutual

/-- A document in the place of another. A value that agrees with the old one replaces it. -/
def mergedInto (new : Document) : Document → Document
  | list before =>
    match new with
    | list after => if (list before).agrees new then new else list (before ++ after)
    | _ => new
  | mapping before =>
    match new with
    | mapping after =>
      if (mapping before).agrees new then new
      else
        let after := Entries.mapKeys (Entries.matchingKey before) after
        let added := after.filter fun entry => (before.lookup entry.1).isNone
        mapping (mergedEntries after before ++ added)
    | _ => new
  | _ => new

def mergedEntries (after : List (String × Document)) :
    List (String × Document) → List (String × Document)
  | [] => []
  | (key, old) :: before =>
    (match after.lookup key with
      | some new => (key, mergedInto new old)
      | none => (key, old)) :: mergedEntries after before

end

/-- A document under a path of keys. -/
def nested (value : Document) : List String → Document
  | [] => value
  | key :: path => .mapping [(key, nested value path)]

end Document

namespace Entries

/-- Pairs of underscores, read from the left, as dots. -/
def dotted : List Char → List Char
  | '_' :: '_' :: cs => '.' :: dotted cs
  | c :: cs => c :: dotted cs
  | [] => []

/-- Sets a setting, whose key is kept in upper case, merging it into an old one if asked to. -/
def setKey (merging : Bool) (key : String) (value : Document) (settings : Entries) : Entries :=
  let key := Text.upper (Text.trim key)
  match settings.lookup key with
  | some old => settings.insert key (if merging then value.mergedInto old else value)
  | none => settings.insert key value

/-- Sets what a key means. A key can be a path of keys with dots or pairs of underscores between
them, unless paths are not to be followed; what is set at a path is always merged. -/
def set (merging paths : Bool) (key : String) (value : Document) (settings : Entries) : Entries :=
  let key := dotted key.toList
  match key.splitOn '.' with
  | first :: second :: rest =>
    if paths then
      settings.setKey true (.ofList first) (value.nested ((second :: rest).map String.ofList))
    else settings.setKey merging (.ofList key) value
  | _ => settings.setKey merging (.ofList key) value

end Entries

end TypedPages
