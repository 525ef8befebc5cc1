import TypedPages.FilePath

/-!
# The world

What a program sees of the world: what there is at a path, and the variables of its environment.
-/

namespace TypedPages

/-- What there is at a path. -/
inductive Place where
  | nothing
  | folder
  | file (text : String)
  deriving DecidableEq, Repr, Inhabited

/-- The places that paths lead to, and the names and values of variables. -/
structure World where
  look : String → Place
  environment : List (String × String)

namespace World

/-- The home folder, unless a variable tells another one. -/
def commonHome : String := "/root"

/-- The home folder. -/
def home (w : World) : String :=
  (w.environment.lookup "HOME").getD commonHome

/-- Follows the names of a path from a folder that lies `above` levels over the working folder, or
below it in the folder `inside`, whose names stand backwards. Files are given by their names. Of
the folders above nothing is known but that they are there. -/
def follow (files : List (List String × String)) (above : Nat) (inside : List String) :
    List String → Place
  | [] => .folder
  | ".." :: parts =>
    match inside with
    | _ :: inside => follow files above inside parts
    | [] => follow files (above + 1) [] parts
  | name :: parts =>
    let inside := name :: inside
    let path := inside.reverse
    if above ≠ 0 then .nothing
    else match files.lookup path with
      | some text => if parts.isEmpty then .file text else .nothing
      | none =>
        if files.any fun file => path.isPrefixOf file.1 then follow files above inside parts
        else .nothing

/-- A world in which the working folder holds the given files and nothing else. -/
def ofFiles (files : List (String × String)) (environment : List (String × String)) : World where
  look := fun path =>
    let parts := FilePath.parts path
    if FilePath.isAbsolute path then
      let home := (environment.lookup "HOME").getD commonHome
      if parts.all (· == "..") ∨ parts = FilePath.parts home then .folder else .nothing
    else follow (files.map fun (path, text) => (FilePath.parts path, text)) 0 [] parts
  environment := environment

end World

end TypedPages
