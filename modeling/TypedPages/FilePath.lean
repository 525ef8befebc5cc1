/-!
# Paths of settings files

A path is written without what makes no difference to it: repeated slashes and single dots. A path
that begins with a tilde begins at home.
-/

namespace TypedPages

namespace FilePath

/-- The names in a path, without empty ones and single dots. -/
def parts (path : String) : List String :=
  ((path.toList.splitOn '/').filter fun part => !part.isEmpty && part != ['.']).map String.ofList

/-- Whether a path begins at the root. -/
def isAbsolute (path : String) : Bool :=
  path.startsWith "/"

/-- The written form of a path. -/
def normal (path : String) : String :=
  let joined := "/".intercalate (parts path)
  let slashes := (path.toList.takeWhile (· == '/')).length
  if slashes = 0 then (if joined.isEmpty then "." else joined)
  else if slashes = 2 then "//" ++ joined
  else "/" ++ joined

/-- A path with the home folder in the place of a tilde. The homes of others are not known. -/
def expanded? (home path : String) : Option String :=
  match isAbsolute path, parts path with
  | false, "~" :: rest => some (normal (home ++ "/" ++ "/".intercalate rest))
  | false, first :: _ => if first.startsWith "~" then none else some (normal path)
  | _, _ => some (normal path)

/-- The extension of a path: what follows its last dot. -/
def extension (path : String) : String :=
  .ofList ((path.toList.reverse.takeWhile (· ≠ '.')).reverse)

/-- What a path has in front of the dot of its extension. -/
def stem (path : String) : String :=
  .ofList ((path.toList.reverse.dropWhile (· ≠ '.')).drop 1).reverse

/-- What marks a path as that of local settings. -/
def localMarker : String := ".local."

/-- Whether a path is that of local settings. -/
def isLocal (path : String) : Bool :=
  (List.range path.length).any fun n => localMarker.toList.isPrefixOf (path.toList.drop n)

/-- The path of the local settings that go with a file. -/
def localOf (path : String) : String :=
  stem path ++ localMarker ++ extension path

end FilePath

end TypedPages
