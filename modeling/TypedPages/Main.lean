import TypedPages.CommandLine

/-!
# The program

Hands the arguments, the environment and the files that a command may read to the pure command
line, and passes on what it answers.
-/

namespace TypedPages

/-- The names and values in the block of entries that a process keeps as its environment. Each
entry ends with the character of code zero. -/
def environmentOf (block : String) : List (String × String) :=
  (block.toList.splitOn (.ofNat 0)).filterMap fun entry =>
    match entry.dropWhile (· ≠ '=') with
    | _ :: value => some (.ofList (entry.takeWhile (· ≠ '=')), .ofList value)
    | [] => none

/-- What there is at a path. Only a folder can be opened and not read. -/
def lookAt (path : String) : IO Place := do
  try
    return .file (← IO.FS.readFile path)
  catch _ =>
    try
      let _ ← IO.FS.Handle.mk path .read
      return .folder
    catch _ =>
      return .nothing

/-- The world as far as a command looks at it. -/
def worldFor (command : Command) : IO World := do
  let environment := match ← lookAt "/proc/self/environ" with
    | .file block => environmentOf block
    | _ => []
  let nowhere : World := { look := fun _ => .nothing, environment }
  match command with
  | .validate path =>
    match FilePath.expanded? nowhere.home path with
    | none => return nowhere
    | some path =>
      let own ← lookAt path
      let beside ← lookAt (FilePath.localOf path)
      return { nowhere with look := fun p =>
        if p = path then own else if p = FilePath.localOf path then beside else .nothing }
  | _ => return nowhere

end TypedPages

/-- Runs one command. -/
def main (args : List String) : IO UInt32 := do
  let command := TypedPages.Command.ofArgs args
  let exit := command.perform (← TypedPages.worldFor command)
  IO.print exit.out
  IO.eprint exit.err
  return exit.code.toUInt32
