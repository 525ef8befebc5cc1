/-!
# Failures of others

The source that delivers pages, the sink that takes them and the classes of offered filters are not
part of this library. When one of them fails, its failure is handed on untouched.
-/

namespace TypedPages

/-- A failure raised by a part that is not of this library. It stands for an exception of the common
kind, the one that programs are expected to handle. An interruption of the process and a request to
exit are of another kind and are no failures; they take a way past the events that tell of one.
Failures are told apart by their text alone, which stands for the class of the exception together
with its message. -/
structure Failure where
  text : String
  deriving DecidableEq, Repr, Inhabited

end TypedPages
