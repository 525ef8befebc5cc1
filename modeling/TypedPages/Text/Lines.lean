/-!
# Line ends

A text has one character for each line end, however the system that wrote it marks them.
-/

namespace TypedPages.Text

/-- A line feed for each carriage return, and one for both when a line feed follows. -/
def unifyLineEnds : List Char → List Char
  | '\r' :: '\n' :: cs => '\n' :: unifyLineEnds cs
  | '\r' :: cs => '\n' :: unifyLineEnds cs
  | c :: cs => c :: unifyLineEnds cs
  | [] => []

end TypedPages.Text
