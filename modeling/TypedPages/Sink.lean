import TypedPages.Cell
import TypedPages.Failure

/-!
# Sinks

A sink takes the pages that a stream delivers. It is known only by the calls it received and by
how it answers: the answer may depend on the whole history, the call to be answered included.
-/

namespace TypedPages

/-- What a sink is told. -/
inductive SinkCall where
  | add (page : Page)
  | finish
  | close
  deriving Inhabited

/-- A consumer of pages: its rule for refusing calls and the calls received so far, in order. -/
structure Sink where
  refuses : List SinkCall → Option Failure
  calls : List SinkCall

instance : Inhabited Sink := ⟨⟨fun _ => none, []⟩⟩

/-- When a scripted sink refuses: at additions given by their number, counted from zero, and at
every finish or every close. -/
structure SinkScript where
  adds : List Nat
  finish : Bool
  close : Bool
  deriving Repr, Inhabited

namespace SinkCall

/-- Whether the call hands over a page. -/
def isAdd : SinkCall → Bool
  | add _ => true
  | _ => false

end SinkCall

namespace SinkScript

/-- The rule of a script, by the last call of a history. -/
def refuses (script : SinkScript) (history : List SinkCall) : Option Failure :=
  match history.getLast? with
  | some (.add _) =>
    if script.adds.contains ((history.filter SinkCall.isAdd).length - 1)
    then some ⟨"sink add failed"⟩ else none
  | some .finish => if script.finish then some ⟨"sink finish failed"⟩ else none
  | some .close => if script.close then some ⟨"sink close failed"⟩ else none
  | none => none

end SinkScript

namespace Sink

/-- A sink that has received nothing yet. -/
def fresh (refuses : List SinkCall → Option Failure) : Sink :=
  ⟨refuses, []⟩

/-- Makes a call. The sink has received it also when it refuses. -/
def tell (s : Sink) (call : SinkCall) : Except Failure Unit × Sink :=
  let calls := s.calls ++ [call]
  (match s.refuses calls with
    | some failure => .error failure
    | none => .ok (),
   { s with calls })

@[simp] theorem calls_tell (s : Sink) (call : SinkCall) :
    (s.tell call).2.calls = s.calls ++ [call] := rfl

@[simp] theorem refuses_tell (s : Sink) (call : SinkCall) :
    (s.tell call).2.refuses = s.refuses := rfl

end Sink

end TypedPages
