import TypedPages.Settings.Cast
import TypedPages.Settings.Literal
import TypedPages.Settings.Merge

/-!
# Overrides

Variables of the environment that override settings. Their names begin with one of two markers and
go on with the key of a setting, or with a path of keys.
-/

namespace TypedPages

/-- The key of a setting and the value that a variable gives it. -/
structure Override where
  key : String
  value : Document
  deriving Inhabited

namespace Override

/-- What the names of variables begin with. Variables with the second marker win. -/
def markers : List String := ["DYNACONF_", "COLSIEVE_"]

/-- The value of a variable: what it is cast to, or what its literal says. -/
def valueOf (s : String) : Except CastError Document :=
  (Cast.ofText? s).getD (.ok (Literal.value s))

/-- Reads the variables whose names begin with a marker. -/
def ofMarked (marker : String) (environment : List (String × String)) :
    Except CastError (List Override) :=
  (environment.filter (·.1.startsWith marker)).mapM fun (name, s) =>
    (valueOf s).map fun value => ⟨.ofList (name.toList.drop marker.length), value⟩

/-- The overrides of an environment in the order in which they are made. -/
def ofEnvironment (environment : List (String × String)) : Except CastError (List Override) :=
  (markers.mapM fun marker => ofMarked marker environment).map List.flatten

/-- Applies an override. -/
def apply (settings : Entries) (o : Override) : Entries :=
  settings.set true true o.key o.value

end Override

end TypedPages
