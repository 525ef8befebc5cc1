import TypedPages.BufferPool
import TypedPages.Document
import TypedPages.Text.Blank

/-!
# Registries

A registry keeps filter classes by name. Providers offer classes; whenever a provider is added,
the offers of all providers are collected anew, those of the provider added last first. If that
fails the registry goes on serving the classes that it had, but the provider stays added. From a
class that it serves the registry makes filters, as far as the class lets it.
-/

namespace TypedPages

/-- What making a filter comes to unless its class says otherwise. It works with the pool that is
given, or with one of its own. -/
def commonInit (allocator : Option BufferPool) : Except Failure BufferPool :=
  .ok (allocator.getD (.standard 0))

/-- A class that may be offered as a filter. Its attributes can be missing; `isFilter` tells
whether it has the interface of filters, and `abstract` which methods of the interface it leaves
out, in order. Its author decides what making a filter with a pool comes to: the pool that the
filter then works with, or a failure. -/
structure FilterClass where
  className : String
  module : String
  name : Option String
  doc : Option String
  version : String
  isFilter : Bool
  abstract : List String := []
  init : Option BufferPool → Except Failure BufferPool := commonInit
  deriving Inhabited

/-- A filter that was made from a class, with the pool that it works with. -/
structure MadeFilter where
  origin : FilterClass
  pool : BufferPool
  deriving Inhabited

/-- A thing that is offered as a filter class. -/
inductive Offer where
  | filterClass (c : FilterClass)
  | other (d : Document)
  deriving Inhabited

/-- A source of offers, told from others by its key. One that has no hook, or whose hook answers
nothing, offers nothing. -/
structure Provider where
  key : String
  offers : Option (List Offer)
  deriving Inhabited

/-- Why providers cannot be collected, or a filter cannot be had. -/
inductive RegistryError where
  | knownProvider
  | notFilter (literal : String)
  | nameless (className : String)
  | repeated (name className : String)
  | unknown (name : String) (available : List String)
  | abstract (className : String) (methods : List String)
  | unmade (cause : Failure)
  | unwritable (cause : Unwritable)
  deriving DecidableEq, Repr, Inhabited

/-- The providers, those added last first, and the classes by name from the last collection that
went well, in the order in which they were offered. -/
structure Registry where
  providers : List Provider
  classes : List (String × FilterClass)
  deriving Inhabited

/-- What a registry tells about a class. -/
structure FilterInfo where
  name : String
  version : String
  description : String
  deriving DecidableEq, Repr, Inhabited

/-- The wording of a registry error. -/
def RegistryError.message : RegistryError → String
  | knownProvider => "Plugin name already registered"
  | notFilter literal => s!"Filter plugin {literal} must subclass BaseFilter"
  | nameless className => s!"type object '{className}' has no attribute 'name'"
  | repeated name className =>
    s!"Duplicate filter plugin name: '{name}'. Already registered by {className}"
  | unknown name available =>
    s!"Unknown filter plugin: '{name}'. Available: {Text.quotedList available}"
  | abstract className methods =>
    let plural := if methods.length = 1 then "" else "s"
    s!"Can't instantiate abstract class {className} with abstract method{plural} " ++
      ", ".intercalate methods
  | unmade cause => cause.text
  | unwritable cause => cause.message

/-- The error for a thing that is offered as a filter and is no class. Its message shows the thing,
if that can be written. -/
def RegistryError.ofThing [Host] (d : Document) : RegistryError :=
  match d.toCell.obstacle? with
  | some cause => .unwritable cause
  | none => .notFilter d.literal

namespace FilterClass

/-- The literal by which messages show a class. -/
def literal (c : FilterClass) : String :=
  s!"<class '{c.module}.{c.className}'>"

/-- The first line of the documentation that is not blank, without the blanks around it. -/
def firstLine? (c : FilterClass) : Option String :=
  match c.doc with
  | none => none
  | some doc =>
    let lines := ((Text.strip doc.toList).splitOn '\n').map Text.strip
    (lines.find? (!·.isEmpty)).map String.ofList

/-- What the class does, in one line. -/
def description (c : FilterClass) : String :=
  match c.firstLine? with
  | some line => line
  | none => s!"{c.name.getD c.className} plugin"

/-- What is told about a class under the name that it is registered by. -/
def info (c : FilterClass) (name : String) : FilterInfo :=
  ⟨name, c.version, c.description⟩

/-- Makes a filter that works with a pool. A class that leaves methods out makes none. -/
def make (c : FilterClass) (allocator : Option BufferPool) : Except RegistryError MadeFilter :=
  if c.abstract.isEmpty then
    match c.init allocator with
    | .ok pool => .ok ⟨c, pool⟩
    | .error cause => .error (.unmade cause)
  else .error (.abstract c.className c.abstract)

/-- The built-in filter that removes or keeps named columns. -/
def removeColumns : FilterClass where
  className := "RemoveColumnsFilter"
  module := "colsieve.plugins.filters.remove_columns"
  name := some "remove_columns"
  doc := some "Drop or keep named columns, streaming page by page."
  version := "1.0.0"
  isFilter := true

end FilterClass

namespace Registry

/-- A registry without providers. -/
def empty : Registry :=
  ⟨[], []⟩

section

variable [Host]

/-- Adds one offer to the classes collected so far. -/
def collectOffer (classes : List (String × FilterClass)) :
    Offer → Except RegistryError (List (String × FilterClass))
  | .other d => .error (.ofThing d)
  | .filterClass c =>
    if !c.isFilter then .error (.notFilter c.literal)
    else match c.name with
      | none => .error (.nameless c.className)
      | some name =>
        match classes.lookup name with
        | some first => .error (.repeated name first.className)
        | none => .ok (classes ++ [(name, c)])

/-- Collects the offers of all providers in order; the first bad offer is reported. -/
def collect (providers : List Provider) : Except RegistryError (List (String × FilterClass)) :=
  (providers.flatMap fun p => p.offers.getD []).foldlM collectOffer []

/-- Adds a provider and collects anew. A provider that was added before is refused. -/
def register (r : Registry) (p : Provider) : Except RegistryError Unit × Registry :=
  if r.providers.any (·.key == p.key) then (.error .knownProvider, r)
  else
    let providers := p :: r.providers
    match collect providers with
    | .ok classes => (.ok (), ⟨providers, classes⟩)
    | .error e => (.error e, { r with providers })

end

/-- The provider of the built-in filters. Each time it is asked for it is a new one, told from the
others by a number. -/
def builtin (number : Nat) : Provider where
  key := s!"builtin {number}"
  offers := some [.filterClass .removeColumns]

/-- The registered classes in order. -/
def filters (r : Registry) : List FilterClass :=
  r.classes.map (·.2)

/-- The class of a name. -/
def get? (r : Registry) (name : String) : Option FilterClass :=
  r.classes.lookup name

/-- What is known about the registered classes, in order. -/
def infos (r : Registry) : List FilterInfo :=
  r.classes.map fun (name, c) => c.info name

/-- Makes a filter of the class of a name. If there is no such class, the names that there are go
into the error, sorted. -/
def create (r : Registry) (name : String) (allocator : Option BufferPool) :
    Except RegistryError MadeFilter :=
  match r.get? name with
  | some c => c.make allocator
  | none => .error (.unknown name ((r.classes.map (·.1)).mergeSort (· ≤ ·)))

/-- The registry with the built-in filters alone. -/
def standard [Host] : Registry :=
  (empty.register (builtin 0)).2

end Registry

end TypedPages
