import Componentry.Digest.Sha256
import Componentry.Expansion.Unit
import Componentry.Namespace

/-!
# Compiled projects

The definitions of a project's units in one namespace.  A name that is defined
twice keeps its last definition.  When all definitions are there, the base of the
project's invocations is sealed with a copy of the namespace.  The listing of all
definitions and its digest are kept beside them.
-/

namespace Componentry

open Template

/-- A compiled project. -/
structure Compiled where
  /-- What definitions are rendered from. -/
  globals : Namespace
  /-- What their invocations run on. -/
  base : Base
  /-- The listing of all definitions, in the order of the units. -/
  listing : Text

namespace Compiled

/-- The definitions of units, in order. -/
def definitions (r : Registry) (units : List SourceUnit) : List Definition :=
  units.flatMap fun u => (u.expand r).definitions

/-- Adds definitions to a namespace.  A definition that does not parse stops
this. -/
def addAll (ns : Namespace) : List Definition → Except StructuralFault Namespace
  | [] => .ok ns
  | d :: more =>
    match ns.add d.name d.body with
    | .ok ns => addAll ns more
    | .error fault => .error ⟨d.name, fault⟩

/-- Compiles units whose tags invoke the registered components. -/
def ofRegistry (r : Registry) (units : List SourceUnit) : Except StructuralFault Compiled := do
  let definitions := definitions r units
  let ns ← addAll .empty definitions
  return ⟨ns, Base.unfinished.finish ns, Definition.listing definitions⟩

/-- Compiles units whose tags invoke each other. -/
def ofUnits (units : List SourceUnit) : Except StructuralFault Compiled :=
  ofRegistry (.ofUnits units) units

/-- The digest of the listing. -/
def fingerprint (c : Compiled) : Text := Digest.hex (Text.utf8 c.listing)

/-- The names of the definitions, sorted. -/
def names (c : Compiled) : List Text := Text.sort (c.globals.templates.map NamedTemplate.name)

/-- Whether a name is defined. -/
def contains (c : Compiled) (name : Text) : Bool := c.globals.contains name

/-! ## Events -/

/-- A warning for every name that has been defined before. -/
def duplicateEvents : (seen : List Text) → List Definition → List LogEvent
  | _, [] => []
  | seen, d :: more =>
    if seen.contains d.name then
      ⟨.warning, "duplicate definition, last one wins".toList, [("name", .text d.name)]⟩ ::
        duplicateEvents seen more
    else duplicateEvents (d.name :: seen) more

/-- The events that compiling reports. -/
def events (r : Registry) (units : List SourceUnit) : List LogEvent :=
  let definitions := definitions r units
  let recoveries := units.flatMap fun u => (u.expand r).recoveries
  duplicateEvents [] definitions ++
    [⟨.debug, "compiled namespace".toList,
      [("units", .number units.length), ("components", .number r.size),
        ("definitions", .number (definitions.map Definition.name).eraseDups.length),
        ("recoveries", .number recoveries.length)]⟩]

/-! ## Rendering -/

/-- Why a definition is not rendered. -/
inductive RenderFault where
  /-- There is no definition of this name. -/
  | missing (name : Text)
  /-- Running the definition failed. -/
  | failed (name : Text) (failure : Failure)
  /-- The result does not fit where it is to be written. -/
  | overflow
deriving DecidableEq, Repr

/-- The wording of a missing definition. -/
def missingMessage (name : Text) : Text := "no definition named `".toList ++ name ++ ['`']

/-- Runs a definition with data.  The result comes with the events reported on the
way. -/
def execute (c : Compiled) (name : Text) (data : Value) :
    Except RenderFault Text × List LogEvent :=
  let (result, events) := (c.base.render c.globals name data).result
  (result.mapError (.failed name), events)

/-- Renders a definition with data. -/
def render (c : Compiled) (name : Text) (data : Value) :
    Except RenderFault Text × List LogEvent :=
  if c.contains name then c.execute name data else (.error (.missing name), [])

/-- Renders a definition into a place for so many bytes. -/
def renderInto (c : Compiled) (limit : Nat) (name : Text) (data : Value) :
    Except RenderFault Text × List LogEvent :=
  let (result, events) := c.render name data
  (result.bind fun text => if Text.byteLength text ≤ limit then .ok text else .error .overflow,
    events)

/-- Runs a definition as an invocation.  Texts among the props that are named like
components fill slots.  A failure is reported and gives no text. -/
def runPartial (c : Compiled) (name : Text) (props : Value) : Text × List LogEvent :=
  match (c.base.partialRun c.globals name props.promote).result with
  | (.ok text, events) => (text, events)
  | (.error failure, events) => ([], events ++ [Function.failedEvent name failure])

end Compiled

end Componentry
