import Componentry.Diagnostic
import Componentry.Engine.Compiled
import Componentry.Engine.Options

/-!
# Engines

An engine is a project ready to be rendered: its options, its units and what they
compile to.  In debug mode the units are checked one by one before they are
compiled, and the listing is reported afterwards.
-/

namespace Componentry

/-- A project ready to be rendered. -/
structure Engine where
  options : Options
  units : List SourceUnit
  compiled : Compiled

namespace Engine

/-- The engine of units. -/
def ofUnits (options : Options) (units : List SourceUnit) : Except StructuralFault Engine :=
  (Compiled.ofUnits units).map (⟨options, units, ·⟩)

/-- The engine of paths and texts. -/
def ofSources (options : Options) (sources : List (Path × Text)) : Except StructuralFault Engine :=
  ofUnits options (SourceUnit.ofSources sources)

/-- The events of checking units one by one: what expanding each of them reports,
then their diagnostics. -/
def checkEvents (r : Registry) (units : List SourceUnit) : List LogEvent :=
  units.flatMap (SourceUnit.expandEvents r) ++
    (Diagnostic.ofUnits r units).map fun d => ⟨.error, d.text, []⟩

/-- The event that shows the listing. -/
def listingEvent (c : Compiled) : LogEvent :=
  ⟨.debug, "generated IR:\n".toList ++ c.listing, [("fingerprint", .text c.fingerprint)]⟩

/-- The events that building the engine reports. -/
def events (e : Engine) : List LogEvent :=
  let r := Registry.ofUnits e.units
  if e.options.debug then
    checkEvents r e.units ++ Compiled.events r e.units ++ [listingEvent e.compiled]
  else Compiled.events r e.units

end Engine

end Componentry
