import Componentry.Definition.Basic
import Componentry.Definition.Placeholder
import Componentry.Expansion.Recovery
import Componentry.Log
import Componentry.Source

/-!
# Expansion of source units

The definitions that a source unit contributes.  In each of the unit's own
definitions slot markers become placeholders and invocations are expanded; the
definitions generated for slots come right before the definition they belong to.

A definition is all or nothing: if it or one of its slots does not parse, it is
kept verbatim and its slots are dropped.  Their numbers are not used again.
-/

namespace Componentry

/-- The definitions of a source unit and the recoveries made for them. -/
structure ExpandedUnit where
  definitions : List Definition
  recoveries : List Recovery
deriving DecidableEq, Repr

namespace ExpandedUnit

/-- The first fault of a definition and its slots. -/
def fault? (name : Text) (e : Expansion) : Option StructuralFault :=
  (Template.fault? name e.text).or
    (e.units.findSome? fun u => Template.fault? u.name u.body)

/-- One definition of a unit whose invocations have been expanded. -/
def ofExpansion (name raw : Text) (e : Expansion) : ExpandedUnit :=
  match fault? name e with
  | none =>
    ⟨e.units.map (fun u => ⟨u.name, u.body⟩) ++ [⟨name, e.text⟩], e.unmatched.map .unmatched⟩
  | some fault =>
    ⟨[⟨name, verbatim raw⟩], e.unmatched.map .unmatched ++ [.kept name fault]⟩

/-- Expands definitions as written, one after the other; slots are named after
`owner` and numbered on from `count`. -/
def ofDefinitions (r : Registry) (owner : Text) : (count : Nat) → List (Text × Text) → ExpandedUnit
  | _, [] => ⟨[], []⟩
  | count, (name, raw) :: more =>
    let e := Expansion.ofText r owner count (expandMarkers raw)
    let first := ofExpansion name raw e
    let rest := ofDefinitions r owner (count + e.units.length) more
    ⟨first.definitions ++ rest.definitions, first.recoveries ++ rest.recoveries⟩

/-- The text that lists the unit's definitions. -/
def listing (u : ExpandedUnit) : Text := Definition.listing u.definitions

/-- The names of the unit's definitions, in order. -/
def names (u : ExpandedUnit) : List Text := u.definitions.map Definition.name

end ExpandedUnit

namespace SourceUnit

/-- The definitions of a unit. -/
def expand (r : Registry) (u : SourceUnit) : ExpandedUnit :=
  ExpandedUnit.ofDefinitions r u.name 0 u.rawDefinitions

/-- The events that expanding a unit reports: whether text is ignored, then the
recoveries. -/
def expandEvents (r : Registry) (u : SourceUnit) : List LogEvent :=
  let field := [("unit", LogField.text u.name)]
  (if u.hasIgnoredText then [⟨.debug, "ignoring text outside component blocks".toList, field⟩]
    else []) ++
    (u.expand r).recoveries.map fun recovery => ⟨.warning, recovery.message, field⟩

end SourceUnit

end Componentry
