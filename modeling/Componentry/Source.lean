import Componentry.Definition.Marker
import Componentry.Path
import Componentry.Registry

/-!
# Source units

A **source unit** is one file: its path, the logical name derived from the path,
and its text.  A unit either declares components in blocks, or is one definition
under its logical name; the registry of a project holds these names.
-/

namespace Componentry

/-- One source file. -/
structure SourceUnit where
  path : Path
  name : Text
  raw : Text
deriving DecidableEq, Repr

namespace SourceUnit

/-- The unit of a path relative to the project's root. -/
def ofRelative (path : Path) (raw : Text) : SourceUnit :=
  ⟨path, Path.logicalName (Path.components path), raw⟩

/-- Gives a path a text, in the order of paths; a path that is there already gets
the new text. -/
def insert (path : Path) (raw : Text) : List (Path × Text) → List (Path × Text)
  | [] => [(path, raw)]
  | (p, r) :: more =>
    match Text.order path p with
    | .lt => (path, raw) :: (p, r) :: more
    | .eq => (path, raw) :: more
    | .gt => (p, r) :: insert path raw more

/-- The units of paths and texts, in the order of the paths; the last text of a
repeated path counts. -/
def ofSources (sources : List (Path × Text)) : List SourceUnit :=
  (sources.foldl (fun sorted (path, raw) => insert path raw sorted) []).map fun (path, raw) =>
    ofRelative path raw

/-- The names and bodies of the component blocks in a text. -/
def componentBlocks (raw : Text) : List (Text × Text) :=
  (Text.pieces Marker.componentBlock? Marker.componentBlock?_consumes raw).filterMap
    Text.Piece.hit?

/-- The names that the component blocks of a text declare. -/
def declaredNames (raw : Text) : List Text := (componentBlocks raw).map Prod.fst

/-- What stands outside of the component blocks of a text. -/
def outsideBlocks (raw : Text) : Text :=
  ((Text.pieces Marker.componentBlock? Marker.componentBlock?_consumes raw).filterMap
    Text.Piece.gap?).flatten

/-- The definitions of a unit, with their bodies as written: its component
blocks, or the whole text under the unit's name if it has none. -/
def rawDefinitions (u : SourceUnit) : List (Text × Text) :=
  match componentBlocks u.raw with
  | [] => [(u.name, u.raw)]
  | blocks => blocks

/-- Whether a unit with component blocks holds other text outside of them. -/
def hasIgnoredText (u : SourceUnit) : Bool :=
  !(componentBlocks u.raw).isEmpty && !Text.isVoid (outsideBlocks u.raw)

end SourceUnit

/-- The registry of a project: the names of its units' definitions. -/
def Registry.ofUnits (units : List SourceUnit) : Registry :=
  units.foldl (fun r u => r.registerAll (u.rawDefinitions.map Prod.fst)) .empty

/-- The registry of a project holds the names of its definitions and `slotTag`. -/
theorem Registry.mem_ofUnits {units : List SourceUnit} {name : Text} :
    name ∈ (Registry.ofUnits units).names ↔
      name = slotTag ∨ ∃ u ∈ units, name ∈ u.rawDefinitions.map Prod.fst := by
  have hfold : ∀ (units : List SourceUnit) (r : Registry),
      (units.foldl (fun r u => r.registerAll (u.rawDefinitions.map Prod.fst)) r).contains name =
        true ↔ r.contains name = true ∨ ∃ u ∈ units, name ∈ u.rawDefinitions.map Prod.fst := by
    intro units
    induction units with
    | nil => simp
    | cons u units ih =>
      intro r
      rw [List.foldl_cons, ih, contains_registerAll, Bool.or_eq_true, List.contains_iff_mem,
        or_assoc]
      simp only [List.mem_cons, exists_eq_or_imp]
  have hempty : Registry.empty.contains name = true ↔ name = slotTag := by
    simp [empty, contains]
  rw [← List.contains_iff_mem, ← hempty]
  exact hfold units .empty

end Componentry
