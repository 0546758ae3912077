import Componentry.Diagnostic
import Componentry.Proofs.Compilation
import Componentry.Proofs.Listing
import Mathlib.Data.List.Infix

/-! # Diagnostics are complete and never spurious

A unit is looked at in three ways, and it is known of each when it reports something.

* A recovery is reported if it kept a definition (`Diagnostic.sites_ofRecovery?`).
* The listing of the definitions is reported if it does not split back, and that is so
  exactly if the body of one of them holds the closing tag (`Diagnostic.sites_ofListing?`).
* A definition is reported if it does not parse, but all that are emitted do
  (`Diagnostic.ofDefinition?_eq_none`).

`Diagnostic.sites_ofUnits` puts them together.
-/
namespace Componentry

/-- Where a fault is: the unit, the definition in it, and the line of its body if that is
known. -/
structure FaultSite where
  unit : Text
  definition : Text
  line : Option Nat
deriving DecidableEq, Repr

/-- The fault that a recovery was made for, if it kept a definition of the unit. -/
def Recovery.site? (unit : Text) : Recovery → Option FaultSite
  | unmatched _ => none
  | kept definition fault => some ⟨unit, definition, (kept definition fault).line?⟩

namespace Diagnostic

/-- Where a diagnostic says that the fault is. -/
def site (d : Diagnostic) : FaultSite := ⟨d.unit, d.definition, d.line⟩

variable {r : Registry} {u : SourceUnit}

theorem sites_ofRecovery? (unit : Text) (definitions : List Definition) (recovery : Recovery) :
    (ofRecovery? unit definitions recovery).map site = recovery.site? unit := by
  cases recovery <;> rfl

/-- The listing of a unit is reported exactly if the body of one of its definitions holds the
closing tag. -/
theorem sites_ofListing? (unit : Text) (expanded : ExpandedUnit) :
    (ofListing? unit expanded).map site =
      if ∃ d ∈ expanded.definitions, Definition.closeTag <:+: d.body then
        some ⟨unit, unit, none⟩
      else none := by
  have hsplit := Definition.split_listing expanded.definitions
  rw [ofListing?, ExpandedUnit.listing]
  by_cases hclose : ∃ d ∈ expanded.definitions, Definition.closeTag <:+: d.body
  · rw [if_pos hclose]
    -- Whatever the listing splits into, it is not the definitions.
    have hne : Definition.split (Definition.listing expanded.definitions) ≠
        .ok expanded.definitions := by
      obtain ⟨d, hd, hmark⟩ := hclose
      exact fun hok => hsplit.1 hok d hd hmark
    split
    · rename_i definitions hok
      have hother : definitions ≠ expanded.definitions := fun heq => hne (heq ▸ hok)
      rw [if_neg hother]
      rfl
    · rfl
  · rw [if_neg hclose]
    have hok : Definition.split (Definition.listing expanded.definitions) =
        .ok expanded.definitions :=
      hsplit.2 fun d hd hmark => hclose ⟨d, hd, hmark⟩
    simp only [hok, if_true, Option.map_none]

/-- No definition that is emitted is reported. -/
theorem ofDefinition?_eq_none {d : Definition} (h : d ∈ (u.expand r).definitions) :
    ofDefinition? u.name d = none := by
  rw [ofDefinition?, SourceUnit.check_expand h, Option.map_none]

theorem sites_ofUnit (r : Registry) (u : SourceUnit) :
    (ofUnit r u).map site =
      (u.expand r).recoveries.filterMap (Recovery.site? u.name) ++
        if ∃ d ∈ (u.expand r).definitions, Definition.closeTag <:+: d.body then
          [⟨u.name, u.name, none⟩]
        else [] := by
  have hdefinitions : (u.expand r).definitions.filterMap (ofDefinition? u.name) = [] :=
    List.filterMap_eq_nil_iff.2 fun d hd => ofDefinition?_eq_none hd
  have hlisting : ((ofListing? u.name (u.expand r)).toList).map site =
      ((ofListing? u.name (u.expand r)).map site).toList := by
    cases ofListing? u.name (u.expand r) <;> rfl
  rw [ofUnit, hdefinitions, List.append_nil, List.map_append, List.map_filterMap, hlisting,
    sites_ofListing?]
  congr 1
  · exact List.filterMap_congr fun recovery _ => sites_ofRecovery? _ _ recovery
  · split <;> rfl

/-- **Diagnostics are complete and never spurious.**  Each unit is reported with the
definitions that were kept verbatim, in order, and then once more under its own name if the
body of one of its definitions holds the closing tag of a listing.  Nothing else is reported:
every definition that is emitted parses. -/
theorem sites_ofUnits (r : Registry) (units : List SourceUnit) :
    ((ofUnits r units).map site = units.flatMap fun u =>
        (u.expand r).recoveries.filterMap (Recovery.site? u.name) ++
          if ∃ d ∈ (u.expand r).definitions, Definition.closeTag <:+: d.body then
            [⟨u.name, u.name, none⟩]
          else []) ∧
      ∀ u ∈ units, ∀ d ∈ (u.expand r).definitions, Template.check d.body = none := by
  refine ⟨?_, fun u _ d hd => SourceUnit.check_expand hd⟩
  rw [ofUnits, List.map_flatMap]
  exact List.flatMap_congr fun u _ => sites_ofUnit r u

/-- A text with the closing tag in it is reported twice: it does not parse, and it is not read
back. -/
example :
    (ofUnits .empty [⟨['p'], ['p'], "a\n\x7b% enddefine %\x7d\nb".toList⟩]).map site =
      [⟨['p'], ['p'], some 2⟩, ⟨['p'], ['p'], none⟩] := by
  decide +kernel

end Diagnostic

end Componentry
