import Componentry.Proofs.Compilation
import Componentry.Proofs.References.Outline

/-! # Every reference that is written leads to a definition

An expansion writes two kinds of references.  An invocation names a component; it is
registered, and what the registry of a project holds is defined by the project
(`Compiled.contains_of_invokes`).  An entry for a slot names a definition generated
beside it; if the block is emitted as it was expanded, so is that definition, before
the block's own (`ExpandedBlock.entry_resolves`).  Since the numbers of a unit run on
from block to block, no two definitions generated in it have the same name
(`SourceUnit.nodup_slotDefinitions`), whatever is in the names of components and the
labels that go into it.
-/
namespace Componentry

/-! ## What a block is emitted as -/

namespace ExpandedBlock

/-- Whether a block is emitted as it was expanded. -/
def isAccepted (b : ExpandedBlock) : Bool := (ExpandedUnit.fault? b.name b.expansion).isNone

/-- The definitions of slots emitted with a block. -/
def slotDefinitions (b : ExpandedBlock) : List Definition :=
  if b.isAccepted then b.expansion.units.map fun u => ⟨u.name, u.body⟩ else []

/-- The definition of a block itself. -/
def owner (b : ExpandedBlock) : Definition :=
  ⟨b.name, if b.isAccepted then b.expansion.text else verbatim b.raw⟩

/-- **The definitions of a block's slots stand before its own.** -/
theorem output_definitions (b : ExpandedBlock) :
    b.output.definitions = b.slotDefinitions ++ [b.owner] := by
  unfold output ExpandedUnit.ofExpansion slotDefinitions owner isAccepted
  cases ExpandedUnit.fault? b.name b.expansion <;> rfl

theorem slotDefinitions_names (b : ExpandedBlock) :
    (b.slotDefinitions.map Definition.name).Sublist b.slotNames := by
  unfold slotDefinitions slotNames
  split
  · rw [List.map_map]
    exact List.Sublist.refl _
  · exact List.nil_sublist _

/-! ## The invocations of a block -/

/-- What the first pass over a block finds. -/
def singles (r : Registry) (b : ExpandedBlock) : Outline := .ofSingles r (expandMarkers b.raw)

/-- What the second pass over a block finds. -/
def tags (r : Registry) (b : ExpandedBlock) : Outline :=
  .ofTags r (Expansion.selfClosing r (expandMarkers b.raw))

/-- The invocations that both passes over a block write.  Slots are named after
`owner` and numbered on from `count`. -/
def calls (r : Registry) (owner : Text) (count : Nat) (b : ExpandedBlock) : List Call :=
  ((b.singles r).write owner count).calls ++ ((b.tags r).write owner count).calls

theorem invokes_of_mem_calls {r : Registry} {owner : Text} {count : Nat} {b : ExpandedBlock}
    {call : Call} (h : call ∈ b.calls r owner count) : r.invokes call.component = true := by
  rcases List.mem_append.1 h with h | h
  · exact (Expansion.invokes_of_mem_singles h).1
  · exact Expansion.invokes_of_mem_tags h

variable {r : Registry} {u : SourceUnit} {before after : List ExpandedBlock} {b : ExpandedBlock}

/-- What is written for a block of a unit is what its passes find. -/
theorem expansion_eq_write (h : u.blocks r = before ++ b :: after) :
    b.expansion.text = ((b.tags r).write u.name (before.flatMap (·.slotNames)).length).text ∧
      b.expansion.units = Call.units u.name
        ((b.tags r).write u.name (before.flatMap (·.slotNames)).length).calls := by
  have hexpansion := ExpandedUnit.blocks_expansion h
  rw [Nat.zero_add] at hexpansion
  rw [hexpansion]
  exact Expansion.paired_eq_write ..

/-- **An entry for a slot leads to a definition** that is emitted with the block and
holds the content of the entry's label. -/
theorem entry_resolves (h : u.blocks r = before ++ b :: after) (haccepted : b.isAccepted = true)
    {call : Call} (hcall : call ∈ b.calls r u.name (before.flatMap (·.slotNames)).length)
    {i : Nat} {label unit : Text}
    (hentry : (call.slots u.name).entries[i]? = some (label, unit)) :
    ∃ body, (Slots.contents (ContentPiece.ofText call.contents))[i]? = some (label, body) ∧
      (⟨unit, body⟩ : Definition) ∈ b.slotDefinitions := by
  obtain ⟨body, hcontents, hunit, -⟩ := Slots.extract_entries hentry
  refine ⟨body, hcontents, ?_⟩
  rcases List.mem_append.1 hcall with hcall | hcall
  · -- The first pass gives no slots.
    rw [Call.slots, (Expansion.invokes_of_mem_singles hcall).2, Slots.extract_nil] at hentry
    simp at hentry
  · rw [slotDefinitions, if_pos haccepted, (expansion_eq_write h).2]
    have hmem : (⟨unit, body⟩ : SlotUnit) ∈ (call.slots u.name).units := List.mem_of_getElem? hunit
    rw [Call.units]
    exact List.mem_map.2 ⟨⟨unit, body⟩, List.mem_flatMap.2 ⟨call, hcall, hmem⟩, rfl⟩

end ExpandedBlock

/-! ## The definitions generated in a unit -/

theorem ExpandedUnit.numbered_blocks (r : Registry) (owner : Text) (count : Nat)
    (raws : List (Text × Text)) :
    Numbered owner count ((blocks r owner count raws).flatMap (·.slotNames)) := by
  induction raws generalizing count with
  | nil => exact .nil owner count
  | cons block raws ih =>
    obtain ⟨name, raw⟩ := block
    rw [blocks, List.flatMap_cons]
    refine (Expansion.numbered_ofText r owner count (expandMarkers raw)).append ?_
    rw [List.length_map]
    exact ih _

namespace SourceUnit

/-- The definitions of slots that a unit contributes. -/
def slotDefinitions (r : Registry) (u : SourceUnit) : List Definition :=
  (u.blocks r).flatMap (·.slotDefinitions)

theorem numbered_slotNames (r : Registry) (u : SourceUnit) :
    Numbered u.name 0 ((u.blocks r).flatMap (·.slotNames)) :=
  ExpandedUnit.numbered_blocks r u.name 0 u.rawDefinitions

theorem slotDefinitions_names (r : Registry) (u : SourceUnit) :
    ((u.slotDefinitions r).map Definition.name).Sublist ((u.blocks r).flatMap (·.slotNames)) := by
  rw [slotDefinitions]
  induction u.blocks r with
  | nil => exact List.Sublist.refl _
  | cons b blocks ih =>
    rw [List.flatMap_cons, List.flatMap_cons, List.map_append]
    exact b.slotDefinitions_names.append ih

/-- **The definitions generated in a unit have distinct names.** -/
theorem nodup_slotDefinitions (r : Registry) (u : SourceUnit) :
    ((u.slotDefinitions r).map Definition.name).Nodup :=
  (u.numbered_slotNames r).nodup.sublist (u.slotDefinitions_names r)

theorem expand_definitions (r : Registry) (u : SourceUnit) :
    (u.expand r).definitions = (u.blocks r).flatMap fun b => b.slotDefinitions ++ [b.owner] := by
  simp [u.expand_eq_blocks r, ExpandedBlock.output_definitions]

end SourceUnit

theorem Definition.filter_name_eq {definitions : List Definition} {d : Definition}
    (hnodup : (definitions.map Definition.name).Nodup) (hmem : d ∈ definitions) :
    definitions.filter (fun d' => d'.name = d.name) = [d] := by
  obtain ⟨before, after, rfl⟩ := List.append_of_mem hmem
  rw [List.map_append, List.map_cons, List.nodup_append, List.nodup_cons] at hnodup
  obtain ⟨-, ⟨hafter, -⟩, hbefore⟩ := hnodup
  have hnone : ∀ more : List Definition, d.name ∉ more.map Definition.name →
      more.filter (fun d' => d'.name = d.name) = [] := by
    intro more h
    refine List.filter_eq_nil_iff.2 fun d' hd' => ?_
    intro heq
    exact h (List.mem_map.2 ⟨d', hd', by simpa using heq⟩)
  rw [List.filter_append, List.filter_cons, hnone after hafter,
    hnone before fun hd => hbefore _ hd _ (List.mem_cons_self ..) rfl]
  simp

namespace Compiled

/-- The definition of each block of a unit is emitted. -/
theorem owner_mem_definitions {r : Registry} {units : List SourceUnit} {u : SourceUnit}
    (hu : u ∈ units) {b : ExpandedBlock} (hb : b ∈ u.blocks r) : b.owner ∈ definitions r units := by
  refine List.mem_flatMap.2 ⟨u, hu, ?_⟩
  rw [u.expand_definitions r]
  exact List.mem_flatMap.2 ⟨b, hb, by simp⟩

/-- **What the registry of a project holds is defined by the project**, `slotTag`
apart. -/
theorem mem_registry_iff {units : List SourceUnit} {r : Registry} {name : Text} :
    name ∈ (Registry.ofUnits units).names ↔
      name = slotTag ∨ ∃ u ∈ units, ∃ b ∈ u.blocks r, b.owner.name = name := by
  have hblocks : ∀ u : SourceUnit, name ∈ u.rawDefinitions.map Prod.fst ↔
      ∃ b ∈ u.blocks r, b.owner.name = name := by
    intro u
    rw [← ExpandedUnit.blocks_map r u.name 0 u.rawDefinitions, List.map_map, List.mem_map]
    rfl
  simp only [Registry.mem_ofUnits, hblocks]

/-- What a tag of a registered name invokes is defined. -/
theorem contains_of_invokes {units : List SourceUnit} {name : Text} {c : Compiled}
    (hc : ofUnits units = .ok c) (h : (Registry.ofUnits units).invokes name = true) :
    c.contains name = true := by
  rw [Registry.invokes, Bool.and_eq_true] at h
  obtain ⟨hupper, hcontains⟩ := h
  rcases mem_registry_iff.1 (List.contains_iff_mem.1 hcontains) with rfl | ⟨u, hu, b, hb, rfl⟩
  · exact absurd hupper (by decide)
  · exact (contains_iff hc b.owner.name).2 ⟨b.owner, owner_mem_definitions hu hb, rfl⟩

/-- **No reference dangles.**  The names of the registry of a project are those of its
units' own definitions, and `slotTag`; so every component that is invoked is defined
in the compiled project.  In each unit the definitions of a block's slots stand before
the block's own, no two slots have the same name, and the text and the slots of a block
are what its outlines write; if the block is emitted as it was expanded, each entry for
a slot in an invocation names exactly one of the unit's slots, and that holds the
content that was found for the entry. -/
theorem references_resolve (units : List SourceUnit) :
    (∀ name, name ∈ (Registry.ofUnits units).names ↔
      name = slotTag ∨ ∃ u ∈ units, ∃ b ∈ u.blocks (.ofUnits units), b.owner.name = name) ∧
    (∃ c, ofUnits units = .ok c ∧
      ∀ u ∈ units, ∀ before b after, u.blocks (.ofUnits units) = before ++ b :: after →
        ∀ call ∈ b.calls (.ofUnits units) u.name (before.flatMap (·.slotNames)).length,
          c.contains call.component = true) ∧
    ∀ u ∈ units,
      (u.expand (.ofUnits units)).definitions =
        (u.blocks (.ofUnits units)).flatMap (fun b => b.slotDefinitions ++ [b.owner]) ∧
      ((u.slotDefinitions (.ofUnits units)).map Definition.name).Nodup ∧
      ∀ before b after, u.blocks (.ofUnits units) = before ++ b :: after →
        Expansion.selfClosing (.ofUnits units) (expandMarkers b.raw) =
          ((b.singles (.ofUnits units)).write u.name (before.flatMap (·.slotNames)).length).text ∧
        b.expansion.text =
          ((b.tags (.ofUnits units)).write u.name (before.flatMap (·.slotNames)).length).text ∧
        b.expansion.units = Call.units u.name
          ((b.tags (.ofUnits units)).write u.name (before.flatMap (·.slotNames)).length).calls ∧
        (b.isAccepted = true →
          ∀ call ∈ b.calls (.ofUnits units) u.name (before.flatMap (·.slotNames)).length,
            ∀ (i : Nat) (label unit : Text),
              (call.slots u.name).entries[i]? = some (label, unit) →
              ∃ body,
                (Slots.contents (ContentPiece.ofText call.contents))[i]? = some (label, body) ∧
                (⟨unit, body⟩ : Definition) ∈ b.slotDefinitions ∧
                (u.slotDefinitions (.ofUnits units)).filter (fun d => d.name = unit) =
                  [⟨unit, body⟩]) := by
  refine ⟨fun name => mem_registry_iff, ?_, ?_⟩
  · obtain ⟨c, hc⟩ := ofRegistry_ok (.ofUnits units) units
    refine ⟨c, hc, ?_⟩
    intro u _ before b after _ call hcall
    exact contains_of_invokes hc (ExpandedBlock.invokes_of_mem_calls hcall)
  · intro u _
    refine ⟨u.expand_definitions _, u.nodup_slotDefinitions _, ?_⟩
    intro before b after h
    obtain ⟨htext, hunits⟩ := ExpandedBlock.expansion_eq_write h
    refine ⟨Expansion.selfClosing_eq_write .., htext, hunits, ?_⟩
    intro haccepted call hcall i label unit hentry
    obtain ⟨body, hcontents, hmem⟩ := ExpandedBlock.entry_resolves h haccepted hcall hentry
    refine ⟨body, hcontents, hmem, ?_⟩
    refine Definition.filter_name_eq (d := ⟨unit, body⟩) (u.nodup_slotDefinitions _) ?_
    exact List.mem_flatMap.2 ⟨b, by rw [h]; simp, hmem⟩

end Compiled

end Componentry
