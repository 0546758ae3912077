import Componentry.Namespace
import Componentry.Proofs.MacroExpansion.Translation
import Componentry.Proofs.Template.Results

/-! # Environments as values

While a definition runs, its environment is a value: a map of the variables and, if
slots are given, of their sources under their labels, with the value of the caller's
environment under a name of its own (`Represents`).  A slot's source names the slot's
definition, so that a closure is a name together with the value of its environment.

Variables, labels and the names of functions differ, so each is found where it was
put (`Represents.lookup_variable`, `Represents.last?_label`, `Represents.lookup?_function`).
-/
namespace Componentry

open Template

/-! ## Kinds of names -/

/-- Values that variables have: their names are those of variables, and none is
markup. -/
def AreVariables (values : List (Text × Value)) : Prop :=
  ∀ e ∈ values, isVariable e.1 = true ∧ e.2.isSafe = false

theorem isComponentName_of_isVariable {x : Text} (h : isVariable x = true) :
    isComponentName x = false := by
  cases x with
  | nil => cases h
  | cons c s =>
    simp only [isVariable, Bool.and_eq_true, List.head?_cons, Option.any_some, decide_eq_true_eq,
      Char.le_def, UInt32.le_iff_toNat_le] at h
    obtain ⟨⟨⟨⟨-, hlow, hhigh⟩, -⟩, -⟩, -⟩ := h
    have hsmall : c.toNat < 128 := by
      simp at hhigh
      omega
    rw [isComponentName, Text.isUpper, if_pos hsmall, Bool.and_eq_false_iff, decide_eq_false_iff_not,
      decide_eq_false_iff_not, Char.le_def, Char.le_def, UInt32.le_iff_toNat_le,
      UInt32.le_iff_toNat_le]
    simp at hlow ⊢
    omega

theorem isLabel_component {label : Text} (h : isLabel label = true) :
    isComponentName label = true := by
  simp only [isLabel, Bool.and_eq_true] at h
  exact h.2

theorem ne_of_isVariable {x y : Text} (hx : isVariable x = true) (hy : isLabel y = true) :
    x ≠ y := by
  rintro rfl
  have hname := isLabel_component hy
  rw [isComponentName_of_isVariable hx] at hname
  cases hname

/-- A name that is neither a variable's nor a label. -/
def isReserved (name : Text) : Bool := !isVariable name && !isLabel name

theorem ne_reserved {x name : Text} (hx : isVariable x = true ∨ isLabel x = true)
    (hname : isReserved name = true) : x ≠ name := by
  rintro rfl
  simp only [isReserved, Bool.and_eq_true, Bool.not_eq_true'] at hname
  rcases hx with hx | hx
  · rw [hname.1] at hx
    cases hx
  · rw [hname.2] at hx
    cases hx

/-! ## Values of slots -/

/-- The entries that slots add to the value of an environment. -/
def slotValues (slots : List (Text × Text)) (caller : Value) : List (Text × Value) :=
  if slots.isEmpty then []
  else
    slots.map (fun (label, unit) => (label, .deferred (deferredInvocation unit))) ++
    [(callerVar, caller)]

variable {units : List (Text × List Fragment)} {slots : List HeldSlot}

theorem key_slotValues (h : AreHeld units slots) (caller : Value) :
    ∀ e ∈ slotValues (slots.map HeldSlot.entry) caller, isLabel e.1 = true ∨ e.1 = callerVar := by
  intro e he
  unfold slotValues at he
  split at he
  · cases he
  · rcases List.mem_append.1 he with he | he
    · rw [List.map_map] at he
      obtain ⟨slot, hslot, rfl⟩ := List.mem_map.1 he
      exact Or.inl (h.label slot hslot)
    · rw [List.mem_singleton.1 he]
      exact Or.inr rfl

theorem mem_slotValues {caller v : Value} {label : Text}
    (h : (label, v) ∈ slotValues (slots.map HeldSlot.entry) caller)
    (hname : isComponentName label = true) :
    ∃ slot ∈ slots, slot.label = label ∧ v = .deferred (deferredInvocation slot.unit) := by
  unfold slotValues at h
  split at h
  · cases h
  · rcases List.mem_append.1 h with h | h
    · rw [List.map_map] at h
      obtain ⟨slot, hslot, heq⟩ := List.mem_map.1 h
      cases heq
      exact ⟨slot, hslot, rfl, rfl⟩
    · cases List.mem_singleton.1 h
      cases hname

theorem callerVar_ne {label : Text} (h : isLabel label = true) : callerVar ≠ label :=
  Ne.symm (ne_reserved (Or.inr h) (by decide))

theorem last?_slotValues {label : Text} (hlabel : isLabel label = true) (slots : List HeldSlot)
    (caller : Value) :
    Value.last? label (slotValues (slots.map HeldSlot.entry) caller) =
      Value.last? label (slots.map fun slot =>
        (slot.label, .deferred (deferredInvocation slot.unit))) := by
  unfold slotValues
  split
  · rename_i hempty
    cases slots with
    | nil => rfl
    | cons => cases hempty
  · have hcaller : Value.last? label [(callerVar, caller)] = none := by
      refine Value.last?_eq_none fun e he => ?_
      rw [List.mem_singleton.1 he]
      exact callerVar_ne hlabel
    rw [Value.last?_append, hcaller, List.map_map]
    rfl

/-- The source of a slot stands under its label. -/
theorem last?_slot (h : AreHeld units slots) (caller : Value) {slot : HeldSlot}
    (hslot : slot ∈ slots) :
    Value.last? slot.label (slotValues (slots.map HeldSlot.entry) caller) =
      some (.deferred (deferredInvocation slot.unit)) := by
  rw [last?_slotValues (h.label slot hslot)]
  have hnodup : ((slots.map fun slot => (slot.label, Value.deferred (deferredInvocation slot.unit))).map
      Prod.fst).Nodup := by
    rw [List.map_map]
    exact h.nodup
  exact Value.last?_of_nodup hnodup (List.mem_map.2 ⟨slot, hslot, rfl⟩)

theorem last?_noSlot (caller : Value) {label : Text} (hlabel : isLabel label = true)
    (hnone : ∀ slot ∈ slots, slot.label ≠ label) :
    Value.last? label (slotValues (slots.map HeldSlot.entry) caller) = none := by
  rw [last?_slotValues hlabel]
  refine Value.last?_eq_none fun e he => ?_
  obtain ⟨slot, hslot, rfl⟩ := List.mem_map.1 he
  exact hnone slot hslot

theorem last?_caller (caller : Value) (hslots : slots ≠ []) :
    Value.last? callerVar (slotValues (slots.map HeldSlot.entry) caller) = some caller := by
  have hempty : (slots.map HeldSlot.entry).isEmpty = false := by
    cases slots with
    | nil => exact absurd rfl hslots
    | cons => rfl
  rw [slotValues, hempty, if_neg Bool.false_ne_true, Value.last?_append]
  rfl

/-! ## Values of environments -/

/-- A value stands for an environment, where the slots of tags are translated. -/
inductive Represents (names : List Text) (units : List (Text × List Fragment)) :
    Environment → Value → Prop where
  | page {values : List (Text × Value)} (hvalues : AreVariables values) :
    Represents names units (.page values) (.ofNamed values)
  | tag {values : List (Text × Value)} {slots : List HeldSlot} {caller : Environment} {v : Value}
    (hvalues : AreVariables values) (hheld : AreHeld units slots)
    (hparts : ∀ slot ∈ slots, ∀ part ∈ slot.parts, Translates names units part.1 part.2)
    (hcaller : Represents names units caller v) :
    Represents names units (.tag values (slots.map HeldSlot.markup) caller)
      (.ofNamed (values ++ slotValues (slots.map HeldSlot.entry) v))

/-- The entries of an environment's value: its variables, and its slots with the
value of the caller's environment. -/
structure IsLaidOut (names : List Text) (units : List (Text × List Fragment)) (env : Environment)
    (slots : List HeldSlot) (caller : Value) : Prop where
  values : AreVariables env.values
  held : AreHeld units slots
  given : ∀ slot ∈ slots, ∃ outer, env.slot? slot.label = some (slot.parts.map Prod.fst, outer) ∧
    Represents names units outer caller
  parts : ∀ slot ∈ slots, ∀ part ∈ slot.parts, Translates names units part.1 part.2
  none : ∀ label, (∀ slot ∈ slots, slot.label ≠ label) → env.slot? label = none

/-- The entries of an environment's value. -/
def layout (env : Environment) (slots : List HeldSlot) (caller : Value) : List (Text × Value) :=
  env.values ++ slotValues (slots.map HeldSlot.entry) caller

variable {names : List Text} {env : Environment} {caller : Value}

theorem last?_layout {name : Text} (h : ∀ e ∈ env.values, e.1 ≠ name) :
    Value.last? name (layout env slots caller) =
      Value.last? name (slotValues (slots.map HeldSlot.entry) caller) := by
  rw [layout, Value.last?_append, Value.last?_eq_none h, Option.or_none]

theorem find?_label {slots : List HeldSlot} (h : (slots.map HeldSlot.label).Nodup) {slot : HeldSlot}
    (hslot : slot ∈ slots) :
    (slots.map HeldSlot.markup).find? (fun s => s.1 = slot.label) = some slot.markup := by
  have hfind := find?_of_nodup HeldSlot.label h hslot
  rw [List.find?_map]
  exact congrArg (Option.map HeldSlot.markup) hfind

theorem Represents.isLaidOut {v : Value} (h : Represents names units env v) :
    ∃ slots caller, v = .ofNamed (layout env slots caller) ∧
      IsLaidOut names units env slots caller := by
  cases h with
  | page hvalues =>
    refine ⟨[], .undefined, ?_, hvalues, ⟨by simp, by simp, by simp, by simp⟩, by simp, by simp, ?_⟩
    · rw [layout]
      exact congrArg Value.ofNamed (List.append_nil _).symm
    · exact fun _ _ => rfl
  | @tag values slots outer v hvalues hheld hparts hcaller =>
    refine ⟨slots, v, rfl, hvalues, hheld, ?_, hparts, ?_⟩
    · intro slot hslot
      refine ⟨outer, ?_, hcaller⟩
      rw [Environment.slot?, find?_label hheld.nodup hslot]
      rfl
    · intro label hnone
      rw [Environment.slot?, Option.map_eq_none_iff, List.find?_eq_none]
      intro s hs
      obtain ⟨slot, hslot, rfl⟩ := List.mem_map.1 hs
      exact fun heq => hnone slot hslot (of_decide_eq_true heq)

namespace IsLaidOut

variable (h : IsLaidOut names units env slots caller)

include h

/-- What an environment gives for a label is one of its slots. -/
theorem exists_slot {label : Text} {parts : List Markup} {outer : Environment}
    (hslot : env.slot? label = some (parts, outer)) :
    ∃ slot ∈ slots, slot.label = label ∧ slot.parts.map Prod.fst = parts ∧
      Represents names units outer caller := by
  have hlabel : ∃ slot ∈ slots, slot.label = label := by
    refine Classical.byContradiction fun hother => ?_
    rw [h.none label fun slot hmem heq => hother ⟨slot, hmem, heq⟩] at hslot
    cases hslot
  obtain ⟨slot, hmem, rfl⟩ := hlabel
  obtain ⟨outer', houter, hcaller⟩ := h.given slot hmem
  rw [houter] at hslot
  cases hslot
  exact ⟨slot, hmem, rfl, rfl, hcaller⟩

theorem last?_variable {x : Text} (hx : isVariable x = true) :
    Value.last? x (layout env slots caller) = Value.last? x env.values := by
  have hslots : Value.last? x (slotValues (slots.map HeldSlot.entry) caller) = Option.none := by
    refine Value.last?_eq_none fun e he => ?_
    rcases key_slotValues h.held caller e he with hlabel | heq
    · exact Ne.symm (ne_of_isVariable hx hlabel)
    · rw [heq]
      exact Ne.symm (ne_reserved (Or.inl hx) (by decide))
  rw [layout, Value.last?_append, hslots]
  rfl

theorem last?_label {label : Text} (hlabel : isLabel label = true) :
    Value.last? label (layout env slots caller) =
      Value.last? label (slotValues (slots.map HeldSlot.entry) caller) :=
  last?_layout fun e he => ne_of_isVariable (h.values e he).1 hlabel

theorem last?_reserved {name : Text} (hname : isReserved name = true) (hcaller : name ≠ callerVar) :
    Value.last? name (layout env slots caller) = Option.none := by
  rw [last?_layout fun e he => ne_reserved (Or.inl (h.values e he).1) hname]
  refine Value.last?_eq_none fun e he => ?_
  rcases key_slotValues h.held caller e he with hlabel | heq
  · exact ne_reserved (Or.inr hlabel) hname
  · rw [heq]
    exact Ne.symm hcaller

theorem lookup_variable {x : Text} (hx : isVariable x = true) (name : Text)
    (blocks : List BlockStack) :
    (Scope.start name blocks).lookup (Value.ofNamed (layout env slots caller)).scope x =
      env.value x := by
  have hfunction : Function.named? x = Option.none := by
    simp only [isVariable, Bool.and_eq_true, Option.isNone_iff_eq_none] at hx
    exact hx.2
  rw [Scope.lookup, lookup?_scope, if_neg (ne_reserved (Or.inl hx) (by decide)), h.last?_variable hx,
    hfunction, Option.map_none, Option.or_none]
  rfl

theorem lookup?_function {name : Text} {f : Function} (hf : Function.named? name = some f)
    (hname : isReserved name = true) (hcaller : name ≠ callerVar)
    (hcontext : name ≠ Attribute.contextVar) (template : Text) (blocks : List BlockStack) :
    (Scope.start template blocks).lookup? (Value.ofNamed (layout env slots caller)).scope name =
      some (.function f) := by
  rw [lookup?_scope, if_neg hcontext, h.last?_reserved hname hcaller, hf]
  rfl

theorem lookup_caller (hslots : slots ≠ []) (name : Text) (blocks : List BlockStack) :
    (Scope.start name blocks).lookup (Value.ofNamed (layout env slots caller)).scope callerVar =
      caller := by
  have hlast : Value.last? callerVar (layout env slots caller) = some caller := by
    rw [last?_layout fun e he => ne_reserved (Or.inl (h.values e he).1) (by decide),
      last?_caller caller hslots]
  rw [Scope.lookup, lookup?_scope, if_neg (by decide), hlast]
  rfl

/-- The sources that are installed for a definition are those of the slots. -/
theorem mem_allSlotSources {label source : Text} :
    (label, source) ∈ (Value.ofNamed (layout env slots caller)).allSlotSources ↔
      ∃ slot ∈ slots, slot.label = label ∧ source = deferredInvocation slot.unit := by
  have hplain : (Value.ofNamed (layout env slots caller)).member? slotsVar = Option.none := by
    rw [Value.member?_ofNamed]
    exact h.last?_reserved (by decide) (by decide)
  rw [Value.allSlotSources, hplain, Option.map_none, Option.getD_none, List.append_nil,
    Value.mem_slotSources_ofNamed]
  constructor
  · rintro ⟨hname, hlast⟩
    rcases List.mem_append.1 (Value.mem_of_last? hlast) with hmem | hmem
    · rw [isComponentName_of_isVariable (h.values _ hmem).1] at hname
      cases hname
    · obtain ⟨slot, hslot, hlabel, hsource⟩ := mem_slotValues hmem hname
      exact ⟨slot, hslot, hlabel, Value.deferred.inj hsource⟩
  · rintro ⟨slot, hslot, rfl, rfl⟩
    have hlabel := h.held.label slot hslot
    refine ⟨isLabel_component hlabel, ?_⟩
    rw [h.last?_label hlabel, last?_slot h.held caller hslot]

end IsLaidOut

end Componentry
