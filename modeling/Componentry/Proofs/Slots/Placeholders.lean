import Componentry.Proofs.Slots.Installation
import Componentry.Proofs.Template.Events
import Componentry.Proofs.Template.Results

/-! # What a placeholder writes

The entry that a tag writes for a slot is a source within a source: it is quoted twice,
marked as slot content by the caller, installed under the label, found by the placeholder
and run in the scope of the component.  What comes of it is one invocation of the slot's
definition with the caller's data, and its text is written as it is
(`Namespace.render_placeholder`).  Nothing else that the component is given plays a part
in it, and neither does a definition of the label's name.
-/
namespace Componentry

open Template Run

/-! ## The entry of a slot -/

/-- The entry that a tag writes for a slot. -/
theorem Slots.mem_propEntries {slots : Slots} {label unit : Text}
    (h : (label, unit) ∈ slots.entries) :
    (label, Props.call deferredName [Text.quote (deferredInvocation unit)]) ∈
      slots.propEntries := by
  have hne : slots.entries.isEmpty = false := by
    rw [List.isEmpty_eq_false_iff]
    exact List.ne_nil_of_mem h
  rw [propEntries, hne, if_neg Bool.false_ne_true]
  exact List.mem_append_left _ (List.mem_map.2 ⟨_, h, rfl⟩)

/-- What the entry of a slot is read as, and what it stands for. -/
theorem gives_deferredInvocation (unit : Text) :
    parse (expressionBlock (Props.call deferredName [Text.quote (deferredInvocation unit)])) =
        .ok [.emit (deferredExpr (deferredInvocation unit) 1)] ∧
      ∀ (h : Host) (scope : Scope) (mem : Memory),
        scope.lookup? h.data deferredName = some (.function .deferred) →
          ((deferredExpr (deferredInvocation unit) 1).eval h scope).GivesIn mem
            (.deferred (deferredInvocation unit)) :=
  ⟨parse_expressionBlock (Operand.deferred 1 146 _).code,
    fun _ _ _ hdeferred => gives_deferred hdeferred _ _⟩

/-! ## A component that is given a slot -/

section

variable {label unit : Text} {caller : Value} {others : List (Text × Value)}

/-- The props of a component that is given a slot, behind others. -/
def slotProps (others : List (Text × Value)) (label unit : Text) (caller : Value) :
    List (Text × Value) :=
  others ++ [(label, .deferred (deferredInvocation unit)), (callerVar, caller)]

theorem last?_slotProps (x : Text) :
    Value.last? x (slotProps others label unit caller) =
      if callerVar = x then some caller
      else if label = x then some (.deferred (deferredInvocation unit))
      else Value.last? x others := by
  have hnil : ∀ x, Value.last? x [] = none := fun _ => rfl
  rw [slotProps, Value.last?_append, Value.last?_cons, Value.last?_cons, hnil]
  split
  · rfl
  · split <;> simp

theorem last?_slotProps_label (hlabel : isComponentName label = true) :
    Value.last? label (slotProps others label unit caller) =
      some (.deferred (deferredInvocation unit)) := by
  have hcaller : callerVar ≠ label := (ne_of_isComponentName hlabel rfl).symm
  rw [last?_slotProps, if_neg hcaller, if_pos rfl]

/-- Definitions can be invoked in the scope of the component, if nothing that it is given
hides the function. -/
theorem lookup?_invoke_of_ne (unit : Text) (caller : Value) (hlabel : label ≠ invokeName)
    (hinvoke : ∀ e ∈ others, e.1 ≠ invokeName) (name : Text) (blocks : List BlockStack) :
    (Scope.start name blocks).lookup?
      (Value.ofNamed (slotProps others label unit caller)).scope invokeName =
        some (.function .invoke) := by
  rw [lookup?_scope, if_neg (by decide), last?_slotProps, if_neg (by decide), if_neg hlabel,
    Value.last?_eq_none hinvoke]
  rfl

theorem lookup?_invoke_slotProps (unit : Text) (caller : Value)
    (hlabel : isComponentName label = true) (hinvoke : ∀ e ∈ others, e.1 ≠ invokeName)
    (name : Text) (blocks : List BlockStack) :
    (Scope.start name blocks).lookup?
      (Value.ofNamed (slotProps others label unit caller)).scope invokeName =
        some (.function .invoke) :=
  lookup?_invoke_of_ne unit caller (ne_of_isComponentName hlabel rfl) hinvoke name blocks

/-- The slot's source is what is run under the label, whatever the namespace holds. -/
theorem Namespace.invokedBody?_slotProps (ns : Namespace) (hlabel : isComponentName label = true)
    (hslots : ∀ e ∈ others, e.1 ≠ slotsVar) :
    ns.invokedBody? label (.ofNamed (slotProps others label unit caller)) =
      some [.emit (invokeExpr unit callerVar 1)] := by
  have hown : installedBody? label
      (Value.ofNamed (slotProps others label unit caller)).slotSources =
        some [.emit (invokeExpr unit callerVar 1)] := by
    rw [Value.installedBody?_slotSources hlabel, last?_slotProps_label hlabel]
    simp [Value.source?, parse_deferredInvocation, Except.toOption]
  have hmore : (Value.ofNamed (slotProps others label unit caller)).member? slotsVar = none := by
    rw [Value.member?_ofNamed, last?_slotProps, if_neg (by decide),
      if_neg (ne_of_isComponentName hlabel rfl), Value.last?_eq_none hslots]
  rw [invokedBody?, Value.allSlotSources, hmore, Option.map_none, Option.getD_none,
    List.append_nil, hown]
  rfl

/-- **Under the label runs the slot's definition**, with the caller's data. -/
theorem Namespace.gives_slotProps (ns : Namespace) (levels : Nat)
    (hlabel : isComponentName label = true) (hinvoke : ∀ e ∈ others, e.1 ≠ invokeName)
    (hslots : ∀ e ∈ others, e.1 ≠ slotsVar) :
    (ns.partialRun ((Base.finished ns).invoke levels) label
      (.ofNamed (slotProps others label unit caller))).Gives
        ((Base.finished ns).invoke levels unit caller.asProps).text := by
  have hunit := ((Base.finished ns).appends_invoke levels unit caller.asProps).gives_contained unit
  refine gives_partialRun (ns.invokedBody?_slotProps hlabel hslots) fun library => ?_
  let text := ((Base.finished ns).invoke levels unit caller.asProps).text
  refine gives_render_emit (v := .ofMarkup text) fun h hinvoker hdata => ?_
  have hfunction := lookup?_invoke_slotProps unit caller hlabel hinvoke label []
  rw [← hdata] at hfunction
  have hlast : Value.last? callerVar (slotProps others label unit caller) = some caller := by
    rw [last?_slotProps, if_pos rfl]
  have hcaller : ((Expr.var callerVar 1).eval h (.start label [])).Gives caller := by
    rw [Expr.eval, hdata, Scope.lookup, lookup?_scope, if_neg (by decide), hlast]
    exact .refresh caller
  refine gives_invoke_asProps hfunction unit hcaller ?_ 1
  rw [hinvoker]
  exact hunit

end

/-! ## Placeholders -/

/-- What a placeholder is read as. -/
theorem parse_placeholder (label : Text) :
    parse (placeholder label) = .ok [.emit (.ifElse (isGivenExpr label 1)
      (invokeExpr label Attribute.contextVar 1) none)] :=
  parse_expressionBlock (Code.placeholder 1 146 label)

/-- A placeholder whose label is named like a component runs the slot's definition. -/
theorem Namespace.gives_placeholder_slotProps (ns : Namespace) (k : Nat) {label : Text}
    (hlabel : isComponentName label = true) (unit : Text) (caller : Value)
    {others : List (Text × Value)} (hinvoke : ∀ e ∈ others, e.1 ≠ invokeName)
    (hslots : ∀ e ∈ others, e.1 ≠ slotsVar) (library : Library) (name : Text) :
    (Template.render library ((Base.finished ns).invoke (invocationLimit - k)) name
      [.emit (.ifElse (isGivenExpr label 1) (invokeExpr label Attribute.contextVar 1) none)]
      (Value.ofNamed (slotProps others label unit caller)).scope).Gives
        ((Base.finished ns).invoke (invocationLimit - (k + 1)) unit caller.asProps).text := by
  have hcontained : (Function.contained label ((Base.finished ns).invoke (invocationLimit - k) label
      (.ofNamed (slotProps others label unit caller)))).Gives
        (.ofMarkup
          ((Base.finished ns).invoke (invocationLimit - (k + 1)) unit caller.asProps).text) := by
    rw [Nat.sub_succ]
    cases invocationLimit - k with
    | zero => exact .contained_fail label _
    | succ levels => exact (ns.gives_slotProps levels hlabel hinvoke hslots).contained label
  exact gives_render_placeholder (lookup?_invoke_slotProps unit caller hlabel hinvoke name [])
    (last?_slotProps_label hlabel) rfl hcontained

/-- **A placeholder that is filled writes what the slot's definition gives for the
caller's data**, `k` levels deep and one level below: the text as it is, and no text if
the invocation fails. -/
theorem Namespace.render_placeholder (ns : Namespace) (k : Nat) {label : Text}
    (hlabel : isComponentName label = true) {slots : Slots} {unit : Text}
    (hslot : (label, unit) ∈ slots.entries) (caller : Value) {others : List (Text × Value)}
    (hinvoke : ∀ e ∈ others, e.1 ≠ invokeName) (hslots : ∀ e ∈ others, e.1 ≠ slotsVar) :
    ∃ source e given body,
      (label, source) ∈ slots.propEntries ∧
      parse (expressionBlock source) = .ok [.emit e] ∧
      (∀ (h : Host) (scope : Scope) (mem : Memory),
        scope.lookup? h.data deferredName = some (.function .deferred) →
          (e.eval h scope).GivesIn mem given) ∧
      parse (placeholder label) = .ok body ∧
      ∀ (library : Library) (name : Text),
        (Template.render library ((Base.finished ns).invoke (invocationLimit - k)) name body
          (Value.ofNamed (others ++ [(label, given), (callerVar, caller)])).scope).Gives
            ((Base.finished ns).invoke (invocationLimit - (k + 1)) unit caller.asProps).text := by
  obtain ⟨hparse, hgiven⟩ := gives_deferredInvocation unit
  exact ⟨_, _, _, _, Slots.mem_propEntries hslot, hparse, hgiven, parse_placeholder label,
    ns.gives_placeholder_slotProps k hlabel unit caller hinvoke hslots⟩

/-- A namespace whose definition shows the data that it is run with. -/
def Namespace.showing : Namespace :=
  ⟨[⟨['u'], expressionBlock Attribute.contextVar, [.emit (.var Attribute.contextVar 1)]⟩]⟩

/-- The content of a slot of a page without data. -/
theorem Namespace.render_placeholder_showing :
    isComponentName ['L'] = true ∧ (['L'], ['u']) ∈ Slots.entries ⟨[(['L'], ['u'])], []⟩ ∧
      (∀ e ∈ [(['x'], Value.undefined)], e.1 ≠ invokeName) ∧
      (∀ e ∈ [(['x'], Value.undefined)], e.1 ≠ slotsVar) ∧
      ((Base.finished showing).invoke (invocationLimit - 63) ['u'] (.bool true)).text =
        ['t', 'r', 'u', 'e'] ∧
      ∃ source e given body,
        (['L'], source) ∈ Slots.propEntries ⟨[(['L'], ['u'])], []⟩ ∧
        parse (expressionBlock source) = .ok [.emit e] ∧
        (∀ (h : Host) (scope : Scope) (mem : Memory),
          scope.lookup? h.data deferredName = some (.function .deferred) →
            (e.eval h scope).GivesIn mem given) ∧
        parse (placeholder ['L']) = .ok body ∧
        ∀ (library : Library) (name : Text),
          (Template.render library ((Base.finished showing).invoke (invocationLimit - 62)) name body
            (Value.ofNamed ([(['x'], .undefined)] ++
              [(['L'], given), (callerVar, .bool true)])).scope).Gives
                ((Base.finished showing).invoke (invocationLimit - 63) ['u']
                  (Value.bool true).asProps).text :=
  ⟨by decide, by decide, by decide, by decide, by decide +kernel,
    showing.render_placeholder 62 (by decide) (by decide) (.bool true) (by decide) (by decide)⟩

/-- **No data and undefined data are one for a placeholder**: where the caller is none, the
slot's definition does not see it. -/
theorem Namespace.render_placeholder_none_ne :
    ∃ body, parse (placeholder ['L']) = .ok body ∧
      (Template.render showing.library ((Base.finished showing).invoke invocationLimit) ['C'] body
        (Value.ofNamed [(['L'], .deferred (deferredInvocation ['u'])),
          (callerVar, .none)]).scope).result.1.toOption = some [] ∧
      ((Base.finished showing).invoke (invocationLimit - 1) ['u'] .none).text =
        ['n', 'o', 'n', 'e'] :=
  ⟨_, parse_placeholder ['L'], by decide +kernel, by decide +kernel⟩

end Componentry
