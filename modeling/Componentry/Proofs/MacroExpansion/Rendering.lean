import Componentry.Proofs.MacroExpansion.Simulation
import Componentry.Proofs.Slots.Installation

/-! # Rendering a project is macro expansion

Running the definitions of a project writes what expansion says, level by level
(`writes_expand`).  Invoking a component runs its body one level deeper
(`gives_component`).  Invoking a slot runs the slot's definition in the caller's
environment two levels deeper (`gives_slot`), since the source installed under the
label is an invocation itself.

Hence rendering a page of a compiled project of plain trees with data gives the macro
expansion of the page (`Compiled.render_eq_expand`).
-/
namespace Componentry

open Template Run

/-! ## Running definitions in environments -/

section

variable {names : List Text} {units : List (Text × List Fragment)} {ns : Namespace}
  {invoker : Invoker} {env : Environment} {slots : List HeldSlot} {caller : Value}

/-- A definition that no slot is labelled like runs as it is in the namespace. -/
theorem gives_definition (h : IsLaidOut names units env slots caller)
    {u : Text × List Fragment} (hu : ns.Holds u) (hname : env.slot? u.1 = none) {out : Text}
    (hshows : Shows invoker (Value.ofNamed (layout env slots caller)).scope u.2 out) :
    (ns.partialRun invoker u.1 (.ofNamed (layout env slots caller))).Gives out := by
  have hsources : ∀ s ∈ (Value.ofNamed (layout env slots caller)).allSlotSources, s.1 ≠ u.1 := by
    intro s hs heq
    obtain ⟨slot, hslot, hlabel, -⟩ := h.mem_allSlotSources.1 hs
    obtain ⟨outer, houter, -⟩ := h.given slot hslot
    rw [hlabel, heq, hname] at houter
    cases houter
  obtain ⟨t, ht, hbody⟩ := hu
  have hstands : ns.body? u.1 = some (Fragment.statements [] u.2) := by
    rw [Namespace.body?, ht, Option.map_some, hbody]
  exact Namespace.gives_partialRun ((ns.invokedBody?_eq_body? hsources).trans hstands)
    fun library => hshows.gives_render library u.1

/-- Under the label of a slot runs the slot's source. -/
theorem invokedBody?_label (h : IsLaidOut names units env slots caller) {slot : HeldSlot}
    (hslot : slot ∈ slots) (ns : Namespace) :
    ns.invokedBody? slot.label (.ofNamed (layout env slots caller)) =
      some [.emit (invokeExpr slot.unit callerVar 1)] := by
  have hmem := h.mem_allSlotSources.2 ⟨slot, hslot, rfl, rfl⟩
  have honly : ∀ s ∈ (Value.ofNamed (layout env slots caller)).allSlotSources,
      s.1 = slot.label → s.2 = deferredInvocation slot.unit := by
    intro s hs heq
    obtain ⟨slot', hslot', hlabel, hsource⟩ := h.mem_allSlotSources.1 hs
    -- Labels are distinct, so the source is that of the slot.
    have hlast := last?_slot h.held caller hslot'
    rw [hlabel, heq, last?_slot h.held caller hslot] at hlast
    rw [hsource, ← Value.deferred.inj (Option.some.inj hlast)]
  rw [Namespace.invokedBody?, installedBody?_eq hmem honly, parse_deferredInvocation]
  rfl

/-- Running the label of a slot invokes the slot's definition with the caller's
value. -/
theorem gives_label (h : IsLaidOut names units env slots caller) {slot : HeldSlot}
    (hslot : slot ∈ slots) {out : Text}
    (hrun : (Function.contained slot.unit (invoker slot.unit caller)).Gives (.ofMarkup out)) :
    (ns.partialRun invoker slot.label (.ofNamed (layout env slots caller))).Gives out := by
  obtain ⟨outer, -, houter⟩ := h.given slot hslot
  have hmap : caller.isMissing = false := by
    obtain ⟨outerSlots, outerCaller, rfl, -⟩ := houter.isLaidOut
    exact Value.isMissing_ofNamed _
  refine Namespace.gives_partialRun (invokedBody?_label h hslot ns) fun library => ?_
  refine gives_render_emit (v := .ofMarkup out) fun host hinvoker hdata => ?_
  have hinvoke : (Scope.start slot.label []).lookup? host.data invokeName =
      some (.function .invoke) :=
    lookup?_function slot.label [] h hdata (by decide) (by decide) (by decide) (by decide)
  have hcaller : ((Expr.var callerVar 1).eval host (.start slot.label [])).Gives caller := by
    rw [Expr.eval, hdata, h.lookup_caller (List.ne_nil_of_mem hslot)]
    exact .refresh caller
  rw [← hinvoker] at hrun
  exact gives_invoke hinvoke slot.unit hcaller hmap hrun 1

theorem slot?_of_underscore (h : IsLaidOut names units env slots caller) {name : Text}
    (hname : '_' ∈ name) : env.slot? name = none := by
  refine h.none name ?_
  rintro slot hslot rfl
  have hlabel := h.held.label slot hslot
  simp only [isLabel, Bool.and_eq_true] at hlabel
  exact underscore_notMem_plainName hlabel.1 hname

end

/-! ## Levels -/

section

variable {bodies : List (Text × Markup)} {ns : Namespace}

/-- Running writes the expansion, with so many levels left. -/
def Expands (bodies : List (Text × Markup)) (ns : Namespace) (levels : Nat) : Prop :=
  ∀ env v m fragments, Represents (bodies.map Prod.fst) (projectDefinitions bodies) env v →
    Translates (bodies.map Prod.fst) (projectDefinitions bodies) m fragments →
    Shows ((Base.finished ns).invoke levels) v.scope fragments (expand bodies levels env m)

theorem bodyOf_of_mem (h : isProject bodies = true) {body : Text × Markup} (hbody : body ∈ bodies) :
    bodyOf bodies body.1 = body.2 := by
  rw [bodyOf, find?_of_nodup Prod.fst (isProject_nodup h) hbody]
  rfl

/-- Invoking a component runs its body one level deeper. -/
theorem gives_component (h : isProject bodies = true)
    (hns : ∀ u ∈ projectDefinitions bodies, ns.Holds u) {levels : Nat}
    (hlevel : Expands bodies ns levels) {name : Text} {env : Environment} {v : Value}
    (hname : name ∈ bodies.map Prod.fst)
    (hslot : env.slot? name = none)
    (henv : Represents (bodies.map Prod.fst) (projectDefinitions bodies) env v) :
    ((Base.finished ns).invoke (levels + 1) name v).Gives
      (expand bodies levels env (bodyOf bodies name)) := by
  obtain ⟨body, hbody, rfl⟩ := List.mem_map.1 hname
  have hown : (body.1, (body.2.translate body.1 0).1) ∈ projectDefinitions bodies :=
    mem_projectDefinitions hbody
  have hshows := hlevel env v body.2 _ henv (translates_body h hbody).1
  rw [bodyOf_of_mem h hbody]
  obtain ⟨slots, caller, rfl, hlaid⟩ := henv.isLaidOut
  exact gives_definition hlaid (hns _ hown) hslot hshows

/-- Invoking a slot runs its definition in the caller's environment two levels
deeper. -/
theorem gives_slot (hns : ∀ u ∈ projectDefinitions bodies, ns.Holds u) {levels : Nat}
    (hlevel : Expands bodies ns levels) {label : Text} {env outer : Environment} {v : Value}
    {parts : List Markup}
    (hslot : env.slot? label = some (parts, outer))
    (henv : Represents (bodies.map Prod.fst) (projectDefinitions bodies) env v) :
    ((Base.finished ns).invoke (levels + 2) label v).Gives
      (parts.flatMap (expand bodies levels outer)) := by
  obtain ⟨slots, caller, rfl, hlaid⟩ := henv.isLaidOut
  obtain ⟨slot, hmem, rfl, rfl, hcaller⟩ := hlaid.exists_slot hslot
  obtain ⟨outerSlots, outerCaller, rfl, houterLaid⟩ := hcaller.isLaidOut
  -- The parts of the slot stand in a row in its definition.
  have hshows : ∀ parts : List (Markup × List Fragment),
      (∀ part ∈ parts, Translates (bodies.map Prod.fst) (projectDefinitions bodies) part.1 part.2) →
      Shows ((Base.finished ns).invoke levels)
        (Value.ofNamed (layout outer outerSlots outerCaller)).scope (parts.flatMap Prod.snd)
        ((parts.map Prod.fst).flatMap (expand bodies levels outer)) := by
    intro parts hparts host hinvoker hdata template blocks
    induction parts with
    | nil => exact .nil
    | cons part parts ih =>
      rw [List.forall_mem_cons] at hparts
      have hpart := hlevel outer _ part.1 part.2 hcaller hparts.1
      exact (hpart host hinvoker hdata template blocks).append (ih hparts.2)
  refine gives_label hlaid hmem (GivesIn.contained ?_ slot.unit)
  exact gives_definition houterLaid (hns _ (hlaid.held.definition slot hmem))
    (slot?_of_underscore houterLaid (hlaid.held.unit slot hmem))
    (hshows slot.parts (hlaid.parts slot hmem))

/-- **Running writes the expansion**, whatever number of levels is left. -/
theorem writes_expand (h : isProject bodies = true)
    (hns : ∀ u ∈ projectDefinitions bodies, ns.Holds u) : ∀ levels, Expands bodies ns levels
  | 0 => by
    intro env v m fragments henv hm
    refine writes_expandWith henv ?_ ?_ (fun _ _ => rfl) hm
    · intro name inner w _ _ _
      exact GivesIn.contained_fail name (.tooDeep name)
    · intro label _
      exact GivesIn.contained_fail label (.tooDeep label)
  | 1 => by
    have hlevel := writes_expand h hns 0
    intro env v m fragments henv hm
    refine writes_expandWith henv ?_ ?_ (fun _ _ => rfl) hm
    · intro name inner w hname hslot hinner
      exact (gives_component h hns hlevel hname hslot hinner).contained name
    · -- The label is reached, but the slot's definition is one level too deep.
      intro label hgiven
      obtain ⟨⟨parts, outer⟩, hslot⟩ := Option.isSome_iff_exists.1 hgiven
      obtain ⟨slots, caller, rfl, hlaid⟩ := henv.isLaidOut
      obtain ⟨slot, hmem, rfl, -, -⟩ := hlaid.exists_slot hslot
      exact (gives_label hlaid hmem (GivesIn.contained_fail slot.unit _)).contained slot.label
  | levels + 2 => by
    have hlevel := writes_expand h hns (levels + 1)
    have hlevel' := writes_expand h hns levels
    intro env v m fragments henv hm
    refine writes_expandWith henv ?_ ?_ ?_ hm
    · intro name inner w hname hslot hinner
      exact (gives_component h hns hlevel hname hslot hinner).contained name
    · intro label hgiven
      obtain ⟨⟨parts, outer⟩, hslot⟩ := Option.isSome_iff_exists.1 hgiven
      simp only [hslot]
      exact (gives_slot hns hlevel' hslot henv).contained label
    · intro label hnone
      simp only [hnone]

end

/-! ## Pages -/

theorem isSafe_ofJson (j : Json) : (Value.ofJson j).isSafe = false := by
  cases j <;> rfl

namespace Compiled

/-- What is rendered of a definition is what its statements give. -/
theorem render_of_gives {c : Compiled} {name : Text} {t : NamedTemplate}
    (ht : c.globals.find? name = some t) {data : Value} {out : Text}
    (h : (Template.render c.globals.library (c.base.invoke invocationLimit) name t.body
      data.scope).Gives out) :
    (c.render name data).1 = .ok out := by
  obtain ⟨events, hevents⟩ := h.exists_result
  rw [render_of_result ht hevents]
  rfl

/-- What is rendered of a page, where the definitions of its project stand. -/
theorem render_of_holds {bodies : List (Text × Markup)} (hproject : isProject bodies = true)
    {c : Compiled} (hbase : c.base = .finished c.globals)
    (hholds : ∀ u ∈ projectDefinitions bodies, c.globals.Holds u)
    {body : Text × Markup} (hbody : body ∈ bodies) {fields : List (Text × Json)}
    (hfields : ∀ f ∈ fields, isVariable f.1 = true) :
    (c.render body.1 (.ofJson (.object fields))).1 =
      .ok (expand bodies invocationLimit (.page (fields.map fun f => (f.1, .ofJson f.2)))
        body.2) := by
  have hvalues : AreVariables (fields.map fun f => (f.1, Value.ofJson f.2)) := by
    intro e he
    obtain ⟨f, hf, rfl⟩ := List.mem_map.1 he
    exact ⟨hfields f hf, isSafe_ofJson f.2⟩
  have hshows := writes_expand hproject hholds invocationLimit _ _ body.2 _ (.page hvalues)
    (translates_body hproject hbody).1
  obtain ⟨t, ht, hstatements⟩ := hholds _ (mem_projectDefinitions hbody)
  have hgives := hshows.gives_render c.globals.library body.1
  rw [← hstatements, ← Value.ofJson_object, ← hbase] at hgives
  exact render_of_gives ht hgives

/-- **Rendering is macro expansion.**  Take a project of plain trees, and a unit for
each of its bodies that holds the body's text.  Its units compile, and what is rendered
of a page with the data of a JSON object is the expansion of the page in the
environment of the data, with as many levels as invocations may nest. -/
theorem render_eq_expand (bodies : List (Text × Markup)) (units : List SourceUnit)
    (hproject : isProject bodies = true)
    (hunits : units.map (fun u => (u.name, u.raw)) =
      bodies.map fun body => (body.1, body.2.source .author))
    (page : Text) (hpage : page ∈ bodies.map Prod.fst)
    (fields : List (Text × Json)) (hfields : ∀ f ∈ fields, isVariable f.1 = true) :
    ∃ c, ofUnits units = .ok c ∧
      (c.render page (.ofJson (.object fields))).1 =
        .ok (expand bodies invocationLimit (.page (fields.map fun f => (f.1, .ofJson f.2)))
          (bodyOf bodies page)) := by
  obtain ⟨c, hc, hholds⟩ := ofUnits_project hproject hunits
  obtain ⟨body, hbody, rfl⟩ := List.mem_map.1 hpage
  refine ⟨c, hc, ?_⟩
  rw [bodyOf_of_mem hproject hbody]
  exact render_of_holds hproject (base_of_ofRegistry hc) hholds hbody hfields

/-- A component that shows its default slot and a variable, and a page with one card
in another. -/
def cards : List (Text × Markup) :=
  [("Card".toList,
      .text ['['] (.place none (.text ['|'] (.print ['x'] (.text [']'] .nil))))),
    ("page".toList,
      .paired "Card".toList [(['x'], .text ['1'])]
        (.last (.paired "Card".toList [(['x'], .var ['u'])] (.last (.print ['u'] .nil)) .nil)) .nil)]

/-- The units of bodies. -/
def unitsOf (bodies : List (Text × Markup)) : List SourceUnit :=
  bodies.map fun body => ⟨body.1, body.1, body.2.source .author⟩

theorem render_cards_eq_expand :
    isProject cards = true ∧ ∃ c, ofUnits (unitsOf cards) = .ok c ∧
      (c.render "page".toList (.ofJson (.object [(['u'], .string ['<'])]))).1 =
        .ok "[[&lt;|&lt;]|1]".toList := by
  have hproject : isProject cards = true := by decide
  obtain ⟨c, hc, hrender⟩ := render_eq_expand cards (unitsOf cards) hproject rfl "page".toList
    (by decide) [(['u'], .string ['<'])] (by decide)
  exact ⟨hproject, c, hc, hrender.trans rfl⟩

end Compiled

end Componentry
