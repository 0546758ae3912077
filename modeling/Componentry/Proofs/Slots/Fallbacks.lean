import Componentry.Proofs.MacroExpansion.Exceptions

/-! # What a placeholder writes when nothing is given

A placeholder with a fallback writes the fallback unless its label is a key of what the
component is given.  A tag that closes itself gives its attributes and no slots, so the
fallback is written unless an attribute has the label for its key
(`Compiled.render_fallback`).  Such an attribute is data and not the source of a slot, so
that in the place of the fallback nothing is written (`Compiled.rendered_ne_fallback`).
-/
namespace Componentry

open Template

/-- A map of texts carries no slot sources. -/
theorem Template.Value.allSlotSources_texts (texts : List (Text × Text)) :
    (ofNamed (texts.map fun a => (a.1, ofText a.2))).allSlotSources = [] := by
  have htext : ∀ {x v}, last? x (texts.map fun a => (a.1, ofText a.2)) = some v →
      ∃ s, v = ofText s := by
    intro x v hlast
    obtain ⟨a, -, heq⟩ := List.mem_map.1 (mem_of_last? hlast)
    exact ⟨a.2, (Prod.mk.inj heq).2.symm⟩
  have hown : (ofNamed (texts.map fun a => (a.1, ofText a.2))).slotSources = [] := by
    rw [List.eq_nil_iff_forall_not_mem]
    rintro ⟨label, source⟩ hmem
    obtain ⟨s, hs⟩ := htext (mem_slotSources_ofNamed.1 hmem).2
    cases hs
  rw [allSlotSources, hown, List.nil_append, member?_ofNamed]
  cases hmore : last? slotsVar (texts.map fun a => (a.1, ofText a.2)) with
  | none => rfl
  | some v =>
    obtain ⟨s, rfl⟩ := htext hmore
    rfl

/-- A slot marker with a fallback expands to a condition, and nothing else. -/
theorem Expansion.ofText_fallback {r : Registry} (owner : Text) (count : Nat) {slot fallback : Text}
    (hslot : '"' ∉ slot) (hfallback : isPlainText fallback = true) :
    ofText r owner count (expandMarkers (slotMarker (some slot) ++ (fallback ++ endSlotTag))) =
      ⟨placeholderWithFallback (slotLabel slot) fallback, [], []⟩ := by
  rw [expandMarkers_fallback (by simpa using hslot) (Marker.brace_notMem_text hfallback)]
  exact ofText_skips owner count (.placeholderWithFallback _ hfallback)

namespace Compiled

/-- **A placeholder that nothing is given for renders its fallback.**  Let a component be a
placeholder with a fallback, and a page a tag of it that closes itself, both defined once,
in a project of any other definitions.  Unless the label of the slot is the key of an
attribute, the page renders as the fallback. -/
theorem render_fallback {units : List SourceUnit} {component page slot fallback : Text}
    {attributes : List (Text × Text)} (hname : isComponentName component = true)
    (hchars : component.all Tag.isNameChar = true) (hslot : '"' ∉ slot)
    (hfallback : isPlainText fallback = true)
    (hattributes : (textAttributes attributes).all Operand.isReadable = true)
    (hcount : attributes.length ≤ 1000) (hkeys : ∀ a ∈ attributes, a.1 ≠ slotLabel slot)
    (hcomponent : Defines (.ofUnits units) units component
      (slotMarker (some slot) ++ (fallback ++ endSlotTag)))
    (hpage : Defines (.ofUnits units) units page
      (singleTag component (textAttributes attributes)))
    {fields : List (Text × Json)}
    (hfields : ∀ f ∈ fields, f.1 ≠ invokeName ∧ f.1 ≠ Props.dictName) :
    ∃ c, ofUnits units = .ok c ∧
      (c.render page (.ofJson (.object fields))).1 = .ok fallback := by
  obtain ⟨c, hc⟩ := ofRegistry_ok (.ofUnits units) units
  refine ⟨c, hc, ?_⟩
  have hinvokes : (Registry.ofUnits units).invokes component = true := by
    obtain ⟨u, hu, hmem⟩ := hcomponent.mem
    rw [Registry.invokes, hname, Registry.contains_ofUnits hu (List.mem_map.2 ⟨_, hmem, rfl⟩)]
    rfl
  have hbody := hcomponent.body? hc (fun owner count =>
    Expansion.ofText_fallback owner count hslot hfallback)
    (parse_placeholderWithFallback (slotLabel slot) (Marker.brace_notMem_text hfallback))
  have htag := body?_singleTag hc (Tag.isName_of_isComponentName hname hchars) hinvokes hattributes
    hcount hpage
  refine render_tag (base_of_ofRegistry hc) htag (fun f hf => ⟨(hfields f hf).1, (hfields f hf).2, by simp⟩) ?_
  have hprops : slotValues [] (.ofJson (.object fields)) = [] := rfl
  have hgiven : Value.last? (slotLabel slot) (attributes.map fun a => (a.1, Value.ofText a.2)) =
      none := Value.last?_eq_none (List.forall_mem_map.2 hkeys)
  rw [hprops, List.append_nil]
  refine Namespace.gives_partialRun ((c.globals.invokedBody?_eq_body? ?_).trans hbody)
    fun library => gives_render_fallback library _ _ hgiven _ fallback
  rw [Value.allSlotSources_texts]
  exact List.forall_mem_nil _

/-- A component that is a placeholder with a fallback, and a page that is a tag of it with
the given attributes. -/
def noted (attributes : List (Text × Text)) : List SourceUnit :=
  [⟨['P'], ['P'], slotMarker (some "title".toList) ++ ("none".toList ++ endSlotTag)⟩,
    ⟨['p'], ['p'], singleTag ['P'] (textAttributes attributes)⟩]

theorem invokes_noted (attributes : List (Text × Text)) :
    (Registry.ofUnits (noted attributes)).invokes ['P'] = true := by
  have hname : ['P'] ∈ (SourceUnit.rawDefinitions
      ⟨['P'], ['P'], slotMarker (some "title".toList) ++ ("none".toList ++ endSlotTag)⟩).map
      Prod.fst := by
    decide +kernel
  have hregistered : (Registry.ofUnits (noted attributes)).contains ['P'] = true :=
    Registry.contains_ofUnits List.mem_cons_self hname
  rw [Registry.invokes, hregistered]
  rfl

theorem defines_noted {attributes : List (Text × Text)}
    (h : (textAttributes attributes).all Operand.isReadable = true) :
    Defines (.ofUnits (noted attributes)) (noted attributes) ['P']
        (slotMarker (some "title".toList) ++ ("none".toList ++ endSlotTag)) ∧
      Defines (.ofUnits (noted attributes)) (noted attributes) ['p']
        (singleTag ['P'] (textAttributes attributes)) := by
  have hinvokes := invokes_noted attributes
  generalize Registry.ofUnits (noted attributes) = r at hinvokes ⊢
  refine defines_singleTag ?_ ?_ rfl ?_ (by decide) hinvokes h
  · decide +kernel
  · rw [Expansion.ofText_fallback ['P'] 0 (by decide) (by decide)]
  · show ['P'] ≠ ['p']
    decide

/-- A tag with attributes that are named like the functions and the variables of its
call. -/
theorem render_noted_fallback :
    isComponentName ['P'] = true ∧
      (textAttributes [(invokeName, ['1']), (Attribute.contextVar, ['2'])]).all
        Operand.isReadable = true ∧
      (∀ a ∈ [(invokeName, ['1']), (Attribute.contextVar, ['2'])],
        a.1 ≠ slotLabel "title".toList) ∧
      ∃ c, ofUnits (noted [(invokeName, ['1']), (Attribute.contextVar, ['2'])]) = .ok c ∧
        (c.render ['p'] (.ofJson (.object [("Title".toList, .string ['x'])]))).1 =
          .ok "none".toList := by
  have hread : (textAttributes [(invokeName, ['1']), (Attribute.contextVar, ['2'])]).all
      Operand.isReadable = true := by decide
  have hkeys : ∀ a ∈ [(invokeName, ['1']), (Attribute.contextVar, ['2'])],
      a.1 ≠ slotLabel "title".toList := by decide
  exact ⟨by decide, hread, hkeys, render_fallback (by decide) (by decide) (by decide) (by decide)
    hread (by decide) hkeys (defines_noted hread).1 (defines_noted hread).2 (by decide)⟩

/-- **An attribute whose key is the label takes the place of the fallback with nothing, and
a tag with 1001 attributes is shown as it is written.** -/
theorem rendered_ne_fallback :
    rendered (noted [("Title".toList, ['x'])]) ['p'] = some [] ∧
      rendered (noted (List.replicate 1001 (['k'], []))) ['p'] =
        some (singleTag ['P'] (textAttributes (List.replicate 1001 (['k'], [])))) := by
  refine ⟨by decide +kernel, rendered_eq ?_⟩
  have hread : (textAttributes (List.replicate 1001 (['k'], []))).all Operand.isReadable = true := by
    rw [textAttributes, List.map_replicate]
    exact List.all_eq_true.2 fun a ha => by rw [List.eq_of_mem_replicate ha]; decide
  obtain ⟨c, hc⟩ := ofRegistry_ok (.ofUnits (noted (List.replicate 1001 (['k'], []))))
    (noted (List.replicate 1001 (['k'], [])))
  exact ⟨c, hc, render_overfullTag hc (by decide) (invokes_noted _) hread
    (by rw [List.length_replicate]; decide) (defines_noted hread).2 _⟩

end Compiled

end Componentry
