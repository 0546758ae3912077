import Componentry.Proofs.Slots.Pages

/-! # Components and the slots that they are given

The sources of slots are installed beside the definitions of a project, and before the
component that they are given to is looked up.  So a component runs its own definition
unless the label of one of its slots is its name (`Compiled.render_own`); a slot whose label
is the component's name is what runs in the component's place
(`Compiled.rendered_ne_own`).
-/
namespace Componentry

open Template

/-! ## Slot sources of a tag -/

/-- The slot sources that a tag hands over are those of its slots. -/
theorem exists_slot_of_mem_sources {slots : List (Text × Text)} {data : Value} {s : Text × Text}
    (h : s ∈ (Value.ofNamed (slotValues slots data)).allSlotSources) : ∃ e ∈ slots, e.1 = s.1 := by
  have hvalue : ∀ {x v}, Value.last? x (slotValues slots data) = some v →
      (∃ e ∈ slots, e.1 = x ∧ v = .deferred (deferredInvocation e.2)) ∨ x = callerVar := by
    intro x v hlast
    have hmem := Value.mem_of_last? hlast
    unfold slotValues at hmem
    split at hmem
    · cases hmem
    · rcases List.mem_append.1 hmem with hmem | hmem
      · obtain ⟨e, he, heq⟩ := List.mem_map.1 hmem
        cases heq
        exact Or.inl ⟨e, he, rfl, rfl⟩
      · exact Or.inr (Prod.mk.inj (List.mem_singleton.1 hmem)).1
  rcases List.mem_append.1 h with h | h
  · obtain ⟨hname, hlast⟩ := Value.mem_slotSources_ofNamed.1 h
    rcases hvalue hlast with ⟨e, he, heq, -⟩ | hcaller
    · exact ⟨e, he, heq⟩
    · rw [hcaller] at hname
      cases hname
  · -- What stands under the variable for sources made of texts is no map.
    rw [Value.member?_ofNamed] at h
    cases hmore : Value.last? slotsVar (slotValues slots data) with
    | none =>
      rw [hmore] at h
      cases h
    | some v =>
      rw [hmore] at h
      rcases hvalue hmore with ⟨e, -, -, rfl⟩ | hcaller
      · cases h
      · exact absurd hcaller (by decide)

/-! ## A tag with one slot element -/

/-- A tag whose contents are one slot element that holds text. -/
def slotted (component slot text : Text) : Markup :=
  .paired component [] (.slot .nil (some slot) (.text text .nil) (.last .nil)) .nil

theorem source_slotted (component slot text : Text) :
    (slotted component slot text).source .author =
      openingTag component [] ++ (openingTag slotTag (slotAttributes (some slot)) ++ text ++
        closingTag slotTag) ++ closingTag component := by
  simp [slotted, Markup.source, Contents.source]

theorem isWellFormed_slotted {r : Registry} {component slot text : Text}
    (hinvokes : r.invokes component = true) (hchars : component.all Tag.isNameChar = true)
    (hslot : isPlainValue slot = true) (htext : isPlainText text = true) :
    (slotted component slot text).isWellFormed r = true := by
  have hattributes : (slotAttributes (some slot)).all Operand.isWellFormed = true :=
    isWellFormed_slotAttributes hslot
  simp [slotted, Markup.isWellFormed, Contents.isWellFormed, Registry.isTag, hinvokes, hchars,
    hattributes, htext]

/-- The contents of the tag are those of one slot, or none if they are blank. -/
theorem gather_slotted (slot text : Text) :
    let pieces := [(none, []), (Slots.ofName (some slot), [Fragment.text text]), (none, [])]
    Slots.gather (·.all Fragment.isBlank) pieces = [] ∨
      ∃ parts, Slots.gather (·.all Fragment.isBlank) pieces = [(slotLabel slot, parts)] ∧
        parts.flatten = [.text text] := by
  by_cases hdefault : (Text.trim slot).isEmpty || slotLabel slot = defaultLabel
  · have hlabel : slotLabel slot = defaultLabel := by
      rw [Bool.or_eq_true] at hdefault
      rcases hdefault with hempty | hdefault
      · rw [slotLabel, List.isEmpty_iff.1 hempty]
      · exact of_decide_eq_true hdefault
    have hparts : Slots.parts [(none, []), (none, [Fragment.text text]), (none, [])] none =
        [[], [.text text], []] := by
      simp [Slots.parts]
    rw [Slots.ofName, if_pos hdefault, hlabel]
    by_cases hblank : Text.isVoid text = true
    · left
      simp [Slots.gather, hparts, Fragment.isBlank, hblank]
    · right
      exact ⟨[[], [.text text], []], by simp [Slots.gather, hparts, Fragment.isBlank, hblank],
        by simp⟩
  · right
    have hnamed : Slots.parts [(none, []), (some (slotLabel slot), [Fragment.text text]), (none, [])]
        (some (slotLabel slot)) = [[.text text]] := by
      simp [Slots.parts]
    have hloose : Slots.parts [(none, []), (some (slotLabel slot), [Fragment.text text]), (none, [])]
        none = [[], []] := by
      simp [Slots.parts]
    have hlabels : [slotLabel slot].eraseDups = [slotLabel slot] := by
      simp [List.eraseDups_cons]
    rw [Slots.ofName, if_neg hdefault]
    exact ⟨[[.text text]], by simp [Slots.gather, hlabels, hnamed, hloose], by simp⟩

/-- **A tag with one slot element expands to a call** with the slot, if there is one, and
the slot's text is a definition. -/
theorem Expansion.ofText_slotted {r : Registry} (owner : Text) (count : Nat)
    {component slot text : Text} (hinvokes : r.invokes component = true)
    (hchars : component.all Tag.isNameChar = true) (hslot : isPlainValue slot = true)
    (htext : isPlainText text = true) :
    ∃ slots : List (Text × Text),
      (slots = [] ∨
        slots = [(slotLabel slot, Slots.unitName owner component (slotLabel slot) count)]) ∧
      ofText r owner count (expandMarkers ((slotted component slot text).source .author)) =
        ⟨(Fragment.tag component [] slots).source, slots.map fun e => ⟨e.2, text⟩, []⟩ := by
  have hwell := isWellFormed_slotted hinvokes hchars hslot htext
  rw [expandMarkers_source hwell rfl, ofText_translate owner count hwell]
  rcases gather_slotted slot text with hgather | ⟨parts, hgather, hflatten⟩
  · refine ⟨[], Or.inl rfl, ?_⟩
    simp [slotted, Markup.translate, Contents.translate, hgather, Slots.number, slotUnits,
      Fragment.sources]
  · refine ⟨_, Or.inr rfl, ?_⟩
    simp [slotted, Markup.translate, Contents.translate, hgather, Slots.number, slotUnits,
      Fragment.sources, hflatten, Fragment.source]

theorem Slots.length_unitName (owner component label : Text) (n : Nat) :
    owner.length < (unitName owner component label n).length ∧
      component.length < (unitName owner component label n).length := by
  simp only [unitName, Text.join, List.length_append, List.length_cons, List.length_nil]
  omega

namespace Compiled

/-- What a page stands for that is a tag with one slot element. -/
theorem body?_slotted {r : Registry} {units : List SourceUnit} {c : Compiled}
    (hc : ofRegistry r units = .ok c) {page component slot text : Text}
    (hinvokes : r.invokes component = true) (hchars : component.all Tag.isNameChar = true)
    (hslot : isPlainValue slot = true) (htext : isPlainText text = true)
    (h : Defines r units page ((slotted component slot text).source .author)) :
    ∃ slots : List (Text × Text), (∀ e ∈ slots, e.1 = slotLabel slot) ∧
      c.globals.body? page = some (Fragment.statements [] [.tag component [] slots]) := by
  obtain ⟨u, -, count, t, ht, hparse⟩ := h.find? hc
  obtain ⟨slots, hslots, htag⟩ := Expansion.ofText_slotted u.name count hinvokes hchars hslot htext
  have hlabels : ∀ e ∈ slots, e.1 = slotLabel slot := by
    rcases hslots with rfl | rfl <;> simp
  have hcount : entryCount [] slots ≤ 1000 := by
    rcases hslots with rfl | rfl <;> simp [entryCount]
  have hbody := Fragment.parse_tag component (List.forall_mem_nil Operand.IsCode) hcount
  have haccepted : ExpandedUnit.fault? page
      ⟨(Fragment.tag component [] slots).source, slots.map fun e => ⟨e.2, text⟩, []⟩ = none := by
    rw [ExpandedUnit.fault?, fault?_eq_none hbody, Option.none_or, List.findSome?_eq_none_iff]
    exact List.forall_mem_map.2 fun e _ =>
      fault?_eq_none (parse_data (Marker.brace_notMem_text htext))
  rw [htag, haccepted, Option.isNone_none, if_pos rfl, hbody] at hparse
  exact ⟨slots, hlabels, by rw [Namespace.body?, ht, Option.map_some, Except.ok.inj hparse]⟩

/-- A component without slot markers, and a page that is a tag of it with one slot element,
give two names their texts. -/
theorem defines_slotted {r : Registry} {units : List SourceUnit} {card page : SourceUnit}
    (hunits : units.Perm [card, page]) (hne : card.name ≠ page.name)
    (hinvokes : r.invokes card.name = true) (hchars : card.name.all Tag.isNameChar = true)
    (hcard : isPlainText card.raw = true) {slot text : Text} (hslot : isPlainValue slot = true)
    (htext : isPlainText text = true)
    (hpage : page.raw = (slotted card.name slot text).source .author) :
    Defines r units card.name card.raw ∧ Defines r units page.name page.raw := by
  have hbrace := Marker.brace_notMem_text hcard
  have hmem : card ∈ units ∧ page ∈ units := by simp [hunits.mem_iff]
  have hcases : ∀ v ∈ units, v = card ∨ v = page := by simp [hunits.mem_iff]
  have hraw : ∀ v ∈ units, v.rawDefinitions = [(v.name, v.raw)] := by
    intro v hv
    rcases hcases v hv with rfl | rfl
    · exact SourceUnit.rawDefinitions_passed (.chars hbrace)
    · exact SourceUnit.rawDefinitions_source hpage
        (isWellFormed_slotted hinvokes hchars hslot htext) rfl
  -- The name of a slot holds the names of both units, so it is neither of them.
  have hlonger : ∀ v ∈ units, ∀ s ∈ (Expansion.ofText r v.name 0 (expandMarkers v.raw)).units,
      page.name.length < s.name.length ∧ card.name.length < s.name.length := by
    intro v hv s hs
    rcases hcases v hv with rfl | rfl
    · rw [expandMarkers_whole (.chars hbrace), Expansion.ofText_skips v.name 0 (.text hcard)] at hs
      cases hs
    · obtain ⟨slots, hslots, htag⟩ := Expansion.ofText_slotted v.name 0 hinvokes hchars hslot htext
      rw [hpage, htag] at hs
      rcases hslots with rfl | rfl
      · cases hs
      · rw [List.mem_singleton.1 hs]
        exact Slots.length_unitName ..
  have hnames : (units.map SourceUnit.name).Nodup :=
    (hunits.map SourceUnit.name).nodup_iff.2 (by simp [hne])
  constructor
  · exact defines_of_single hraw hnames hmem.1 fun v hv s hs heq =>
      absurd (hlonger v hv s hs).2 (by rw [heq]; exact Nat.lt_irrefl _)
  · exact defines_of_single hraw hnames hmem.2 fun v hv s hs heq =>
      absurd (hlonger v hv s hs).1 (by rw [heq]; exact Nat.lt_irrefl _)

/-- **A component that is given a slot runs its own definition**, unless the slot's label is
its name.  Let a unit be a component whose text holds no slot markers, and another unit a
page that is a tag of the component with one slot element.  Then the page renders as the
component's text, without the line break at its end. -/
theorem render_own {units : List SourceUnit} {card page : SourceUnit}
    (hunits : units.Perm [card, page]) (hne : card.name ≠ page.name)
    (hname : isComponentName card.name = true) (hchars : card.name.all Tag.isNameChar = true)
    (hcard : isPlainText card.raw = true) {slot text : Text} (hslot : isPlainValue slot = true)
    (htext : isPlainText text = true) (hlabel : slotLabel slot ≠ card.name)
    (hpage : page.raw = openingTag card.name [] ++ (openingTag slotTag (slotAttributes (some slot)) ++
      text ++ closingTag slotTag) ++ closingTag card.name)
    {fields : List (Text × Json)} (hfields : ∀ f ∈ fields, f.1 ≠ invokeName ∧
      f.1 ≠ Props.dictName ∧ f.1 ≠ deferredName) :
    ∃ c, ofUnits units = .ok c ∧
      (c.render page.name (.ofJson (.object fields))).1 = .ok (dropFinalBreak card.raw) := by
  obtain ⟨c, hc⟩ := ofRegistry_ok (.ofUnits units) units
  refine ⟨c, hc, ?_⟩
  have hbrace := Marker.brace_notMem_text hcard
  rw [← source_slotted card.name slot text] at hpage
  have hinvokes : (Registry.ofUnits units).invokes card.name = true := by
    have hmem : card ∈ units := by simp [hunits.mem_iff]
    rw [Registry.invokes, hname, Registry.contains_ofUnits hmem
      (by simp [SourceUnit.rawDefinitions_passed (.chars hbrace)])]
    rfl
  obtain ⟨hcardDefines, hpageDefines⟩ :=
    defines_slotted hunits hne hinvokes hchars hcard hslot htext hpage
  have hbody : c.globals.body? card.name = some (dataStmts (dropFinalBreak card.raw)) := by
    refine hcardDefines.body? hc (fun owner count => ?_) (parse_data hbrace)
    rw [expandMarkers_whole (.chars hbrace), Expansion.ofText_skips owner count (.text hcard)]
  obtain ⟨slots, hlabels, htag⟩ := body?_slotted hc hinvokes hchars hslot htext
    (hpage ▸ hpageDefines)
  have hstands : c.globals.body? page.name =
      some (Fragment.statements [] [.tag card.name (textAttributes []) slots]) := htag
  refine render_tag (base_of_ofRegistry hc) hstands
    (fun f hf => ⟨(hfields f hf).1, (hfields f hf).2.1, fun _ => (hfields f hf).2.2⟩) ?_
  refine Namespace.gives_partialRun ((c.globals.invokedBody?_eq_body? ?_).trans hbody)
    fun library => gives_render_text library _ _ _ _
  -- The sources that the tag hands over leave the component's own definition in its place.
  intro s hs heq
  obtain ⟨e, he, hes⟩ := exists_slot_of_mem_sources hs
  exact hlabel ((hlabels e he).symm.trans (hes.trans heq))

/-- A component, and a page that is a tag of it with a slot element of the given name. -/
def carded (slot : Text) : List SourceUnit :=
  [⟨['C'], ['C'], ['b']⟩,
    ⟨['p'], ['p'], (slotted ['C'] slot ['t']).source .author⟩]

/-- A slot whose label is not that of the component. -/
theorem render_carded_own :
    isPlainValue ['x'] = true ∧ slotLabel ['x'] ≠ ['C'] ∧
      ∃ c, ofUnits (carded ['x']) = .ok c ∧
        (c.render ['p'] (.ofJson (.object [(['C'], .string ['d'])]))).1 = .ok ['b'] :=
  ⟨by decide, by decide, render_own (List.Perm.refl _) (by decide) (by decide) (by decide)
    (by decide) (by decide) (by decide) (by decide) (source_slotted ['C'] ['x'] ['t']) (by decide)⟩

/-- **A slot whose label is the component's name runs in its place.**  A slot name that
holds the closing tag, or opens a block, leaves no slot at all. -/
theorem rendered_ne_own :
    rendered (carded ['c']) ['p'] = some ['t'] ∧
      rendered (carded "x</C>".toList) ['p'] = some "b\">t</slot></C>".toList ∧
      rendered (carded "x\x7b\x7b".toList) ['p'] =
        some "<C><slot name=\"x\x7b\x7b\">t</slot></C>".toList := by
  decide +kernel

end Compiled

end Componentry
