import Componentry.Proofs.References.Resolution

/-! # When a slot keeps the content it was given

A compiled project keeps one source under each name, that of the last definition.  The
name of a slot is made of the name of its unit, a component, a label and a number,
joined by underscores, and nothing keeps two units from making the same name: the
sources of a slot may be overwritten (`Compiled.slot_overwritten`).

The name of a component starts with an upper-case letter.  Hence the names that two
units make differ unless the units have the same name, or the name of one goes on from
that of the other with two underscores and an upper-case letter
(`Slots.unitName_apart`).  A unit that is apart from all others in this sense keeps
every slot whose name is not also that of a component or a file
(`Compiled.slot_keeps_source`).
-/
namespace Componentry

/-- Whether `t` goes on from `s` with two underscores and an upper-case letter. -/
def Text.continues (s t : Text) : Bool :=
  match Text.dropPrefix? (s ++ ['_', '_']) t with
  | some rest => isComponentName rest
  | none => false

/-- Whether two units cannot make the same name for a slot. -/
def SourceUnit.isApart (u v : SourceUnit) : Bool :=
  u.name ≠ v.name && !Text.continues u.name v.name && !Text.continues v.name u.name

/-! ## The names of slots -/

theorem Text.continues_append {s rest : Text} (h : isComponentName rest = true) :
    Text.continues s (s ++ '_' :: '_' :: rest) = true := by
  have hdrop : Text.dropPrefix? (s ++ ['_', '_']) (s ++ '_' :: '_' :: rest) = some rest :=
    Text.dropPrefix?_eq_some.2 (by simp)
  rw [continues, hdrop]
  exact h

/-- Where underscores and an upper-case letter follow in both readings of a text, one
reading goes on from the other. -/
theorem Text.continues_of_append_eq {s w x y : Text} (hx : isComponentName x = true)
    (h : '_' :: '_' :: x = w ++ '_' :: '_' :: y) :
    w = [] ∨ Text.continues s (s ++ w) = true := by
  have hlower : ∀ rest : Text, isComponentName ('_' :: rest) ≠ true := by
    intro rest
    rw [isComponentName]
    decide
  rcases w with _ | ⟨c₁, _ | ⟨c₂, _ | ⟨c₃, w⟩⟩⟩
  · exact Or.inl rfl
  · simp only [List.cons_append, List.nil_append, List.cons.injEq] at h
    rw [h.2.2] at hx
    exact absurd hx (hlower _)
  · simp only [List.cons_append, List.nil_append, List.cons.injEq] at h
    rw [h.2.2] at hx
    exact absurd hx (hlower _)
  · simp only [List.cons_append, List.cons.injEq] at h
    obtain ⟨rfl, rfl, rfl⟩ := h
    exact Or.inr (continues_append hx)

/-- **The name of a slot tells the unit**, if no unit's name goes on from another's. -/
theorem Slots.unitName_apart {u v : SourceUnit} (happart : u.isApart v = true)
    {component component' label label' : Text} {n n' : Nat}
    (hc : isComponentName component = true) (hc' : isComponentName component' = true) :
    unitName u.name component label n ≠ unitName v.name component' label' n' := by
  intro h
  have hform : ∀ owner component label n, isComponentName component = true →
      ∃ rest, isComponentName rest = true ∧
        unitName owner component label n = owner ++ '_' :: '_' :: rest := by
    intro owner component label n hcomponent
    refine ⟨component ++ '_' :: '_' :: (label ++ '_' :: '_' :: Text.ofNat n), ?_, ?_⟩
    · cases component with
      | nil => cases hcomponent
      | cons c component => exact hcomponent
    · simp [unitName, Text.join]
  obtain ⟨x, hx, hleft⟩ := hform u.name component label n hc
  obtain ⟨y, hy, hright⟩ := hform v.name component' label' n' hc'
  rw [hleft, hright] at h
  simp only [SourceUnit.isApart, Bool.and_eq_true, decide_eq_true_eq, Bool.not_eq_true'] at happart
  obtain ⟨⟨hne, huv⟩, hvu⟩ := happart
  -- One unit's name is the beginning of the other's, and `w` is what the longer one adds.
  rcases List.append_eq_append_iff.1 h with ⟨w, hname, heq⟩ | ⟨w, hname, heq⟩
  · rcases Text.continues_of_append_eq (s := u.name) hx heq with rfl | hcont
    · simp [hname] at hne
    · rw [hname, hcont] at huv
      cases huv
  · rcases Text.continues_of_append_eq (s := v.name) hy heq with rfl | hcont
    · simp [hname] at hne
    · rw [hname, hcont] at hvu
      cases hvu

theorem SourceUnit.name_of_mem_slotDefinitions {r : Registry} {u : SourceUnit} {d : Definition}
    (h : d ∈ u.slotDefinitions r) :
    ∃ component label n, isComponentName component = true ∧
      d.name = Slots.unitName u.name component label n := by
  obtain ⟨b, hb, hd⟩ := List.mem_flatMap.1 h
  obtain ⟨before, after, hblocks⟩ := List.append_of_mem hb
  unfold ExpandedBlock.slotDefinitions at hd
  split at hd
  · rw [(ExpandedBlock.expansion_eq_write hblocks).2] at hd
    obtain ⟨unit, hunit, rfl⟩ := List.mem_map.1 hd
    obtain ⟨call, hcall, hunit⟩ := List.mem_flatMap.1 hunit
    simp only [Call.slots, Slots.extract, List.mem_map, Prod.exists] at hunit
    obtain ⟨label, body, n, -, rfl⟩ := hunit
    have hinvokes := Expansion.invokes_of_mem_tags hcall
    rw [Registry.invokes, Bool.and_eq_true] at hinvokes
    exact ⟨call.component, label, n, hinvokes.1, rfl⟩
  · cases hd

namespace Compiled

/-- The source that the project of units stores under a name. -/
def source? (units : List SourceUnit) (name : Text) : Option Text :=
  match ofUnits units with
  | .ok c => (c.globals.find? name).map NamedTemplate.source
  | .error _ => none

theorem source?_eq_last? (units : List SourceUnit) (name : Text) :
    source? units name = (last? (definitions (.ofUnits units) units) name).map Definition.body := by
  obtain ⟨c, hc⟩ := ofRegistry_ok (.ofUnits units) units
  rw [← source_eq_last? hc, source?, ofUnits, hc]

/-- A definition that every definition of its name equals is the last of its name. -/
theorem last?_eq_some {definitions : List Definition} {d : Definition} (hd : d ∈ definitions)
    (h : ∀ d' ∈ definitions, d'.name = d.name → d' = d) : last? definitions d.name = some d := by
  cases hlast : last? definitions d.name with
  | none => exact absurd rfl (last?_eq_none_iff.1 hlast d hd)
  | some d' =>
    obtain ⟨hmem, hname⟩ := mem_of_last? hlast
    rw [h d' hmem hname]

/-- A definition of a project is a slot of one of its units, or that of one of the
unit's blocks. -/
theorem definition_cases {r : Registry} {units : List SourceUnit} {d : Definition}
    (hd : d ∈ definitions r units) :
    ∃ u ∈ units, d ∈ u.slotDefinitions r ∨ ∃ b ∈ u.blocks r, d = b.owner := by
  obtain ⟨u, hu, hd⟩ := List.mem_flatMap.1 hd
  rw [u.expand_definitions r] at hd
  obtain ⟨b, hb, hd⟩ := List.mem_flatMap.1 hd
  refine ⟨u, hu, ?_⟩
  rcases List.mem_append.1 hd with hd | hd
  · exact Or.inl (List.mem_flatMap.2 ⟨b, hb, hd⟩)
  · exact Or.inr ⟨b, hb, List.mem_singleton.1 hd⟩

theorem slotDefinition_mem {r : Registry} {units : List SourceUnit} {u : SourceUnit}
    (hu : u ∈ units) {d : Definition} (hd : d ∈ u.slotDefinitions r) : d ∈ definitions r units := by
  obtain ⟨b, hb, hd⟩ := List.mem_flatMap.1 hd
  refine List.mem_flatMap.2 ⟨u, hu, ?_⟩
  rw [u.expand_definitions r]
  exact List.mem_flatMap.2 ⟨b, hb, List.mem_append_left _ hd⟩

/-- **A slot keeps its content.**  Let a unit be apart from all other units that have
slots, and an invocation in it be given a slot under a name that no component and no
file has.  Then the compiled project stores under this name the content that was found
for the slot. -/
theorem slot_keeps_source (units : List SourceUnit) (u : SourceUnit) (hu : u ∈ units)
    (hapart : ∀ v ∈ units, v ≠ u → v.slotDefinitions (.ofUnits units) ≠ [] → u.isApart v = true)
    (before after : List ExpandedBlock) (b : ExpandedBlock)
    (hblocks : u.blocks (.ofUnits units) = before ++ b :: after) (haccepted : b.isAccepted = true)
    (call : Call)
    (hcall : call ∈ b.calls (.ofUnits units) u.name (before.flatMap (·.slotNames)).length)
    (i : Nat) (label unit : Text) (hentry : (call.slots u.name).entries[i]? = some (label, unit))
    (howner : ∀ v ∈ units, ∀ b' ∈ v.blocks (.ofUnits units), b'.name ≠ unit) :
    ∃ body, (Slots.contents (ContentPiece.ofText call.contents))[i]? = some (label, body) ∧
      source? units unit = some body := by
  obtain ⟨body, hcontents, hmem⟩ := ExpandedBlock.entry_resolves hblocks haccepted hcall hentry
  have hslot : (⟨unit, body⟩ : Definition) ∈ u.slotDefinitions (.ofUnits units) :=
    List.mem_flatMap.2 ⟨b, by rw [hblocks]; simp, hmem⟩
  refine ⟨body, hcontents, ?_⟩
  have honly : ∀ d ∈ definitions (.ofUnits units) units, d.name = unit → d = ⟨unit, body⟩ := by
    intro d hd hname
    obtain ⟨v, hv, hd | ⟨b', hb', rfl⟩⟩ := definition_cases hd
    · by_cases hvu : v = u
      · -- Within the unit slots are numbered, so no other one has the name.
        subst hvu
        have hfilter := Definition.filter_name_eq (d := ⟨unit, body⟩)
          (v.nodup_slotDefinitions _) hslot
        have hd' : d ∈ (v.slotDefinitions (.ofUnits units)).filter fun d' => d'.name = unit :=
          List.mem_filter.2 ⟨hd, by simpa using hname⟩
        rw [hfilter] at hd'
        exact List.mem_singleton.1 hd'
      · obtain ⟨component, label₁, n, hc, hunit⟩ := u.name_of_mem_slotDefinitions hslot
        obtain ⟨component', label₂, n', hc', hother⟩ := v.name_of_mem_slotDefinitions hd
        exact absurd (hunit.symm.trans (hname.symm.trans hother))
          (Slots.unitName_apart (hapart v hv hvu (List.ne_nil_of_mem hd)) hc hc')
    · exact absurd hname (howner v hv b' hb')
  rw [source?_eq_last?, last?_eq_some (d := ⟨unit, body⟩) (slotDefinition_mem hu hslot) honly]
  rfl

/-- A component that places its slot, and two pages that invoke it. -/
def twoPages : List SourceUnit :=
  SourceUnit.ofSources [("Box.html".toList, "\x7b% slot %\x7d".toList),
    ("a.html".toList, "<Box>1</Box>".toList), ("b.html".toList, "<Box>2</Box>".toList)]

/-- The first of the two pages. -/
def firstPage : SourceUnit := .ofRelative "a.html".toList "<Box>1</Box>".toList

set_option maxRecDepth 100000 in
theorem twoPages_keep_source :
    firstPage ∈ twoPages ∧
      (∃ body, (Slots.contents (ContentPiece.ofText ['1']))[0]? = some (defaultLabel, body) ∧
        source? twoPages "a__Box__Slot__0".toList = some body) := by
  have hblocks : firstPage.blocks (.ofUnits twoPages) =
      [] ++ ⟨firstPage.name, firstPage.raw, Expansion.ofText (.ofUnits twoPages) firstPage.name 0
        (expandMarkers firstPage.raw)⟩ :: [] := by
    have hraw : firstPage.rawDefinitions = [(firstPage.name, firstPage.raw)] := by decide +kernel
    rw [SourceUnit.blocks, hraw]
    rfl
  refine ⟨by decide +kernel, ?_⟩
  exact slot_keeps_source twoPages firstPage (by decide +kernel) (by decide +kernel) [] []
    _ hblocks (by decide +kernel) ⟨"Box".toList, [], ['1'], 0⟩ (by decide +kernel) 0
    defaultLabel "a__Box__Slot__0".toList (by decide +kernel) (by decide +kernel)

/-! ## Slots that are overwritten -/

/-- Two files of the same name but for the extension. -/
def sameName : List SourceUnit :=
  SourceUnit.ofSources [("Box.html".toList, "\x7b% slot %\x7d".toList),
    ("a.htm".toList, "\x7b% component B %\x7d<Box>1</Box>\x7b% endcomponent %\x7d".toList),
    ("a.html".toList, "\x7b% component A %\x7d<Box>2</Box>\x7b% endcomponent %\x7d".toList)]

/-- A file whose name goes on from that of another one. -/
def continued : List SourceUnit :=
  SourceUnit.ofSources [("B__X.html".toList, "\x7b% slot %\x7d".toList),
    ("X.html".toList, "\x7b% slot %\x7d".toList),
    ("a.html".toList, "<B__X>1</B__X>".toList), ("a__B.html".toList, "<X>2</X>".toList)]

/-- A file that is named like a slot of another one. -/
def namedLikeSlot : List SourceUnit :=
  SourceUnit.ofSources [("Box.html".toList, "\x7b% slot %\x7d".toList),
    ("a.html".toList, "<Box>1</Box>".toList), ("a__Box__Slot__0.html".toList, "2".toList)]

/-- Whether units of distinct paths, the named one of which gives a slot the content
`1`, store the content `2` for it. -/
def overwrites (units : List SourceUnit) (path : Path) (slot : Text) : Bool :=
  (units.map SourceUnit.path).Nodup &&
    (units.filter (·.path = path)).any (fun u =>
      (u.slotDefinitions (.ofUnits units)).contains ⟨slot, ['1']⟩) &&
    source? units slot = some ['2']

set_option maxRecDepth 100000 in
/-- **Slots can be overwritten**: by a file of the same name, by a file whose name goes
on from that of the slot's, and by a file that is named like the slot. -/
theorem slot_overwritten :
    overwrites sameName "a.htm".toList "a__Box__Slot__0".toList = true ∧
      overwrites continued "a.html".toList "a__B__X__Slot__0".toList = true ∧
      overwrites namedLikeSlot "a.html".toList "a__Box__Slot__0".toList = true := by
  decide +kernel

end Compiled

end Componentry
