import Componentry.Proofs.Compilation
import Componentry.Proofs.MacroExpansion.Statements

/-! # Compiling a project of trees

A project of plain trees compiles to the definitions of its translations, each under
a name of its own (`Compiled.ofUnits_project`): all of them parse, so that nothing is
kept verbatim, and their names tell whose they are, so that none replaces another.
-/
namespace Componentry

open Template

/-! ## Plain trees can be told from their text -/

theorem ne_of_isIdentChar {c d : Char} (h : isIdentChar c = true) (hd : isIdentChar d = false) :
    c ≠ d := by
  rintro rfl
  rw [h] at hd
  cases hd

theorem isKeyChar_of_isIdentChar {c : Char} (h : isIdentChar c = true) :
    (Attribute.isKeyChar c && c != '<') = true := by
  have hspace : Text.isBlank c = false := by
    have := Text.isSpace_of_isIdentChar h
    cases hblank : Text.isBlank c with
    | false => rfl
    | true => rw [Text.isSpace_of_isBlank hblank] at this; cases this
  have hne : ∀ d, isIdentChar d = false → c ≠ d := fun d => ne_of_isIdentChar h
  simp [Attribute.isKeyChar, hspace, hne '=' (by decide), hne '>' (by decide), hne '/' (by decide),
    hne '"' (by decide), hne '\'' (by decide), hne '{' (by decide), hne '}' (by decide),
    hne '<' (by decide)]

theorem isPlainValue_of_isPlainName {name : Text} (h : isPlainName name = true) :
    isPlainValue name = true := by
  refine List.all_eq_true.2 fun c hc => ?_
  have hident := isIdentChar_of_isPlainName h c hc
  have hne : ∀ d, isIdentChar d = false → c ≠ d := fun d => ne_of_isIdentChar hident
  simp [hne '"' (by decide), hne '<' (by decide), hne '{' (by decide)]

theorem Operand.isWellFormed_of_isPlain {a : Text × Operand} (h : Operand.isPlain a = true) :
    Operand.isWellFormed a = true := by
  obtain ⟨key, value⟩ := a
  have hkey : isVariable key = true := by
    cases value <;> simp only [Operand.isPlain, Bool.and_eq_true] at h <;> exact h.1
  obtain ⟨hident, -, -⟩ := isVariable_identifier hkey
  have hchars : key.all (fun c => Attribute.isKeyChar c && c != '<') = true :=
    List.all_eq_true.2 fun c hc => isKeyChar_of_isIdentChar (isIdentifier_chars hident c hc)
  have hempty : key.isEmpty = false := by
    cases key with
    | nil => cases hident
    | cons => rfl
  cases value with
  | text v =>
    simp only [Operand.isPlain, Bool.and_eq_true] at h
    simp [Operand.isWellFormed, hempty, hchars, h.2]
  | var x =>
    simp only [Operand.isPlain, Bool.and_eq_true] at h
    simp [Operand.isWellFormed, hempty, hchars, (isVariable_identifier h.2).1]

theorem all_isPlainValue {name : Option Text} (h : name.all isPlainName = true) :
    name.all isPlainValue = true := by
  cases name with
  | none => rfl
  | some name => exact isPlainValue_of_isPlainName h

theorem isWellFormed_slotAttributes {name : Option Text} (h : name.all isPlainValue = true) :
    (slotAttributes name).all Operand.isWellFormed = true := by
  cases name with
  | none => rfl
  | some name =>
    have hkey : (['n', 'a', 'm', 'e'].all fun c => Attribute.isKeyChar c && c != '<') = true := by
      decide
    have hvalue : isPlainValue name = true := h
    simp only [slotAttributes, List.all_cons, List.all_nil, Bool.and_true, Operand.isWellFormed,
      hkey, hvalue]
    rfl

section

variable {names : List Text} {r : Registry}

theorem isTag_of_isTagOf (hnames : ∀ n ∈ names, isPlainName n = true ∧ r.contains n = true)
    {name : Text} {attributes : List (Text × Operand)}
    (h : isTagOf names name attributes = true) : r.isTag name attributes = true := by
  simp only [isTagOf, Bool.and_eq_true, List.contains_eq_mem, decide_eq_true_eq] at h
  obtain ⟨hplain, hcontains⟩ := hnames name h.1.1
  have hchars : name.all Tag.isNameChar = true := by
    refine List.all_eq_true.2 fun c hc => ?_
    rcases isPlainName_chars hplain c hc with hc | hc <;> simp [Tag.isNameChar, hc]
  have hattributes : attributes.all Operand.isWellFormed = true :=
    List.all_eq_true.2 fun a ha => Operand.isWellFormed_of_isPlain (List.all_eq_true.1 h.2 a ha)
  simp [Registry.isTag, Registry.invokes, h.1.2, hcontains, hchars, hattributes]

mutual

/-- Plain markup can be told from its text, places included, if its components are
registered. -/
theorem Markup.isWellFormed_of_isPlain
    (hnames : ∀ n ∈ names, isPlainName n = true ∧ r.contains n = true) :
    ∀ m : Markup, m.isPlain names = true → m.isWellFormed r = true ∧ m.arePlacesPlain = true
  | .nil, _ => ⟨rfl, rfl⟩
  | .text s rest, h => by
    simp only [Markup.isPlain, Bool.and_eq_true] at h
    obtain ⟨hrest, hplaces⟩ := rest.isWellFormed_of_isPlain hnames h.2
    exact ⟨by simp [Markup.isWellFormed, h.1.1, hrest], hplaces⟩
  | .print x rest, h => by
    simp only [Markup.isPlain, Bool.and_eq_true] at h
    obtain ⟨hrest, hplaces⟩ := rest.isWellFormed_of_isPlain hnames h.2
    exact ⟨by simp [Markup.isWellFormed, (isVariable_identifier h.1).1, hrest], hplaces⟩
  | .place name rest, h => by
    simp only [Markup.isPlain, Bool.and_eq_true] at h
    obtain ⟨hrest, hplaces⟩ := rest.isWellFormed_of_isPlain hnames h.2
    exact ⟨hrest, by simp [Markup.arePlacesPlain, all_isPlainValue h.1, hplaces]⟩
  | .single name attributes rest, h => by
    simp only [Markup.isPlain, Bool.and_eq_true] at h
    obtain ⟨hrest, hplaces⟩ := rest.isWellFormed_of_isPlain hnames h.2
    exact ⟨by simp [Markup.isWellFormed, isTag_of_isTagOf hnames h.1.1, hrest], hplaces⟩
  | .paired name attributes contents rest, h => by
    simp only [Markup.isPlain, Bool.and_eq_true] at h
    obtain ⟨hrest, hplaces⟩ := rest.isWellFormed_of_isPlain hnames h.2
    obtain ⟨hcontents, hinner⟩ := contents.isWellFormed_of_isPlain hnames h.1.2
    exact ⟨by simp [Markup.isWellFormed, isTag_of_isTagOf hnames h.1.1.1, hcontents, hrest],
      by simp [Markup.arePlacesPlain, hinner, hplaces]⟩

theorem Contents.isWellFormed_of_isPlain
    (hnames : ∀ n ∈ names, isPlainName n = true ∧ r.contains n = true) :
    ∀ cs : Contents, cs.isPlain names = true → cs.isWellFormed r = true ∧ cs.arePlacesPlain = true
  | .last m, h => m.isWellFormed_of_isPlain hnames h
  | .slot before name body rest, h => by
    simp only [Contents.isPlain, Bool.and_eq_true] at h
    obtain ⟨h₁, hplaces₁⟩ := before.isWellFormed_of_isPlain hnames h.1.1.1
    obtain ⟨h₂, hplaces₂⟩ := body.isWellFormed_of_isPlain hnames h.1.2
    obtain ⟨h₃, hplaces₃⟩ := rest.isWellFormed_of_isPlain hnames h.2
    have hattributes := isWellFormed_slotAttributes (all_isPlainValue h.1.1.2)
    exact ⟨by simp [Contents.isWellFormed, h₁, hattributes, h₂, h₃],
      by simp [Contents.arePlacesPlain, hplaces₁, hplaces₂, hplaces₃]⟩

end

end

/-! ## Definitions of a project -/

/-- The definitions of a body: those of its slots, then its own. -/
def definitionsOf (body : Text × Markup) : List (Text × List Fragment) :=
  let translation := body.2.translate body.1 0
  translation.2 ++ [(body.1, translation.1)]

/-- The definitions of a project. -/
def projectDefinitions (bodies : List (Text × Markup)) : List (Text × List Fragment) :=
  bodies.flatMap definitionsOf

theorem mem_projectDefinitions {bodies : List (Text × Markup)} {body : Text × Markup}
    (h : body ∈ bodies) : (body.1, (body.2.translate body.1 0).1) ∈ projectDefinitions bodies := by
  have hown : (body.1, (body.2.translate body.1 0).1) ∈ definitionsOf body :=
    List.mem_append_right _ (List.mem_singleton.2 rfl)
  exact List.mem_flatMap.2 ⟨body, h, hown⟩

/-- The body that a definition belongs to: what stands before the first underscore
of its name. -/
def ownerOf (name : Text) : Text := name.takeWhile (· != '_')

theorem ownerOf_append {owner : Text} (h : isPlainName owner = true) (rest : Text) :
    ownerOf (owner ++ rest) = owner ++ ownerOf rest := by
  refine List.takeWhile_append_of_pos ?_
  intro c hc
  refine bne_iff_ne.2 ?_
  rintro rfl
  exact underscore_notMem_plainName h hc

theorem ownerOf_plainName {name : Text} (h : isPlainName name = true) : ownerOf name = name := by
  have hname := ownerOf_append h []
  rw [List.append_nil] at hname
  rw [hname]
  exact List.append_nil name

theorem ownerOf_unitName {owner : Text} (h : isPlainName owner = true) (component label : Text)
    (n : Nat) : ownerOf (Slots.unitName owner component label n) = owner := by
  have hform : Slots.unitName owner component label n =
      owner ++ '_' :: '_' :: Text.join ['_', '_'] [component, label, Text.ofNat n] := by
    simp [Slots.unitName, Text.join]
  rw [hform, ownerOf_append h]
  exact List.append_nil owner

section

variable {bodies : List (Text × Markup)}

theorem isProject_nodup (h : isProject bodies = true) : (bodies.map Prod.fst).Nodup := by
  simp only [isProject, Bool.and_eq_true, decide_eq_true_eq] at h
  exact h.1.1

theorem isProject_body (h : isProject bodies = true) {body : Text × Markup} (hbody : body ∈ bodies) :
    isPlainName body.1 = true ∧ body.2.isPlain (bodies.map Prod.fst) = true ∧
      endsWell [body.2] = true := by
  simp only [isProject, Bool.and_eq_true, List.all_eq_true] at h
  exact ⟨h.1.2 _ (List.mem_map_of_mem hbody), h.2 body hbody⟩

theorem isProject_names (h : isProject bodies = true) {r : Registry}
    (hr : ∀ n ∈ bodies.map Prod.fst, r.contains n = true) :
    ∀ n ∈ bodies.map Prod.fst, isPlainName n = true ∧ r.contains n = true := by
  intro n hn
  obtain ⟨body, hbody, rfl⟩ := List.mem_map.1 hn
  exact ⟨(isProject_body h hbody).1, hr _ hn⟩

/-- The names of a body's definitions are numbered, and then comes its own. -/
theorem numbered_body (h : isProject bodies = true) {body : Text × Markup} (hbody : body ∈ bodies) :
    Numbered body.1 0 ((body.2.translate body.1 0).2.map Prod.fst) := by
  have hnames := isProject_names h (r := ⟨bodies.map Prod.fst⟩) (by simp [Registry.contains])
  obtain ⟨hwell, -⟩ := body.2.isWellFormed_of_isPlain hnames (isProject_body h hbody).2.1
  exact Expansion.numbered_translate body.1 0 hwell

theorem ownerOf_definition (h : isProject bodies = true) {body : Text × Markup}
    (hbody : body ∈ bodies) : ∀ name ∈ (definitionsOf body).map Prod.fst, ownerOf name = body.1 := by
  have hplain := (isProject_body h hbody).1
  intro name hname
  rw [definitionsOf, List.map_append] at hname
  rcases List.mem_append.1 hname with hname | hname
  · obtain ⟨i, hi⟩ := List.getElem?_of_mem hname
    obtain ⟨component, label, rfl⟩ := numbered_body h hbody i name hi
    exact ownerOf_unitName hplain component label _
  · rw [List.mem_singleton.1 hname]
    exact ownerOf_plainName hplain

/-- No two definitions of a project have the same name. -/
theorem nodup_projectDefinitions (h : isProject bodies = true) :
    ((projectDefinitions bodies).map Prod.fst).Nodup := by
  rw [projectDefinitions, List.map_flatMap]
  refine List.pairwise_flatMap.2 ⟨?_, ?_⟩
  · intro body hbody
    have hplain := (isProject_body h hbody).1
    rw [definitionsOf, List.map_append]
    refine List.nodup_append.2 ⟨(numbered_body h hbody).nodup, by simp, ?_⟩
    intro name hname own hown heq
    obtain ⟨i, hi⟩ := List.getElem?_of_mem hname
    obtain ⟨component, label, hunit⟩ := numbered_body h hbody i name hi
    rw [List.map_cons, List.map_nil, List.mem_singleton] at hown
    refine underscore_notMem_plainName hplain ?_
    rw [← hown, ← heq, hunit]
    simp [Slots.unitName, Text.join]
  · have hdistinct := List.pairwise_map.1 (isProject_nodup h)
    refine hdistinct.imp_of_mem ?_
    intro a b ha hb hne x hx y hy heq
    rw [← ownerOf_definition h ha x hx, ← ownerOf_definition h hb y hy, heq] at hne
    exact hne rfl

/-! ## Compiling -/

/-- A definition of fragments as it is compiled. -/
def asDefinition (u : Text × List Fragment) : Definition := ⟨u.1, Fragment.sources u.2⟩

theorem Registry.contains_ofUnits {units : List SourceUnit} {u : SourceUnit} (hu : u ∈ units)
    {name : Text} (hname : name ∈ u.rawDefinitions.map Prod.fst) :
    (Registry.ofUnits units).contains name = true :=
  List.contains_iff_mem.2 (mem_ofUnits.2 (Or.inr ⟨u, hu, hname⟩))

theorem fault?_eq_none {name source : Text} {body : List Stmt} (h : parse source = .ok body) :
    Template.fault? name source = none := by
  simp [Template.fault?, Template.check, h]

/-- The translation of a body in its project. -/
theorem translates_body (h : isProject bodies = true) {body : Text × Markup}
    (hbody : body ∈ bodies) :
    Translates (bodies.map Prod.fst) (projectDefinitions bodies) body.2
        (body.2.translate body.1 0).1 ∧
      ∀ u ∈ (body.2.translate body.1 0).2,
        IsHeld (bodies.map Prod.fst) (projectDefinitions bodies) u := by
  obtain ⟨-, hplain, -⟩ := isProject_body h hbody
  refine body.2.translates body.1 0 hplain ?_
  intro u hu
  have hdef : u ∈ definitionsOf body := List.mem_append_left _ hu
  exact List.mem_flatMap.2 ⟨body, hbody, hdef⟩

/-- Every definition of a project is made of translations. -/
theorem isHeld_definition (h : isProject bodies = true) {u : Text × List Fragment}
    (hu : u ∈ projectDefinitions bodies) :
    IsHeld (bodies.map Prod.fst) (projectDefinitions bodies) u := by
  obtain ⟨body, hbody, hu⟩ := List.mem_flatMap.1 hu
  obtain ⟨-, -, hend⟩ := isProject_body h hbody
  obtain ⟨hown, hslots⟩ := translates_body h hbody
  rcases List.mem_append.1 hu with hu | hu
  · exact hslots u hu
  · rw [List.mem_singleton.1 hu]
    exact ⟨[(body.2, (body.2.translate body.1 0).1)], by simp, hend, by simpa using hown⟩

/-- **Every definition of a project parses** to the statements of its fragments. -/
theorem parse_definition (h : isProject bodies = true) {u : Text × List Fragment}
    (hu : u ∈ projectDefinitions bodies) :
    parse (Fragment.sources u.2) = .ok (Fragment.statements [] u.2) := by
  obtain ⟨parts, hparts, hend, htranslates⟩ := isHeld_definition h hu
  rw [hparts]
  exact parse_translated htranslates hend

/-- A unit that is a body of a project is one definition. -/
theorem rawDefinitions_body (h : isProject bodies = true) {body : Text × Markup}
    (hbody : body ∈ bodies) (path : Path) :
    SourceUnit.rawDefinitions ⟨path, body.1, body.2.source .author⟩ =
      [(body.1, body.2.source .author)] := by
  have hnames := isProject_names h (r := ⟨bodies.map Prod.fst⟩) (by simp [Registry.contains])
  obtain ⟨hwell, hplaces⟩ := body.2.isWellFormed_of_isPlain hnames (isProject_body h hbody).2.1
  exact SourceUnit.rawDefinitions_source rfl hwell hplaces

/-- The expansion of a body of a project. -/
theorem expansion_body (h : isProject bodies = true) {r : Registry}
    (hr : ∀ n ∈ bodies.map Prod.fst, r.contains n = true) {body : Text × Markup}
    (hbody : body ∈ bodies) :
    Expansion.ofText r body.1 0 (expandMarkers (body.2.source .author)) =
      ⟨Fragment.sources (body.2.translate body.1 0).1,
        slotUnits (body.2.translate body.1 0).2, []⟩ := by
  obtain ⟨-, hplain, -⟩ := isProject_body h hbody
  obtain ⟨hwell, hplaces⟩ := body.2.isWellFormed_of_isPlain (isProject_names h hr) hplain
  rw [expandMarkers_source hwell hplaces, Expansion.ofText_translate body.1 0 hwell]

/-- The definitions of a unit that is a body of a project. -/
theorem expand_body (h : isProject bodies = true) {r : Registry}
    (hr : ∀ n ∈ bodies.map Prod.fst, r.contains n = true) {body : Text × Markup}
    (hbody : body ∈ bodies) (path : Path) :
    (SourceUnit.expand r ⟨path, body.1, body.2.source .author⟩).definitions =
      (definitionsOf body).map asDefinition := by
  have hparse : ∀ u ∈ definitionsOf body, ∀ name,
      Template.fault? name (Fragment.sources u.2) = none := fun u hu name =>
    fault?_eq_none (parse_definition h (List.mem_flatMap.2 ⟨body, hbody, hu⟩))
  have hfault : ExpandedUnit.fault? body.1 ⟨Fragment.sources (body.2.translate body.1 0).1,
      slotUnits (body.2.translate body.1 0).2, []⟩ = none := by
    have hown : (body.1, (body.2.translate body.1 0).1) ∈ definitionsOf body :=
      List.mem_append_right _ (List.mem_singleton.2 rfl)
    rw [ExpandedUnit.fault?, hparse _ hown, Option.none_or, List.findSome?_eq_none_iff]
    intro unit hunit
    obtain ⟨u, hu, rfl⟩ := List.mem_map.1 hunit
    exact hparse u (List.mem_append_left _ hu) u.1
  rw [SourceUnit.expand, rawDefinitions_body h hbody]
  simp only [ExpandedUnit.ofDefinitions, expansion_body h hr hbody, ExpandedUnit.ofExpansion, hfault]
  rw [List.append_nil, definitionsOf, List.map_append, slotUnits, List.map_map]
  rfl

end

/-- A namespace holds a definition of fragments. -/
def Namespace.Holds (ns : Namespace) (u : Text × List Fragment) : Prop :=
  ∃ t, ns.find? u.1 = some t ∧ t.body = Fragment.statements [] u.2

section Units

variable {bodies : List (Text × Markup)} {units : List SourceUnit} (h : isProject bodies = true)
  (hunits : units.map (fun u => (u.name, u.raw)) =
    bodies.map fun body => (body.1, body.2.source .author))

include h hunits

omit h in
/-- There is a unit for every body. -/
theorem exists_unit {body : Text × Markup} (hbody : body ∈ bodies) :
    ∃ path, ⟨path, body.1, body.2.source .author⟩ ∈ units := by
  have hmem : (body.1, body.2.source .author) ∈ units.map (fun u => (u.name, u.raw)) := by
    rw [hunits]
    exact List.mem_map.2 ⟨body, hbody, rfl⟩
  obtain ⟨⟨path, name, raw⟩, hu, heq⟩ := List.mem_map.1 hmem
  simp only [Prod.mk.injEq] at heq
  obtain ⟨rfl, rfl⟩ := heq
  exact ⟨path, hu⟩

theorem contains_bodies : ∀ n ∈ bodies.map Prod.fst, (Registry.ofUnits units).contains n = true := by
  intro n hn
  obtain ⟨body, hbody, rfl⟩ := List.mem_map.1 hn
  obtain ⟨path, hu⟩ := exists_unit hunits hbody
  refine Registry.contains_ofUnits hu ?_
  rw [rawDefinitions_body h hbody]
  exact List.mem_singleton.2 rfl

theorem definitions_project : Compiled.definitions (Registry.ofUnits units) units =
    (projectDefinitions bodies).map asDefinition := by
  -- The path of a unit plays no part in its definitions.
  have hpath : Compiled.definitions (Registry.ofUnits units) units =
      (units.map fun u => (u.name, u.raw)).flatMap fun p =>
        (SourceUnit.expand (Registry.ofUnits units) ⟨[], p.1, p.2⟩).definitions := by
    rw [List.flatMap_map]
    rfl
  rw [hpath, hunits, List.flatMap_map, projectDefinitions, List.map_flatMap, List.flatMap_def,
    List.flatMap_def]
  congr 1
  exact List.map_congr_left fun body hbody => expand_body h (contains_bodies h hunits) hbody []

/-- **A project of plain trees compiles to its definitions.** -/
theorem Compiled.ofUnits_project :
    ∃ c, Compiled.ofUnits units = .ok c ∧ ∀ u ∈ projectDefinitions bodies, c.globals.Holds u := by
  have hdefinitions := definitions_project h hunits
  obtain ⟨c, hc⟩ := ofRegistry_ok (Registry.ofUnits units) units
  refine ⟨c, hc, ?_⟩
  intro u hu
  have hnodup : ((definitions (Registry.ofUnits units) units).map Definition.name).Nodup := by
    rw [hdefinitions, List.map_map]
    exact nodup_projectDefinitions h
  have hmem : asDefinition u ∈ definitions (Registry.ofUnits units) units := by
    rw [hdefinitions]
    exact List.mem_map_of_mem hu
  have hlast : last? (definitions (Registry.ofUnits units) units) (asDefinition u).name =
      some (asDefinition u) := find?_reverse_of_nodup Definition.name hnodup hmem
  obtain ⟨body, hbody, ht⟩ := find?_of_last? hc hlast
  refine ⟨_, ht, ?_⟩
  have hparse := parse_definition h hu
  rw [show Fragment.sources u.2 = (asDefinition u).body from rfl, hbody] at hparse
  exact Except.ok.inj hparse

end Units

end Componentry
