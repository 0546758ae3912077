import Componentry.Proofs.Slots.Pages
import Componentry.Proofs.Template.Refusals

/-! # Trees that are not expanded

What `isProject` asks of trees beyond their shape is not for the sake of the proof, and
neither is the number of levels.  A tag with more than a thousand props invokes its
component with a call that does not parse, so the body it stands in is kept and shown
as it is written (`Compiled.render_overfull`).  Tags that nest too deep are cut off
(`Compiled.render_nested`).  A variable that the data lack stands for a function if there
is one of its name, a carriage return at the end of a body is dropped with the line break
that it could belong to, and a component that is named like the default slot is hidden by
what is given for the slot (`Compiled.rendered_ne_expanded`).
-/
namespace Componentry

open Template

/-- **An invocation with too many props does not parse.** -/
theorem Fragment.parse_tag_error (name : Text) {attributes : List (Text × Operand)}
    (slots : List (Text × Text)) (h : ∀ a ∈ attributes, Operand.IsCode a)
    (hcount : 1000 < entryCount attributes slots) :
    ∃ fault, parse (tag name attributes slots).source = .error fault := by
  obtain ⟨props, hprops, hlength, hsource, -⟩ := exists_props slots h
  have hdict : Refused 1 148
      (Props.source ⟨[], attributes.map Operand.entry ++ slotEntries slots⟩) := by
    rw [hsource]
    exact Refused.dict hprops (by omega)
  have hname : Code 1 148 (Text.quote name) (.const (.string name) 1) :=
    (Template.Operand.string 1 147 name).code
  have hcall : Refused 1 149 (Props.call invokeName [Text.quote name,
      Props.source ⟨[], attributes.map Operand.entry ++ slotEntries slots⟩]) :=
    Refused.second (by decide) (by decide) (by decide) hname hdict
  exact hcall.parse

namespace Compiled

/-- What is rendered of a page of bodies without data, and what it expands to with so
many levels. -/
def renderedAndExpanded (bodies : List (Text × Markup)) (levels : Nat) (page : Text) :
    Option Text × Text :=
  ((ofUnits (unitsOf bodies)).toOption.bind fun c =>
      (c.render page (.ofJson (.object []))).1.toOption,
    expand bodies levels (.page []) (bodyOf bodies page))

/-- A component, and a page that is a tag of it with the given attributes. -/
def tagged (attributes : List (Text × Text)) : List (Text × Markup) :=
  [(['A'], .text ['a'] .nil),
    (['p'], .single ['A'] (attributes.map fun a => (a.1, .text a.2)) .nil)]

theorem unitsOf_tagged (attributes : List (Text × Text)) :
    unitsOf (tagged attributes) =
      [⟨['A'], ['A'], ['a']⟩,
        ⟨['p'], ['p'], singleTag ['A'] (attributes.map fun a => (a.1, .text a.2))⟩] := by
  simp only [unitsOf, tagged, List.map_cons, List.map_nil, Markup.source, List.append_nil]
  rfl

/-- **A page that is a tag with more than a thousand attributes is not expanded**, but
shown as it is written. -/
theorem render_overfullTag {r : Registry} {units : List SourceUnit} {c : Compiled}
    {page component : Text} {attributes : List (Text × Text)} (hc : ofRegistry r units = .ok c)
    (hname : Tag.isName component = true) (hinvokes : r.invokes component = true)
    (hattributes : (textAttributes attributes).all Operand.isReadable = true)
    (hcount : 1000 < attributes.length)
    (h : Defines r units page (singleTag component (textAttributes attributes))) (data : Value) :
    (c.render page data).1 = .ok (singleTag component (textAttributes attributes)) := by
  obtain ⟨fault, hfault⟩ := Fragment.parse_tag_error component [] (isCode_textAttributes attributes)
    (by rwa [entryCount_textAttributes])
  have hbody := h.body?_verbatim hc (fun owner count =>
    Expansion.ofText_expandMarkers_singleTag owner count hname hinvokes hattributes) hfault
    (Marker.brace_notMem_singleTag hname hattributes)
  obtain ⟨t, ht, hstatements⟩ := Option.map_eq_some_iff.1 hbody
  have hgives := gives_render_text c.globals.library (c.base.invoke invocationLimit) page
    (singleTag component (textAttributes attributes)) data.scope
  exact render_of_gives ht (hstatements ▸ hgives)

/-- Of a component and a page that is a tag of it with more than a thousand attributes, the
page is shown as it is written. -/
theorem render_overfull {attributes : List (Text × Text)}
    (h : ∀ a ∈ attributes, isVariable a.1 = true ∧ isPlainValue a.2 = true)
    (hcount : 1000 < attributes.length) :
    renderedAndExpanded (tagged attributes) invocationLimit ['p'] =
      (some (singleTag ['A'] (attributes.map fun a => (a.1, .text a.2))), ['a']) := by
  have hname : Tag.isName ['A'] = true := by decide
  have hattributes : (textAttributes attributes).all Operand.isReadable = true := by
    refine List.all_eq_true.2 (List.forall_mem_map.2 fun a ha => ?_)
    have hplain : Operand.isPlain (a.1, .text a.2) = true := by simp [Operand.isPlain, h a ha]
    exact Operand.isReadable_of_isWellFormed (Operand.isWellFormed_of_isPlain hplain)
  have hbody : '{' ∉ ['a'] := by decide
  have hcomponent : SourceUnit.rawDefinitions ⟨['A'], ['A'], ['a']⟩ = [(['A'], ['a'])] :=
    SourceUnit.rawDefinitions_passed (.chars hbody)
  obtain ⟨c, hc⟩ := ofRegistry_ok (.ofUnits (unitsOf (tagged attributes)))
    (unitsOf (tagged attributes))
  have hinvokes : (Registry.ofUnits (unitsOf (tagged attributes))).invokes ['A'] = true := by
    have hmem : (⟨['A'], ['A'], ['a']⟩ : SourceUnit) ∈ unitsOf (tagged attributes) := by
      rw [unitsOf_tagged]
      exact List.mem_cons_self
    rw [Registry.invokes, Registry.contains_ofUnits hmem (by simp [hcomponent])]
    rfl
  have hdefines : ∀ r : Registry, r.invokes ['A'] = true →
      Defines r (unitsOf (tagged attributes)) ['p']
        (singleTag ['A'] (textAttributes attributes)) := by
    intro r hr
    have hunits : (Expansion.ofText r ['A'] 0 (expandMarkers ['a'])).units = [] := by
      rw [expandMarkers_whole (.chars hbody), Expansion.ofText_skips ['A'] 0 (.text (by decide))]
    have hne : ['A'] ≠ ['p'] := by decide
    rw [unitsOf_tagged]
    exact (defines_singleTag hcomponent hunits rfl hne hname hr hattributes).2
  have hrender := render_overfullTag hc hname hinvokes hattributes hcount
    (hdefines _ hinvokes) (.ofJson (.object []))
  refine Prod.ext ?_ rfl
  have hcompiled : ofUnits (unitsOf (tagged attributes)) = .ok c := hc
  rw [renderedAndExpanded, hcompiled]
  show (c.render ['p'] (.ofJson (.object []))).1.toOption = _
  rw [hrender]
  rfl

/-! ## Pages of nested tags -/

/-- Text in so many tags, one in another. -/
def nest : Nat → Markup
  | 0 => .text ['x'] .nil
  | n + 1 => .paired ['A'] [] (.last (nest n)) .nil

/-- A component that shows its default slot, and a page of nested tags of it. -/
def nested (n : Nat) : List (Text × Markup) := [(['A'], .place none .nil), (['p'], nest n)]

theorem slots_nest (n : Nat) : (Contents.last (nest n)).slots = [(defaultLabel, [nest n])] := by
  have hblank : (nest n).isBlank = false := by
    cases n with
    | zero => decide
    | succ n => rfl
  have hparts : Slots.parts [(none, nest n)] none = [nest n] := by
    simp [Slots.parts]
  simp [Contents.slots, Contents.pieces, Slots.gather, hparts, hblank]

theorem endsWell_nest (n : Nat) : endsWell [nest n] = true := by
  cases n with
  | zero => decide
  | succ n =>
    have hlast : ((nest (n + 1)).source .author).getLast? = some '>' := by
      rw [nest, Markup.source, Markup.source, List.append_nil, List.getLast?_append]
      rfl
    rw [endsWell, List.flatMap_singleton, hlast]
    rfl

theorem isPlain_nest (n : Nat) : (nest n).isPlain [['A'], ['p']] = true := by
  induction n with
  | zero => decide
  | succ n ih =>
    have htag : isTagOf [['A'], ['p']] ['A'] [] = true := by decide
    have hslots : areSlotsOf ['A'] [] [(defaultLabel, [nest n])] = true := by
      simp [areSlotsOf, endsWell_nest, entryCount, defaultLabel]
    rw [nest, Markup.isPlain, Contents.isPlain, slots_nest, htag, hslots, ih]
    rfl

theorem isProject_nested (n : Nat) : isProject (nested n) = true := by
  have hplace : (Markup.place none .nil).isPlain [['A'], ['p']] = true ∧
      endsWell [Markup.place none .nil] = true := by decide
  have hnames : ([['A'], ['p']] : List Text).Nodup ∧ [['A'], ['p']].all isPlainName = true := by
    decide
  simp [isProject, nested, hnames, hplace, isPlain_nest, endsWell_nest]

/-- A tag and the place of what is in it take three levels. -/
theorem expand_nest {bodies : List (Text × Markup)} (hbody : bodyOf bodies ['A'] = .place none .nil)
    (env : Environment) (n : Nat) :
    ∀ levels, expand bodies levels env (nest n) = if 3 * n ≤ levels then ['x'] else [] := by
  induction n with
  | zero =>
    intro levels
    rcases levels with _ | _ | levels
    · rfl
    · rfl
    · simp [nest, expand, Markup.expandWith]
  | succ n ih =>
    intro levels
    rcases levels with _ | _ | _ | levels
    · rw [if_neg (by omega)]
      rfl
    · rw [if_neg (by omega)]
      simp [nest, expand, Markup.expandWith, hbody]
    · rw [if_neg (by omega)]
      simp [nest, expand, Markup.expandWith, hbody]
    · -- A slot takes three levels: the component, its slot source, and the slot's own unit.
      have hinner : expand bodies (levels + 2) (.tag [] [(defaultLabel, [nest n])] env)
          (.place none .nil) = expand bodies levels env (nest n) := by
        have hgiven : (Environment.tag [] [(defaultLabel, [nest n])] env).slot?
            (markerLabel none) = some ([nest n], env) := rfl
        simp [expand, Markup.expandWith, hgiven]
      have hlevel : 3 * (n + 1) ≤ levels + 3 ↔ 3 * n ≤ levels := by omega
      have houter : expand bodies (levels + 3) env (nest (n + 1)) =
          expand bodies (levels + 2) (.tag [] [(defaultLabel, [nest n])] env)
            (bodyOf bodies ['A']) := by
        simp [nest, expand, Markup.expandWith, slots_nest, Environment.attributes]
      rw [houter, hbody, hinner, ih]
      simp only [hlevel]

/-- **Tags that nest more than 21 deep are not expanded**, though with three levels for
each of them they would be. -/
theorem render_nested (n : Nat) :
    renderedAndExpanded (nested n) (3 * n) ['p'] =
      (some (if n ≤ 21 then ['x'] else []), ['x']) := by
  have hunits : (unitsOf (nested n)).map (fun u => (u.name, u.raw)) =
      (nested n).map fun body => (body.1, body.2.source .author) := by
    simp [unitsOf]
  obtain ⟨c, hc, hholds⟩ := ofUnits_project (isProject_nested n) hunits
  have hpage : (['p'], nest n) ∈ nested n := by simp [nested]
  have hrender : (c.render ['p'] (.ofJson (.object []))).1 =
      .ok (expand (nested n) invocationLimit (.page []) (nest n)) :=
    render_of_holds (isProject_nested n) (base_of_ofRegistry hc) hholds hpage (List.forall_mem_nil _)
  have hlevels : 3 * n ≤ invocationLimit ↔ n ≤ 21 := by
    rw [invocationLimit]
    omega
  have hbody : bodyOf (nested n) ['p'] = nest n := rfl
  rw [expand_nest rfl] at hrender
  simp only [hlevels] at hrender
  rw [renderedAndExpanded, hc, hbody, expand_nest rfl, if_pos (Nat.le_refl _)]
  simp [Except.toOption, hrender]

/-! ## Five pages -/

/-- **A variable that is named like a function of every template shows the function; a
carriage return at the end of a body is lost; a component that is named like its default
slot is replaced by it; a tag with 1001 props is shown as it is written; and 22 tags, one in
another, leave nothing.** -/
theorem rendered_ne_expanded :
    renderedAndExpanded [(['p'], .print Function.range.name .nil)] invocationLimit ['p'] =
      (some (Value.functionText .range), []) ∧
    renderedAndExpanded [(['A'], .text ['a', '\r'] .nil),
        (['p'], .single ['A'] [] (.text ['|'] .nil))] invocationLimit ['p'] =
      (some ['a', '|'], ['a', '\r', '|']) ∧
    renderedAndExpanded [(defaultLabel, .text ['b'] .nil),
        (['p'], .paired defaultLabel [] (.last (.text ['t'] .nil)) .nil)] invocationLimit ['p'] =
      (some ['t'], ['b']) ∧
    renderedAndExpanded (tagged (List.replicate 1001 (['k'], []))) invocationLimit ['p'] =
      (some (singleTag ['A'] (List.replicate 1001 (['k'], .text []))), ['a']) ∧
    renderedAndExpanded (nested 22) 66 ['p'] = (some [], ['x']) := by
  refine ⟨by decide +kernel, by decide +kernel, by decide +kernel, ?_, render_nested 22⟩
  have hkeys : ∀ a ∈ List.replicate 1001 (['k'], []),
      isVariable a.1 = true ∧ isPlainValue a.2 = true := by
    intro a ha
    rw [List.eq_of_mem_replicate ha]
    decide
  have htag := render_overfull hkeys (by rw [List.length_replicate]; decide)
  rwa [List.map_replicate] at htag

end Compiled

end Componentry
