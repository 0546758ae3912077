import Componentry.Proofs.MacroExpansion.Rendering
import Componentry.Proofs.References.Ownership

/-! # Pages that are one tag

What a page that consists of one tag renders is what the invocation of its component
gives (`Compiled.render_tag`), whatever else the project defines.  Only the page and the
component must not be defined twice (`Compiled.Defines`): then what stands under their
names is what their bodies expand to (`Compiled.Defines.find?`).
-/
namespace Componentry

open Template Run

variable {r : Registry}

/-- A unit that is one definition has the slots that its text expands to. -/
theorem SourceUnit.mem_slotDefinitions_single {u : SourceUnit}
    (hraw : u.rawDefinitions = [(u.name, u.raw)]) {d : Definition} (hd : d ∈ u.slotDefinitions r) :
    ∃ s ∈ (Expansion.ofText r u.name 0 (expandMarkers u.raw)).units, d.name = s.name := by
  have hblocks : u.blocks r = [⟨u.name, u.raw, .ofText r u.name 0 (expandMarkers u.raw)⟩] := by
    rw [blocks, hraw]
    rfl
  rw [slotDefinitions, hblocks, List.flatMap_singleton, ExpandedBlock.slotDefinitions] at hd
  split at hd
  · obtain ⟨s, hs, rfl⟩ := List.mem_map.1 hd
    exact ⟨s, hs, rfl⟩
  · cases hd

/-- A text that is one tag which closes itself expands to the call of the tag. -/
theorem Expansion.ofText_expandMarkers_singleTag (owner : Text) (count : Nat) {name : Text}
    {attributes : List (Text × Operand)} (hname : Tag.isName name = true)
    (hinvokes : r.invokes name = true) (h : attributes.all Operand.isReadable = true) :
    ofText r owner count (expandMarkers (singleTag name attributes)) =
      ⟨(Fragment.tag name attributes []).source, [], []⟩ := by
  rw [expandMarkers_whole (Marker.passed_singleTag hname h),
    ofText_singleTag owner count hname hinvokes h, Fragment.source_tag_nil]

namespace Compiled

variable {units : List SourceUnit} {c : Compiled} {name raw : Text}

/-! ## Names that are defined once -/

/-- Units give a name one body: every definition of the name in them has this body, and no
slot of theirs has the name. -/
structure Defines (r : Registry) (units : List SourceUnit) (name raw : Text) : Prop where
  mem : ∃ u ∈ units, (name, raw) ∈ u.rawDefinitions
  only : ∀ u ∈ units, ∀ d ∈ u.rawDefinitions, d.1 = name → d.2 = raw
  slot : ∀ u ∈ units, ∀ d ∈ u.slotDefinitions r, d.name ≠ name

/-- **Under a name that is defined once stands the expansion of its body**, or the body as
it is written if it or a slot in it does not parse. -/
theorem Defines.find? (h : Defines r units name raw) (hc : ofRegistry r units = .ok c) :
    ∃ u ∈ units, ∃ count t, c.globals.find? name = some t ∧
      parse (if (ExpandedUnit.fault? name
          (Expansion.ofText r u.name count (expandMarkers raw))).isNone
        then (Expansion.ofText r u.name count (expandMarkers raw)).text
        else verbatim raw) = .ok t.body := by
  cases hlast : last? (definitions r units) name with
  | none =>
    obtain ⟨u, hu, hmem⟩ := h.mem
    rw [← ExpandedUnit.blocks_map r u.name 0 u.rawDefinitions] at hmem
    obtain ⟨b, hb, heq⟩ := List.mem_map.1 hmem
    exact absurd (congrArg Prod.fst heq)
      (last?_eq_none_iff.1 hlast b.owner (owner_mem_definitions hu hb))
  | some d =>
    obtain ⟨body, hparse, ht⟩ := find?_of_last? hc hlast
    obtain ⟨hd, rfl⟩ := mem_of_last? hlast
    obtain ⟨u, hu, hslot | ⟨b, hb, rfl⟩⟩ := definition_cases hd
    · exact absurd rfl (h.slot u hu d hslot)
    have hraw : b.raw = raw := by
      have hmem := List.mem_map_of_mem (f := fun b => (b.name, b.raw)) hb
      rw [SourceUnit.blocks, ExpandedUnit.blocks_map] at hmem
      exact h.only u hu _ hmem rfl
    obtain ⟨before, after, hblocks⟩ := List.append_of_mem hb
    have hexpansion := ExpandedUnit.blocks_expansion hblocks
    rw [hraw] at hexpansion
    refine ⟨u, hu, 0 + (before.flatMap (·.slotNames)).length, _, ht, ?_⟩
    rwa [← hexpansion, ← hraw]

/-- A name that is defined once, by a body that expands to a text without slots, stands for
what the text is read as. -/
theorem Defines.body? (h : Defines r units name raw) (hc : ofRegistry r units = .ok c)
    {text : Text} {body : List Stmt}
    (hexpansion : ∀ owner count, Expansion.ofText r owner count (expandMarkers raw) =
      ⟨text, [], []⟩) (hbody : parse text = .ok body) : c.globals.body? name = some body := by
  obtain ⟨u, -, count, t, ht, hparse⟩ := h.find? hc
  have hfault : ExpandedUnit.fault? name ⟨text, [], []⟩ = none := by
    simp [ExpandedUnit.fault?, fault?_eq_none hbody]
  rw [hexpansion, hfault, Option.isNone_none, if_pos rfl, hbody] at hparse
  rw [Namespace.body?, ht, Option.map_some, Except.ok.inj hparse]

/-- A name that is defined once, by a body that expands to a text which does not parse,
stands for the body as it is written. -/
theorem Defines.body?_verbatim (h : Defines r units name raw) (hc : ofRegistry r units = .ok c)
    {text : Text} {fault : Fault}
    (hexpansion : ∀ owner count, Expansion.ofText r owner count (expandMarkers raw) =
      ⟨text, [], []⟩) (hfault : parse text = .error fault) (hbrace : '{' ∉ raw) :
    c.globals.body? name = some [.data raw] := by
  obtain ⟨u, -, count, t, ht, hparse⟩ := h.find? hc
  have hrefused : ExpandedUnit.fault? name ⟨text, [], []⟩ = some ⟨name, fault⟩ := by
    simp [ExpandedUnit.fault?, Template.fault?, Template.check, hfault]
  rw [hexpansion, hrefused, if_neg (by simp), parse_verbatim_of_notMem hbrace] at hparse
  rw [Namespace.body?, ht, Option.map_some, Except.ok.inj hparse]

/-- Of units that are one definition each, and have names of their own, each gives its name
its text, if no slot has the name. -/
theorem defines_of_single (hraw : ∀ u ∈ units, u.rawDefinitions = [(u.name, u.raw)])
    (hnames : (units.map SourceUnit.name).Nodup) {u : SourceUnit} (hu : u ∈ units)
    (hslot : ∀ v ∈ units, ∀ s ∈ (Expansion.ofText r v.name 0 (expandMarkers v.raw)).units,
      s.name ≠ u.name) : Defines r units u.name u.raw where
  mem := ⟨u, hu, by simp [hraw u hu]⟩
  only := by
    intro v hv d hd heq
    rw [hraw v hv] at hd
    rw [List.mem_singleton.1 hd] at heq ⊢
    have hfind := find?_of_nodup SourceUnit.name hnames hv
    rw [show v.name = u.name from heq, find?_of_nodup SourceUnit.name hnames hu] at hfind
    rw [Option.some.inj hfind]
  slot := by
    intro v hv d hd
    obtain ⟨s, hs, heq⟩ := SourceUnit.mem_slotDefinitions_single (hraw v hv) hd
    exact heq ▸ hslot v hv s hs

/-! ## Pages of one tag -/

section

variable {page component : Text} {attributes : List (Text × Text)}

/-- A definition without slots and a page that is one tag give two names their texts. -/
theorem defines_singleTag {u v : SourceUnit} (hu : u.rawDefinitions = [(u.name, u.raw)])
    (hunits : (Expansion.ofText r u.name 0 (expandMarkers u.raw)).units = [])
    (hv : v.raw = singleTag component (textAttributes attributes))
    (hne : u.name ≠ v.name) (hname : Tag.isName component = true)
    (hinvokes : r.invokes component = true)
    (hattributes : (textAttributes attributes).all Operand.isReadable = true) :
    Defines r [u, v] u.name u.raw ∧
      Defines r [u, v] v.name (singleTag component (textAttributes attributes)) := by
  have hraw : ∀ w ∈ [u, v], w.rawDefinitions = [(w.name, w.raw)] := by
    simp only [List.forall_mem_cons]
    exact ⟨hu, SourceUnit.rawDefinitions_passed (hv ▸ Marker.passed_singleTag hname hattributes),
      by simp⟩
  have hslot : ∀ w ∈ [u, v], (Expansion.ofText r w.name 0 (expandMarkers w.raw)).units = [] := by
    simp only [List.forall_mem_cons]
    refine ⟨hunits, ?_, by simp⟩
    rw [hv, Expansion.ofText_expandMarkers_singleTag v.name 0 hname hinvokes hattributes]
  have hdefines : ∀ w ∈ [u, v], Defines r [u, v] w.name w.raw := by
    intro w hw
    refine defines_of_single hraw (by simp [hne]) hw fun x hx s hs => ?_
    rw [hslot x hx] at hs
    cases hs
  exact ⟨hdefines u (by simp), hv ▸ hdefines v (by simp)⟩

/-- What a page stands for that is a tag which closes itself. -/
theorem body?_singleTag (hc : ofRegistry r units = .ok c) (hname : Tag.isName component = true)
    (hinvokes : r.invokes component = true)
    (hattributes : (textAttributes attributes).all Operand.isReadable = true)
    (hcount : attributes.length ≤ 1000)
    (h : Defines r units page (singleTag component (textAttributes attributes))) :
    c.globals.body? page =
      some (Fragment.statements [] [.tag component (textAttributes attributes) []]) := by
  have hparse := Fragment.parse_tag component (isCode_textAttributes attributes)
    (by rwa [entryCount_textAttributes])
  exact h.body? hc (fun owner count =>
    Expansion.ofText_expandMarkers_singleTag owner count hname hinvokes hattributes) hparse

/-- **A page that is one tag renders what its component gives** for the tag's attributes and
slots, if the data do not hide the functions that the tag's call is made of. -/
theorem render_tag (hbase : c.base = .finished c.globals) {slots : List (Text × Text)}
    (hpage : c.globals.body? page =
      some (Fragment.statements [] [.tag component (textAttributes attributes) slots]))
    {fields : List (Text × Json)}
    (hfields : ∀ f ∈ fields, f.1 ≠ invokeName ∧ f.1 ≠ Props.dictName ∧
      (slots ≠ [] → f.1 ≠ deferredName)) {out : Text}
    (hrun : (c.globals.partialRun ((Base.finished c.globals).invoke (invocationLimit - 1)) component
      (.ofNamed (attributes.map (fun a => (a.1, .ofText a.2)) ++
        slotValues slots (.ofJson (.object fields))))).Gives out) :
    (c.render page (.ofJson (.object fields))).1 = .ok out := by
  let data := fields.map fun f => (f.1, Value.ofJson f.2)
  have hdata : Value.ofJson (.object fields) = .ofNamed data := Value.ofJson_object fields
  have hlookup : ∀ {name f}, Function.named? name = some f → name ≠ Attribute.contextVar →
      (∀ f ∈ fields, f.1 ≠ name) → ∀ template blocks,
        (Scope.start template blocks).lookup? (Value.ofNamed data).scope name =
          some (.function f) := by
    intro name f hf hcontext hname template blocks
    have hnone : ∀ e ∈ data, e.1 ≠ name := List.forall_mem_map.2 hname
    rw [lookup?_scope, if_neg hcontext, Value.last?_eq_none hnone, hf]
    rfl
  have hvalues : (Environment.page []).attributes (textAttributes attributes) =
      attributes.map fun a => (a.1, Value.ofText a.2) := by
    rw [Environment.attributes, textAttributes, List.map_map]
    rfl
  rw [hdata, ← hvalues] at hrun
  rw [hdata]
  have hshows : Shows ((Base.finished c.globals).invoke invocationLimit) (Value.ofNamed data).scope
      [.tag component (textAttributes attributes) slots] out := by
    intro host hinvoker hscope template blocks
    have htexts : ∀ a ∈ textAttributes attributes,
        (a.2.expr.eval host (.start template blocks)).Gives ((Environment.page []).operand a.2) :=
      List.forall_mem_map.2 fun a _ => .pure _
    have hcomponent : (Function.contained component (host.invoker component
        (.ofNamed ((Environment.page []).attributes (textAttributes attributes) ++
          slotValues slots (.ofNamed data))))).Gives (.ofMarkup out) := by
      rw [hinvoker]
      exact hrun.contained component
    obtain ⟨e, hvalue, hgives⟩ := gives_tagCall component
      (hscope ▸ hlookup rfl (by decide) (fun f hf => (hfields f hf).1) template blocks)
      (hscope ▸ hlookup rfl (by decide) (fun f hf => (hfields f hf).2.1) template blocks)
      (fun hslots => hscope ▸
        hlookup rfl (by decide) (fun f hf => (hfields f hf).2.2 hslots) template blocks)
      (hscope ▸ lookup_contextVar data template blocks) htexts hcomponent
    rw [← List.append_nil out]
    exact .value hvalue hgives .nil
  obtain ⟨t, ht, hbody⟩ := Option.map_eq_some_iff.1 hpage
  have hrender := hshows.gives_render c.globals.library page
  rw [← hbody, ← hbase] at hrender
  exact render_of_gives ht hrender

end

/-- What is rendered of a page without data. -/
def rendered (units : List SourceUnit) (page : Text) : Option Text :=
  (ofUnits units).toOption.bind fun c => (c.render page (.ofJson (.object []))).1.toOption

theorem rendered_eq {units : List SourceUnit} {page text : Text}
    (h : ∃ c, ofUnits units = .ok c ∧ (c.render page (.ofJson (.object []))).1 = .ok text) :
    rendered units page = some text := by
  obtain ⟨c, hc, hrender⟩ := h
  rw [rendered, hc]
  show (c.render page (.ofJson (.object []))).1.toOption = _
  rw [hrender]
  rfl

end Compiled

end Componentry
