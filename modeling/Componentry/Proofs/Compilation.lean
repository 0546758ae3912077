import Componentry.Engine.Compiled
import Componentry.Proofs.Numbering
import Componentry.Proofs.Verbatim

/-! # Compiling never fails and loses nothing

Whatever the sources are, the definitions of their units can be compiled
(`Compiled.compilation_is_total`).  Two facts carry this.

* Every definition that is emitted parses (`ExpandedUnit.check_ofExpansion`): a
  block of a unit is emitted as it was expanded only if it and all of its slots
  parse, and otherwise verbatim, which parses always.  The definitions of the slots
  are then dropped, and since their numbers are used up, no later block of the unit
  brings their names back.
* Adding definitions that parse to a namespace keeps under each name the last one
  (`Compiled.find?_eq_last?`).
-/
namespace Componentry

open Template

/-! ## Blocks -/

/-- A definition of a unit as it is written, with the expansion of its body. -/
structure ExpandedBlock where
  name : Text
  raw : Text
  expansion : Expansion

namespace ExpandedBlock

/-- What is emitted for a block. -/
def output (b : ExpandedBlock) : ExpandedUnit := .ofExpansion b.name b.raw b.expansion

/-- The definitions of a block as it was expanded: those of its slots, then its
own. -/
def rewritten (b : ExpandedBlock) : List Definition :=
  b.expansion.units.map (fun u => ⟨u.name, u.body⟩) ++ [⟨b.name, b.expansion.text⟩]

/-- The names of the slots of a block. -/
def slotNames (b : ExpandedBlock) : List Text := b.expansion.units.map SlotUnit.name

end ExpandedBlock

/-- Whether a recovery keeps a definition verbatim. -/
def Recovery.isKept : Recovery → Bool
  | unmatched _ => false
  | kept .. => true

namespace ExpandedUnit

/-- The blocks of definitions as written; the slots of each are numbered on from
those before it. -/
def blocks (r : Registry) (owner : Text) : (count : Nat) → List (Text × Text) → List ExpandedBlock
  | _, [] => []
  | count, (name, raw) :: more =>
    let e := Expansion.ofText r owner count (expandMarkers raw)
    ⟨name, raw, e⟩ :: blocks r owner (count + e.units.length) more

theorem ofDefinitions_eq_blocks (r : Registry) (owner : Text) (count : Nat)
    (raws : List (Text × Text)) :
    ofDefinitions r owner count raws =
      ⟨(blocks r owner count raws).flatMap (·.output.definitions),
        (blocks r owner count raws).flatMap (·.output.recoveries)⟩ := by
  induction raws generalizing count with
  | nil => rfl
  | cons block raws ih =>
    obtain ⟨name, raw⟩ := block
    simp only [ofDefinitions, blocks, ih, List.flatMap_cons]
    rfl

theorem blocks_map (r : Registry) (owner : Text) (count : Nat) (raws : List (Text × Text)) :
    (blocks r owner count raws).map (fun b => (b.name, b.raw)) = raws := by
  induction raws generalizing count with
  | nil => rfl
  | cons block raws ih =>
    obtain ⟨name, raw⟩ := block
    rw [blocks, List.map_cons, ih]

/-- The slots of a block are numbered on from those of all blocks before it. -/
theorem blocks_expansion {r : Registry} {owner : Text} {count : Nat} {raws : List (Text × Text)}
    {before after : List ExpandedBlock} {b : ExpandedBlock}
    (h : blocks r owner count raws = before ++ b :: after) :
    b.expansion = Expansion.ofText r owner (count + (before.flatMap (·.slotNames)).length)
      (expandMarkers b.raw) := by
  induction raws generalizing count before with
  | nil => simp [blocks] at h
  | cons block raws ih =>
    obtain ⟨name, raw⟩ := block
    rw [blocks] at h
    cases before with
    | nil =>
      cases h
      rfl
    | cons b' before =>
      rw [List.cons_append] at h
      obtain ⟨rfl, hrest⟩ := List.cons.inj h
      rw [ih hrest, List.flatMap_cons, List.length_append, ← Nat.add_assoc]
      simp [ExpandedBlock.slotNames]

/-- Later blocks do not use the names of a block's slots again. -/
theorem slotNames_disjoint {r : Registry} {owner : Text} {count : Nat} {raws : List (Text × Text)}
    {before after : List ExpandedBlock} {b : ExpandedBlock}
    (h : blocks r owner count raws = before ++ b :: after) :
    ∀ name ∈ b.slotNames, ∀ b' ∈ after, name ∉ b'.slotNames := by
  intro name hname b' hb'
  obtain ⟨between, rest, rfl⟩ := List.append_of_mem hb'
  have hfirst := blocks_expansion h
  have hsplit : blocks r owner count raws = (before ++ b :: between) ++ b' :: rest := by
    rw [h]
    simp
  have hsecond := blocks_expansion hsplit
  have hnames : Numbered owner (count + (before.flatMap (·.slotNames)).length) b.slotNames := by
    rw [ExpandedBlock.slotNames, hfirst]
    exact Expansion.numbered_ofText _ _ _ _
  have hnames' : Numbered owner (count + ((before ++ b :: between).flatMap (·.slotNames)).length)
      b'.slotNames := by
    rw [ExpandedBlock.slotNames, hsecond]
    exact Expansion.numbered_ofText _ _ _ _
  refine hnames.disjoint hnames' ?_ name hname
  simp only [List.flatMap_append, List.flatMap_cons, List.length_append]
  omega

/-! ## What is emitted for a block -/

theorem check_of_fault? {name source : Text} (h : Template.fault? name source = none) :
    Template.check source = none := by
  simpa [Template.fault?] using h

/-- A block is emitted as it was expanded, or verbatim with one recovery. -/
theorem output_cases (b : ExpandedBlock) :
    (b.output.definitions = b.rewritten ∧ b.output.recoveries.filter Recovery.isKept = [] ∧
        ∀ d ∈ b.rewritten, Template.check d.body = none) ∨
      (b.output.definitions = [⟨b.name, verbatim b.raw⟩] ∧
        ∃ fault, b.output.recoveries.filter Recovery.isKept = [.kept b.name fault]) := by
  have hunmatched : (b.expansion.unmatched.map Recovery.unmatched).filter Recovery.isKept = [] := by
    rw [List.filter_eq_nil_iff]
    intro x hx
    obtain ⟨tag, -, rfl⟩ := List.mem_map.1 hx
    simp [Recovery.isKept]
  cases h : fault? b.name b.expansion with
  | none =>
    refine Or.inl ⟨?_, ?_, ?_⟩
    · rw [ExpandedBlock.output, ofExpansion, h]
      rfl
    · rw [ExpandedBlock.output, ofExpansion, h]
      exact hunmatched
    · rw [fault?, Option.or_eq_none_iff, List.findSome?_eq_none_iff] at h
      intro d hd
      rcases List.mem_append.1 hd with hd | hd
      · obtain ⟨u, hu, rfl⟩ := List.mem_map.1 hd
        exact check_of_fault? (h.2 u hu)
      · rw [List.mem_singleton.1 hd]
        exact check_of_fault? h.1
  | some fault =>
    refine Or.inr ⟨?_, fault, ?_⟩
    · rw [ExpandedBlock.output, ofExpansion, h]
    · rw [ExpandedBlock.output, ofExpansion, h]
      simp [hunmatched, Recovery.isKept]

/-- **Every definition that is emitted parses.** -/
theorem check_output (b : ExpandedBlock) :
    ∀ d ∈ b.output.definitions, Template.check d.body = none := by
  rcases output_cases b with ⟨hdef, -, hcheck⟩ | ⟨hdef, -⟩
  · rw [hdef]
    exact hcheck
  · rw [hdef]
    intro d hd
    rw [List.mem_singleton.1 hd]
    exact Template.check_verbatim b.raw

end ExpandedUnit

/-- The blocks of a unit. -/
def SourceUnit.blocks (r : Registry) (u : SourceUnit) : List ExpandedBlock :=
  ExpandedUnit.blocks r u.name 0 u.rawDefinitions

theorem SourceUnit.expand_eq_blocks (r : Registry) (u : SourceUnit) :
    u.expand r = ⟨(u.blocks r).flatMap (·.output.definitions),
      (u.blocks r).flatMap (·.output.recoveries)⟩ :=
  ExpandedUnit.ofDefinitions_eq_blocks r u.name 0 u.rawDefinitions

/-- Every definition of a unit parses. -/
theorem SourceUnit.check_expand {r : Registry} {u : SourceUnit} {d : Definition}
    (h : d ∈ (u.expand r).definitions) : Template.check d.body = none := by
  rw [expand_eq_blocks] at h
  obtain ⟨b, -, hd⟩ := List.mem_flatMap.1 h
  exact ExpandedUnit.check_output b d hd

/-! ## Namespaces -/

namespace Namespace

theorem find?_put (t : NamedTemplate) (templates : List NamedTemplate) (name : Text) :
    (put t templates).find? (fun u => u.name = name) =
      if t.name = name then some t else templates.find? (fun u => u.name = name) := by
  induction templates with
  | nil =>
    rw [put, List.find?_cons]
    by_cases h : t.name = name <;> simp [h]
  | cons u templates ih =>
    rw [put]
    by_cases hu : u.name = t.name
    · rw [if_pos hu, List.find?_cons]
      by_cases h : t.name = name
      · simp [h]
      · simp [h, hu]
    · rw [if_neg hu, List.find?_cons, ih]
      by_cases h : t.name = name
      · have hne : u.name ≠ name := fun heq => hu (heq.trans h.symm)
        simp [h, hne]
      · by_cases hun : u.name = name <;> simp [h, hun]

/-- A template that parses is added, and found under its name. -/
theorem add_of_parse (ns : Namespace) (name : Text) {source : Text} {body : List Stmt}
    (h : Template.parse source = .ok body) :
    ∃ ns', ns.add name source = .ok ns' ∧
      ∀ n, ns'.find? n = if name = n then some ⟨name, source, body⟩ else ns.find? n := by
  refine ⟨⟨put ⟨name, source, body⟩ ns.templates⟩, ?_, find?_put _ ns.templates⟩
  rw [add, h]
  rfl

end Namespace

namespace Definition

/-- The template that a definition is added as, if it parses. -/
def template? (d : Definition) : Option NamedTemplate :=
  (Template.parse d.body).toOption.map fun body => ⟨d.name, d.body, body⟩

theorem template?_eq_some {d : Definition} (h : Template.check d.body = none) :
    ∃ body, Template.parse d.body = .ok body ∧ d.template? = some ⟨d.name, d.body, body⟩ := by
  cases hparse : Template.parse d.body with
  | error fault => simp [Template.check, hparse] at h
  | ok body => exact ⟨body, rfl, by rw [template?, hparse]; rfl⟩

end Definition

namespace Compiled

/-- The last definition of a name. -/
def last? (definitions : List Definition) (name : Text) : Option Definition :=
  definitions.reverse.find? fun d => d.name = name

theorem last?_cons (d : Definition) (definitions : List Definition) (name : Text) :
    last? (d :: definitions) name =
      (last? definitions name).or (if d.name = name then some d else none) := by
  rw [last?, List.reverse_cons, List.find?_append, ← last?]
  congr 1
  by_cases h : d.name = name <;> simp [h]

theorem last?_eq_none_iff {definitions : List Definition} {name : Text} :
    last? definitions name = none ↔ ∀ d ∈ definitions, d.name ≠ name := by
  simp [last?]

theorem mem_of_last? {definitions : List Definition} {name : Text} {d : Definition}
    (h : last? definitions name = some d) : d ∈ definitions ∧ d.name = name :=
  ⟨List.mem_reverse.1 (List.mem_of_find?_eq_some h), by simpa using List.find?_some h⟩

/-- **Definitions that parse are all added, and the last one of a name is kept.** -/
theorem addAll_find? (definitions : List Definition) :
    ∀ ns : Namespace, (∀ d ∈ definitions, Template.check d.body = none) →
      ∃ ns', addAll ns definitions = .ok ns' ∧
        ∀ name, ns'.find? name =
          ((last? definitions name).bind Definition.template?).or (ns.find? name) := by
  induction definitions with
  | nil => exact fun ns _ => ⟨ns, rfl, fun _ => rfl⟩
  | cons d definitions ih =>
    intro ns hcheck
    obtain ⟨hd, hmore⟩ := List.forall_mem_cons.1 hcheck
    obtain ⟨body, hbody, ht⟩ := Definition.template?_eq_some hd
    obtain ⟨ns₁, hadd, hfind⟩ := ns.add_of_parse d.name hbody
    obtain ⟨ns', hall, hlast⟩ := ih ns₁ hmore
    refine ⟨ns', by rw [addAll, hadd]; exact hall, fun name => ?_⟩
    rw [hlast, hfind, last?_cons]
    cases hl : last? definitions name with
    | some d' =>
      -- A later definition of the name parses, so neither side looks further.
      obtain ⟨body', -, ht'⟩ := Definition.template?_eq_some (hmore d' (mem_of_last? hl).1)
      rw [Option.some_or, Option.bind_some, ht', Option.some_or, Option.some_or]
    | none =>
      by_cases hname : d.name = name
      · rw [if_pos hname, if_pos hname, Option.none_or, Option.bind_some, ht, Option.some_or]
        rfl
      · simp [hname]

/-! ## Compiled projects -/

theorem check_definitions (r : Registry) (units : List SourceUnit) :
    ∀ d ∈ definitions r units, Template.check d.body = none := by
  intro d hd
  obtain ⟨u, -, hd⟩ := List.mem_flatMap.1 hd
  exact SourceUnit.check_expand hd

/-- **Compiling units succeeds.** -/
theorem ofRegistry_ok (r : Registry) (units : List SourceUnit) :
    ∃ c, ofRegistry r units = .ok c := by
  obtain ⟨ns, hall, -⟩ := addAll_find? (definitions r units) .empty (check_definitions r units)
  exact ⟨⟨ns, .finished ns, Definition.listing (definitions r units)⟩, by rw [ofRegistry, hall]; rfl⟩

section

variable {r : Registry} {units : List SourceUnit} {c : Compiled}

/-- What compiling leaves in the namespace has been added to the empty one. -/
theorem addAll_of_ofRegistry (hc : ofRegistry r units = .ok c) :
    addAll .empty (definitions r units) = .ok c.globals := by
  cases hall : addAll .empty (definitions r units) with
  | error fault =>
    rw [ofRegistry, hall] at hc
    cases hc
  | ok ns =>
    rw [ofRegistry, hall] at hc
    cases hc
    rfl

/-- What compiling leaves is sealed: invocations run on a copy of the namespace. -/
theorem base_of_ofRegistry (hc : ofRegistry r units = .ok c) : c.base = .finished c.globals := by
  obtain ⟨ns, hall, -⟩ := addAll_find? (definitions r units) .empty (check_definitions r units)
  rw [ofRegistry, hall] at hc
  cases hc
  rfl

/-- **Under each name stands the last definition of that name.** -/
theorem find?_eq_last? (hc : ofRegistry r units = .ok c) (name : Text) :
    c.globals.find? name = (last? (definitions r units) name).bind Definition.template? := by
  obtain ⟨ns, hall, hfind⟩ := addAll_find? (definitions r units) .empty (check_definitions r units)
  obtain rfl : ns = c.globals := Except.ok.inj (hall.symm.trans (addAll_of_ofRegistry hc))
  rw [hfind]
  exact Option.or_none

/-- The template that stands under the name of a definition which is the last of its name. -/
theorem find?_of_last? (hc : ofRegistry r units = .ok c) {name : Text} {d : Definition}
    (h : last? (definitions r units) name = some d) :
    ∃ body, Template.parse d.body = .ok body ∧
      c.globals.find? name = some ⟨d.name, d.body, body⟩ := by
  obtain ⟨body, hparse, ht⟩ :=
    Definition.template?_eq_some (check_definitions r units d (mem_of_last? h).1)
  exact ⟨body, hparse, by rw [find?_eq_last? hc, h, Option.bind_some, ht]⟩

/-- The source stored under a name is the body of the last definition of the name. -/
theorem source_eq_last? (hc : ofRegistry r units = .ok c) (name : Text) :
    (c.globals.find? name).map NamedTemplate.source =
      (last? (definitions r units) name).map Definition.body := by
  cases h : last? (definitions r units) name with
  | none => rw [find?_eq_last? hc, h]; rfl
  | some d =>
    obtain ⟨body, -, hfind⟩ := find?_of_last? hc h
    rw [hfind]
    rfl

/-- The names of a compiled project are those of its definitions. -/
theorem contains_iff (hc : ofRegistry r units = .ok c) (name : Text) :
    c.contains name = true ↔ ∃ d ∈ definitions r units, d.name = name := by
  rw [contains, Namespace.contains, ← Option.isSome_map (f := NamedTemplate.source),
    source_eq_last? hc, Option.isSome_map, last?, List.find?_isSome]
  simp

end

/-- What is rendered under a name is what the statements of the template that stands there
give. -/
theorem render_of_result {c : Compiled} {name : Text} {t : NamedTemplate}
    (ht : c.globals.find? name = some t) {data : Template.Value}
    {result : Except Template.Failure Text} {events : List LogEvent}
    (h : (Template.render c.globals.library (c.base.invoke Template.invocationLimit) name t.body
      data.scope).result = (result, events)) :
    c.render name data = (result.mapError (.failed name), events) := by
  have hrender : (c.base.render c.globals name data).result = (result, events) := by
    rw [Base.render, Namespace.render, ht]
    exact h
  have hcontains : c.contains name = true := by
    rw [contains, Namespace.contains, ht]
    rfl
  rw [render, hcontains, if_pos rfl, execute, hrender]

/-- **Compiling never fails and never loses a definition.**  Every emitted
definition parses; the compiled project has exactly the emitted names, each with
the last definition of that name, and its invocations run on the same templates.
Each block of a unit is emitted as it was expanded, or verbatim with exactly one
recovery; in that case none of its slots is emitted, neither with it nor with a
later block. -/
theorem compilation_is_total (r : Registry) (units : List SourceUnit) :
    (∀ u ∈ units, ∀ d ∈ (u.expand r).definitions, Template.check d.body = none) ∧
    (∃ c, ofRegistry r units = .ok c ∧
      (∀ name, c.contains name = true ↔ ∃ u ∈ units, ∃ d ∈ (u.expand r).definitions, d.name = name) ∧
      c.base = .finished c.globals ∧
      ∀ name, (c.globals.find? name).map NamedTemplate.source =
        (last? (units.flatMap fun u => (u.expand r).definitions) name).map Definition.body) ∧
    ∀ u ∈ units,
      (u.blocks r).map (fun b => (b.name, b.raw)) = u.rawDefinitions ∧
      u.expand r = ⟨(u.blocks r).flatMap (·.output.definitions),
        (u.blocks r).flatMap (·.output.recoveries)⟩ ∧
      ∀ before b after, u.blocks r = before ++ b :: after →
        b.expansion = Expansion.ofText r u.name (before.flatMap (·.slotNames)).length
          (expandMarkers b.raw) ∧
        ((b.output.definitions = b.rewritten ∧
            b.output.recoveries.filter Recovery.isKept = []) ∨
          (b.output.definitions = [⟨b.name, verbatim b.raw⟩] ∧
            (∃ fault, b.output.recoveries.filter Recovery.isKept = [.kept b.name fault]) ∧
            ∀ name ∈ b.slotNames, ∀ b' ∈ after, name ∉ b'.slotNames)) := by
  refine ⟨?_, ?_, ?_⟩
  · intro u hu d hd
    exact check_definitions r units d (List.mem_flatMap.2 ⟨u, hu, hd⟩)
  · obtain ⟨c, hc⟩ := ofRegistry_ok r units
    refine ⟨c, hc, fun name => ?_, base_of_ofRegistry hc, source_eq_last? hc⟩
    rw [contains_iff hc, definitions]
    simp only [List.mem_flatMap]
    grind
  · intro u _
    refine ⟨ExpandedUnit.blocks_map r u.name 0 u.rawDefinitions, u.expand_eq_blocks r, ?_⟩
    intro before b after h
    refine ⟨?_, ?_⟩
    · have hexp := ExpandedUnit.blocks_expansion h
      rwa [Nat.zero_add] at hexp
    · rcases ExpandedUnit.output_cases b with ⟨hdef, hrec, -⟩ | ⟨hdef, hrec⟩
      · exact Or.inl ⟨hdef, hrec⟩
      · exact Or.inr ⟨hdef, hrec, ExpandedUnit.slotNames_disjoint h⟩

end Compiled

end Componentry
