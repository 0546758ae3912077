import Componentry.Engine.Basic
import Componentry.Proofs.Compilation
import Componentry.Proofs.Markup.Expansion
import Componentry.Proofs.Template.Maps

/-! # The order of units and sources

A project is a set of units: as long as no two units define the same name, the order
in which they are compiled shows in the listing only (`Compiled.order_irrelevant`).
Three facts carry this.

* The registry is asked only whether it invokes a name, and the names are those of
  the units as a set (`Registry.invokes_perm`), so every unit is expanded as before.
* Under each name stands its last definition, and where the names of the units are
  apart it is the same in every order (`Compiled.last?_perm`).
* Templates are looked up by name and in no other way, so two namespaces that find
  the same templates run alike (`Base.invoke_congr`).

Sources are kept by path, and only the last text of a path counts, so the units of
sources do not depend on their order at all (`SourceUnit.ofSources_congr`).
-/
namespace Componentry

open Template

/-! ## Expansion depends on the invoked names -/

theorem Registry.invokes_perm {units units' : List SourceUnit} (h : units.Perm units') :
    (ofUnits units).invokes = (ofUnits units').invokes := by
  funext name
  have hmem : name ∈ (ofUnits units).names ↔ name ∈ (ofUnits units').names := by
    simp only [mem_ofUnits, h.mem_iff]
  have hcontains : (ofUnits units).contains name = (ofUnits units').contains name := by
    rw [Bool.eq_iff_iff, contains, contains, List.contains_iff_mem, List.contains_iff_mem, hmem]
  rw [invokes, invokes, hcontains]

section Congruence

variable {r r' : Registry}

theorem Expansion.selfClosing_congr (h : r.invokes = r'.invokes) (s : Text) :
    selfClosing r s = selfClosing r' s := by
  fun_induction selfClosing r s with
  | case1 s hnext =>
    rw [h] at hnext
    rw [selfClosing_done hnext]
  | case2 s before e after hnext _ _ hself ih =>
    rw [h] at hnext
    rw [selfClosing_found hnext, if_pos hself, ih]
  | case3 s before e after hnext _ _ hself ih =>
    rw [h] at hnext
    rw [selfClosing_found hnext, if_neg hself, ih]
  | case4 s before name read after hnext _ ih =>
    rw [h] at hnext
    rw [selfClosing_unmatched hnext, ih]

theorem Expansion.paired_congr (h : r.invokes = r'.invokes) (owner : Text) (count offset : Nat)
    (s : Text) : paired r owner count offset s = paired r' owner count offset s := by
  fun_induction paired r owner count offset s with
  | case1 count offset s hnext =>
    rw [h] at hnext
    rw [paired_done hnext]
  | case2 count offset s before e after hnext _ offset' props hc ih =>
    rw [h] at hnext
    rw [paired_single hnext hc, ih]
  | case3 count offset s before e after hnext _ offset' props body close hc _ inner slots units
      rest ihinner ihrest =>
    rw [h] at hnext
    rw [paired_found hnext hc, ← ihinner]
    simp only [← ihrest, rest, units, slots, inner, offset', props]
  | case4 count offset s before name read after hnext _ start rest ih =>
    rw [h] at hnext
    rw [paired_unmatched hnext]
    simp only [← ih, rest, start]

/-- **A unit is expanded alike** under registries that invoke the same names. -/
theorem SourceUnit.expand_congr (h : r.invokes = r'.invokes) (u : SourceUnit) :
    u.expand r = u.expand r' := by
  have hraws : ∀ (count : Nat) (raws : List (Text × Text)),
      ExpandedUnit.ofDefinitions r u.name count raws =
        ExpandedUnit.ofDefinitions r' u.name count raws := by
    intro count raws
    induction raws generalizing count with
    | nil => rfl
    | cons raw raws ih =>
      obtain ⟨name, raw⟩ := raw
      have hexpansion : Expansion.ofText r u.name count (expandMarkers raw) =
          Expansion.ofText r' u.name count (expandMarkers raw) := by
        rw [Expansion.ofText, Expansion.ofText, Expansion.selfClosing_congr h,
          Expansion.paired_congr h]
      simp only [ExpandedUnit.ofDefinitions, hexpansion, ih]
  exact hraws 0 u.rawDefinitions

end Congruence

/-! ## Namespaces that find the same templates -/

namespace Namespace

/-- Two namespaces that find the same template under each name, and have equally many. -/
structure Agrees (ns ns' : Namespace) : Prop where
  find : ∀ name, ns.find? name = ns'.find? name
  count : ns.templates.length = ns'.templates.length

theorem length_put (t : NamedTemplate) (templates : List NamedTemplate) :
    (put t templates).length = templates.length +
      if (templates.find? fun u => u.name = t.name).isSome then 0 else 1 := by
  induction templates with
  | nil => rfl
  | cons u templates ih =>
    by_cases hu : u.name = t.name
    · simp [put, hu]
    · rw [put, if_neg hu, List.length_cons, ih, List.find?_cons_of_neg (by simpa using hu),
        List.length_cons, Nat.add_right_comm]

/-- Adding a template keeps agreement. -/
theorem Agrees.put {ns ns' : Namespace} (h : ns.Agrees ns') (t : NamedTemplate) :
    Agrees ⟨put t ns.templates⟩ ⟨put t ns'.templates⟩ := by
  have hfind : ∀ n, (ns.templates.find? fun u => u.name = n) =
      ns'.templates.find? fun u => u.name = n := h.find
  refine ⟨fun n => ?_, ?_⟩
  · rw [find?, find?, find?_put, find?_put, hfind]
  · rw [length_put, length_put, hfind, h.count]

theorem Agrees.library {ns ns' : Namespace} (h : ns.Agrees ns') : ns.library = ns'.library :=
  Library.ext (funext fun name => congrArg (Option.map NamedTemplate.body) (h.find name)) h.count

theorem Agrees.render {ns ns' : Namespace} (h : ns.Agrees ns') (invoker : Invoker) (name : Text)
    (data : Value) : ns.render invoker name data = ns'.render invoker name data := by
  rw [Namespace.render, Namespace.render, h.find name, h.library]

/-- Adding slot sources keeps agreement, so what runs afterwards runs alike. -/
theorem Agrees.install_render {ns ns' : Namespace} (h : ns.Agrees ns') (invoker : Invoker)
    (name : Text) (data : Value) (sources : List (Text × Text)) :
    (do let installed ← ns.install sources; installed.render invoker name data) =
      (do let installed ← ns'.install sources; installed.render invoker name data) := by
  induction sources generalizing ns ns' with
  | nil => simpa only [install, pure_bind] using h.render invoker name data
  | cons source sources ih =>
    obtain ⟨label, source⟩ := source
    cases hparse : parse source with
    | error fault =>
      have hadd : ∀ ns : Namespace, ns.add label source = .error fault := by
        intro ns
        rw [add, hparse]
        rfl
      simp only [install, hadd, bind_assoc]
      rw [ih h]
    | ok body =>
      have hadd : ∀ ns : Namespace, ns.add label source =
          .ok ⟨Namespace.put ⟨label, source, body⟩ ns.templates⟩ := by
        intro ns
        rw [add, hparse]
        rfl
      simp only [install, hadd]
      exact ih (h.put _)

theorem Agrees.partialRun {ns ns' : Namespace} (h : ns.Agrees ns') (invoker : Invoker)
    (name : Text) (props : Value) :
    ns.partialRun invoker name props = ns'.partialRun invoker name props :=
  h.install_render invoker name props props.allSlotSources

/-- The names of a namespace, each once. -/
theorem nodup_put (t : NamedTemplate) {templates : List NamedTemplate}
    (h : (templates.map NamedTemplate.name).Nodup) :
    ((put t templates).map NamedTemplate.name).Nodup := by
  have hmem : ∀ {name} {templates : List NamedTemplate},
      name ∈ (put t templates).map NamedTemplate.name →
        name = t.name ∨ name ∈ templates.map NamedTemplate.name := by
    intro name templates hname
    induction templates with
    | nil => exact Or.inl (List.mem_singleton.1 hname)
    | cons u templates ih =>
      rw [put] at hname
      split at hname
      · rw [List.map_cons, List.mem_cons] at hname
        exact hname.imp_right fun hm => by rw [List.map_cons]; exact List.mem_cons_of_mem _ hm
      · rw [List.map_cons, List.mem_cons] at hname
        rw [List.map_cons, List.mem_cons]
        rcases hname with hname | hname
        · exact Or.inr (Or.inl hname)
        · exact (ih hname).imp_right Or.inr
  induction templates with
  | nil => simp [put]
  | cons u templates ih =>
    rw [List.map_cons, List.nodup_cons] at h
    rw [put]
    split
    · rename_i hu
      rw [List.map_cons, List.nodup_cons, ← hu]
      exact h
    · rename_i hu
      rw [List.map_cons, List.nodup_cons]
      refine ⟨fun hname => ?_, ih h.2⟩
      rcases hmem hname with heq | hname
      · exact hu heq
      · exact h.1 hname

theorem mem_names_iff (ns : Namespace) (name : Text) :
    name ∈ ns.templates.map NamedTemplate.name ↔ (ns.find? name).isSome = true := by
  rw [find?, List.find?_isSome, List.mem_map]
  simp only [decide_eq_true_eq]

end Namespace

/-- Invocations on namespaces that agree are the same, at every level. -/
theorem Base.invoke_congr {ns ns' : Namespace} (h : ns.Agrees ns') (levels : Nat) :
    (finished ns).invoke levels = (finished ns').invoke levels := by
  induction levels with
  | zero => rfl
  | succ levels ih =>
    funext name props
    rw [invoke, invoke, ih]
    exact h.partialRun _ name props

/-! ## Sorted names -/

namespace Text

/-- Sorting forgets the order of texts. -/
theorem sort_perm {texts texts' : List Text} (h : texts.Perm texts') : sort texts = sort texts' :=
  mergeSort_eq_iff_perm.2 h

end Text

/-! ## Compiled projects -/

namespace Compiled

theorem last?_append (definitions more : List Definition) (name : Text) :
    last? (definitions ++ more) name = (last? more name).or (last? definitions name) := by
  rw [last?, List.reverse_append, List.find?_append]
  rfl

theorem name_mem_of_last? {definitions : List Definition} {name : Text} {d : Definition}
    (h : last? definitions name = some d) : name ∈ definitions.map Definition.name := by
  obtain ⟨hd, rfl⟩ := mem_of_last? h
  exact List.mem_map_of_mem hd

/-- Whether no two of the units define the same name.  One unit may define a name
twice. -/
def NamesApart (units : List SourceUnit) : Prop :=
  units.Pairwise fun u v =>
    ∀ name ∈ (u.expand (.ofUnits units)).names, name ∉ (v.expand (.ofUnits units)).names

/-- **Where the names of units are apart, the last definition of a name is the same in
every order of the units.** -/
theorem last?_perm {r : Registry} {units units' : List SourceUnit} (h : units.Perm units')
    (hapart : units.Pairwise fun u v =>
      ∀ name ∈ (u.expand r).names, name ∉ (v.expand r).names) (name : Text) :
    last? (definitions r units) name = last? (definitions r units') name := by
  induction h with
  | nil => rfl
  | cons u _ ih =>
    simp only [definitions, List.flatMap_cons, last?_append] at ih ⊢
    rw [ih (List.pairwise_cons.1 hapart).2]
  | swap u v units =>
    simp only [definitions, List.flatMap_cons, last?_append, Option.or_assoc]
    congr 1
    have hne := (List.pairwise_cons.1 hapart).1 u (by simp) name
    cases hu : last? (u.expand r).definitions name with
    | none => rw [Option.none_or, Option.or_none]
    | some d =>
      cases hv : last? (v.expand r).definitions name with
      | none => rw [Option.none_or, Option.or_none]
      | some d' => exact absurd (name_mem_of_last? hu) (hne (name_mem_of_last? hv))
  | trans h₁ _ ih₁ ih₂ =>
    have hsymm : ∀ {u v : SourceUnit}, (∀ name ∈ (u.expand r).names, name ∉ (v.expand r).names) →
        ∀ name ∈ (v.expand r).names, name ∉ (u.expand r).names :=
      fun huv n hn hm => huv n hm hn
    rw [ih₁ hapart, ih₂ ((h₁.pairwise_iff hsymm).1 hapart)]

theorem definitions_congr {r r' : Registry} (h : r.invokes = r'.invokes) (units : List SourceUnit) :
    definitions r units = definitions r' units := by
  simp only [definitions, SourceUnit.expand_congr h]

theorem nodup_addAll {definitions : List Definition} {ns ns' : Namespace}
    (hns : (ns.templates.map NamedTemplate.name).Nodup) (h : addAll ns definitions = .ok ns') :
    (ns'.templates.map NamedTemplate.name).Nodup := by
  induction definitions generalizing ns with
  | nil =>
    cases h
    exact hns
  | cons d definitions ih =>
    rw [addAll, Namespace.add] at h
    cases hparse : parse d.body with
    | error fault =>
      rw [hparse] at h
      cases h
    | ok body =>
      rw [hparse] at h
      exact ih (Namespace.nodup_put ⟨d.name, d.body, body⟩ hns) h

theorem nodup_names {r : Registry} {units : List SourceUnit} {c : Compiled}
    (h : ofRegistry r units = .ok c) : (c.globals.templates.map NamedTemplate.name).Nodup := by
  rw [ofRegistry] at h
  cases hall : addAll .empty (definitions r units) with
  | error fault =>
    rw [hall] at h
    cases h
  | ok ns =>
    rw [hall] at h
    cases h
    have hempty : (Namespace.empty.templates.map NamedTemplate.name).Nodup := List.nodup_nil
    exact nodup_addAll hempty hall

/-- Compiled projects that find the same templates have them in some order each. -/
theorem names_perm {r r' : Registry} {units units' : List SourceUnit} {c c' : Compiled}
    (hc : ofRegistry r units = .ok c) (hc' : ofRegistry r' units' = .ok c')
    (h : ∀ name, c.globals.find? name = c'.globals.find? name) :
    (c.globals.templates.map NamedTemplate.name).Perm
      (c'.globals.templates.map NamedTemplate.name) := by
  refine (List.perm_ext_iff_of_nodup (nodup_names hc) (nodup_names hc')).2 fun name => ?_
  rw [Namespace.mem_names_iff, Namespace.mem_names_iff, h name]

/-- Compiled projects that find the same templates have the same names. -/
theorem names_congr {r r' : Registry} {units units' : List SourceUnit} {c c' : Compiled}
    (hc : ofRegistry r units = .ok c) (hc' : ofRegistry r' units' = .ok c')
    (h : c.globals.Agrees c'.globals) : c.names = c'.names :=
  Text.sort_perm (names_perm hc hc' h.find)

/-- What a compiled project finds under a name is told by the last definition of the
name. -/
theorem agrees_of_last? {r r' : Registry} {units units' : List SourceUnit} {c c' : Compiled}
    (hc : ofRegistry r units = .ok c) (hc' : ofRegistry r' units' = .ok c')
    (h : ∀ name, last? (definitions r units) name = last? (definitions r' units') name) :
    c.globals.Agrees c'.globals := by
  have hfind : ∀ name, c.globals.find? name = c'.globals.find? name := by
    intro name
    rw [find?_eq_last? hc, find?_eq_last? hc', h name]
  refine ⟨hfind, ?_⟩
  simpa using (names_perm hc hc' hfind).length_eq

theorem render_congr {c c' : Compiled} (hbase : c.base = .finished c.globals)
    (hbase' : c'.base = .finished c'.globals) (h : c.globals.Agrees c'.globals) (name : Text)
    (data : Value) : c.render name data = c'.render name data := by
  have hcontains : c.contains name = c'.contains name := by
    rw [contains, contains, Namespace.contains, Namespace.contains, h.find name]
  have hrun : c.base.render c.globals name data = c'.base.render c'.globals name data := by
    rw [hbase, hbase', Base.render, Base.render, Base.invoke_congr h, h.render]
  rw [render, render, hcontains, execute, execute, hrun]

theorem runPartial_congr {c c' : Compiled} (hbase : c.base = .finished c.globals)
    (hbase' : c'.base = .finished c'.globals) (h : c.globals.Agrees c'.globals) (name : Text)
    (props : Value) : c.runPartial name props = c'.runPartial name props := by
  have hrun : c.base.partialRun c.globals name props.promote =
      c'.base.partialRun c'.globals name props.promote := by
    rw [hbase, hbase', Base.partialRun, Base.partialRun, Base.invoke_congr h, h.partialRun]
  rw [runPartial, runPartial, hrun]

end Compiled

/-! ## Sources -/

/-- Entries in order are told by what stands under each name. -/
theorem Template.Value.InOrder.ext {entries entries' : List (Text × Value)} (h : InOrder entries)
    (h' : InOrder entries') (hfirst : ∀ x, first? x entries = first? x entries') :
    entries = entries' := by
  have hnodup : ∀ {entries : List (Text × Value)}, InOrder entries → entries.Nodup := by
    intro entries hin
    refine hin.imp ?_
    rintro e f hlt rfl
    rw [Text.order_self] at hlt
    cases hlt
  refine List.Perm.eq_of_pairwise (fun e f _ _ hef hfe => ?_) h h'
    ((List.perm_ext_iff_of_nodup (hnodup h) (hnodup h')).2 ?_)
  · have hself := Std.TransCmp.lt_trans hef hfe
    rw [Text.order_self] at hself
    cases hself
  · rintro ⟨x, v⟩
    constructor
    · intro hmem
      exact mem_of_first? (hfirst x ▸ h.first?_of_mem hmem)
    · intro hmem
      exact mem_of_first? (hfirst x ▸ h'.first?_of_mem hmem)

namespace SourceUnit

/-- The last text of a path. -/
def lastText? (path : Path) (sources : List (Path × Text)) : Option Text :=
  (sources.reverse.find? fun s => s.1 = path).map Prod.snd

/-- Sources as the entries of a map from paths to texts. -/
def entries (sources : List (Path × Text)) : List (Text × Value) :=
  sources.map fun s => (s.1, Value.ofText s.2)

theorem entries_insert (path : Path) (raw : Text) (sources : List (Path × Text)) :
    entries (insert path raw sources) = Value.insertNamed path (Value.ofText raw) (entries sources) := by
  induction sources with
  | nil => rfl
  | cons source sources ih =>
    obtain ⟨p, r⟩ := source
    have hcons : entries ((p, r) :: sources) = (p, Value.ofText r) :: entries sources := rfl
    rw [insert, hcons, Value.insertNamed]
    cases h : Text.order path p with
    | lt => rfl
    | eq =>
      rw [Text.eq_of_order h]
      rfl
    | gt =>
      simp only [← ih]
      rfl

theorem entries_injective {sources sources' : List (Path × Text)}
    (h : entries sources = entries sources') : sources = sources' := by
  refine List.map_inj_right ?_ |>.1 h
  rintro ⟨p, r⟩ ⟨p', r'⟩ heq
  simp only [Prod.mk.injEq, Value.ofText, Value.string.injEq] at heq
  simp [heq.1, heq.2.1]

theorem last?_entries (path : Path) (sources : List (Path × Text)) :
    Value.last? path (entries sources) = (lastText? path sources).map Value.ofText := by
  rw [Value.last?, Value.first?, lastText?, entries, ← List.map_reverse, List.find?_map,
    Option.map_map, Option.map_map]
  rfl

/-- **The units of sources depend on the last text of each path only.** -/
theorem ofSources_congr {sources sources' : List (Path × Text)}
    (h : ∀ path, lastText? path sources = lastText? path sources') :
    ofSources sources = ofSources sources' := by
  have hsorted : ∀ sources done : List (Path × Text),
      entries (sources.foldl (fun sorted e => insert e.1 e.2 sorted) done) =
        (entries sources).foldl (fun done e => Value.insertNamed e.1 e.2 done) (entries done) := by
    intro sources
    induction sources with
    | nil => exact fun _ => rfl
    | cons source sources ih =>
      intro done
      rw [List.foldl_cons, ih, entries_insert]
      rfl
  have hnil : ∀ sources : List (Path × Text),
      entries (sources.foldl (fun sorted e => insert e.1 e.2 sorted) []) =
        Value.sorted (entries sources) := fun sources => hsorted sources []
  have hlists : Value.sorted (entries sources) = Value.sorted (entries sources') := by
    refine Value.InOrder.ext (Value.inOrder_sorted _) (Value.inOrder_sorted _) fun path => ?_
    rw [Value.first?_sorted, Value.first?_sorted, last?_entries, last?_entries, h path]
  rw [← hnil, ← hnil] at hlists
  exact congrArg (List.map _) (entries_injective hlists)

end SourceUnit

namespace Compiled

/-- **The order of units does not matter unless their names clash, and that of sources
does not matter at all.**  Units that no name is shared by compile in every order to
projects with the same names, which render alike and run alike as partials.  Sources
that have the same last text for every path give the same engine, its listing and
its digest included. -/
theorem order_irrelevant :
    (∀ units units' : List SourceUnit, units.Perm units' → NamesApart units →
      ∃ c c', ofUnits units = .ok c ∧ ofUnits units' = .ok c' ∧ c.names = c'.names ∧
        ∀ name data, c.render name data = c'.render name data ∧
          c.runPartial name data = c'.runPartial name data) ∧
    ∀ (options : Options) (sources sources' : List (Path × Text)),
      (∀ path, SourceUnit.lastText? path sources = SourceUnit.lastText? path sources') →
        ∃ e, Engine.ofSources options sources = .ok e ∧ Engine.ofSources options sources' = .ok e := by
  constructor
  · intro units units' hperm hapart
    obtain ⟨c, hc⟩ := ofRegistry_ok (.ofUnits units) units
    obtain ⟨c', hc'⟩ := ofRegistry_ok (.ofUnits units') units'
    have hagrees : c.globals.Agrees c'.globals := by
      refine agrees_of_last? hc hc' fun name => ?_
      rw [last?_perm hperm hapart name, definitions_congr (Registry.invokes_perm hperm)]
    have hbase := base_of_ofRegistry hc
    have hbase' := base_of_ofRegistry hc'
    exact ⟨c, c', hc, hc', names_congr hc hc' hagrees, fun name data =>
      ⟨render_congr hbase hbase' hagrees name data, runPartial_congr hbase hbase' hagrees name data⟩⟩
  · intro options sources sources' h
    obtain ⟨c, hc⟩ := ofRegistry_ok (.ofUnits (SourceUnit.ofSources sources))
      (SourceUnit.ofSources sources)
    have hengine : Engine.ofSources options sources = .ok ⟨options, SourceUnit.ofSources sources, c⟩ := by
      rw [Engine.ofSources, Engine.ofUnits, ofUnits, hc]
      rfl
    refine ⟨_, hengine, ?_⟩
    rw [Engine.ofSources, ← SourceUnit.ofSources_congr h]
    exact hengine

/-- A component that places its slot, a page that fills it, and the sources of both
with an older text of the page. -/
def boxSource : Path × Text := ("Box.html".toList, "[\x7b% slot %\x7d]".toList)

def pageSource : Path × Text := ("page.html".toList, "<Box>1</Box>".toList)

def oldPageSource : Path × Text := ("page.html".toList, "<Box/>".toList)

/-- The units of the component and the page. -/
def boxedUnits : List SourceUnit :=
  [.ofRelative boxSource.1 boxSource.2, .ofRelative pageSource.1 pageSource.2]

set_option maxRecDepth 100000 in
theorem boxed_order_irrelevant :
    (boxedUnits.Perm boxedUnits.reverse ∧ NamesApart boxedUnits ∧
      ∃ c c', ofUnits boxedUnits = .ok c ∧ ofUnits boxedUnits.reverse = .ok c' ∧
        c.names = c'.names ∧ ∀ name data, c.render name data = c'.render name data ∧
          c.runPartial name data = c'.runPartial name data) ∧
    (∀ path, SourceUnit.lastText? path [boxSource, oldPageSource, pageSource] =
      SourceUnit.lastText? path [oldPageSource, pageSource, boxSource]) ∧
    ∃ e, Engine.ofSources .default [boxSource, oldPageSource, pageSource] = .ok e ∧
      Engine.ofSources .default [oldPageSource, pageSource, boxSource] = .ok e := by
  have hperm : boxedUnits.Perm boxedUnits.reverse := (List.reverse_perm _).symm
  have hapart : NamesApart boxedUnits := by
    unfold NamesApart
    decide +kernel
  have hlast : ∀ path, SourceUnit.lastText? path [boxSource, oldPageSource, pageSource] =
      SourceUnit.lastText? path [oldPageSource, pageSource, boxSource] := by
    intro path
    by_cases hbox : boxSource.1 = path
    · subst hbox
      decide
    · simp [SourceUnit.lastText?, List.find?_cons, hbox]
  exact ⟨⟨hperm, hapart, order_irrelevant.1 _ _ hperm hapart⟩, hlast,
    order_irrelevant.2 .default _ _ hlast⟩

end Compiled

end Componentry
