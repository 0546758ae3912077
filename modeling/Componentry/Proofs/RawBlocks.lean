import Componentry.Proofs.Fallback
import Componentry.Proofs.Slots.Pages
import Componentry.Tag.Location

/-! # Raw blocks that an author writes

Nothing that rewrites a source knows of raw blocks.  Component blocks are cut out,
slot markers replaced and invocations expanded inside of them as everywhere else,
and what stands there then is shown (`Compiled.rendered_rawBlocks`).

A source that is one raw block and has none of the three is left as it is, so it
shows its contents (`Compiled.render_rawBlock`).  Tags of components that are never
closed do not matter: a scan that finds no element (`Scan.Quiet`) changes nothing.
-/
namespace Componentry

/-! ## Scans that find no element -/

/-- The scan meets only tags that are never closed. -/
inductive Scan.Quiet (accept : Text → Bool) : Text → Prop where
  | done {s : Text} : Scan.next accept s = .done → Quiet accept s
  | unmatched {s before name read after : Text} :
    Scan.next accept s = .unmatched before name read after → Quiet accept after → Quiet accept s

/-- A report that is long enough lists every element. -/
theorem Report.quiet_of_list {accept : Text → Bool} {limit : Nat} {s : Text} {offset : Nat}
    (hlimit : s.length < limit)
    (h : ∀ element, .found element ∉ list accept .over limit s offset) :
    Scan.Quiet accept s := by
  induction limit generalizing s offset with
  | zero => omega
  | succ limit ih =>
    cases hnext : Scan.next accept s with
    | done => exact .done hnext
    | found before e after =>
      refine absurd ?_ (h (e.locate (offset + Text.byteLength before)))
      rw [list, hnext]
      exact List.mem_cons_self
    | unmatched before name read after =>
      have hlen := Scan.unmatched_after_length hnext
      have hdrop : s.drop (before.length + read.length) = after := by
        rw [← (Scan.next_eq_unmatched hnext).1, ← List.length_append, List.drop_left]
      -- What is reported behind the tag is reported of the whole text.
      have hrest : ∀ element, .found element ∉ list accept .over limit after
          (offset + Text.byteLength (s.take (before.length + read.length))) := by
        intro element hmem
        refine h element ?_
        rw [list, hnext]
        simp only [skip, hdrop]
        exact List.mem_cons_of_mem _ hmem
      exact .unmatched hnext (ih (by omega) hrest)

/-- In a text without invocations the scan finds no element. -/
theorem Registry.quiet_of_firstInvocation? {r : Registry} {s : Text}
    (h : r.firstInvocation? s 0 = none) : Scan.Quiet r.invokes s := by
  rw [firstInvocation?, Text.fromByte, List.findSome?_eq_none_iff] at h
  have hnone : ∀ element, .found element ∉ Report.list r.invokes .over (s.length + 2) s
      (Text.byteLength s - Text.byteLength s) := by
    intro element hmem
    cases h _ hmem
  exact Report.quiet_of_list (by omega) hnone

namespace Expansion

variable {r : Registry} {s : Text}

theorem selfClosing_quiet (h : Scan.Quiet r.invokes s) : selfClosing r s = s := by
  induction h with
  | done hnext => exact selfClosing_done hnext
  | unmatched hnext _ ih =>
    rw [selfClosing_unmatched hnext, ih]
    exact (Scan.next_eq_unmatched hnext).1

theorem paired_quiet (h : Scan.Quiet r.invokes s) (owner : Text) (count offset : Nat) :
    (paired r owner count offset s).text = s ∧ (paired r owner count offset s).units = [] := by
  induction h generalizing offset with
  | done hnext => rw [paired_done hnext]; exact ⟨rfl, rfl⟩
  | unmatched hnext _ ih =>
    rw [paired_unmatched hnext]
    obtain ⟨htext, hunits⟩ := ih _
    refine ⟨?_, hunits⟩
    simp only [htext]
    exact (Scan.next_eq_unmatched hnext).1

/-- A text without invocations is not expanded. -/
theorem ofText_quiet (h : Scan.Quiet r.invokes s) (owner : Text) (count : Nat) :
    (ofText r owner count s).text = s ∧ (ofText r owner count s).units = [] := by
  rw [ofText, selfClosing_quiet h]
  exact paired_quiet h owner count 0

end Expansion

/-! ## A unit that is left as it is -/

/-- A unit in which nothing is rewritten, and whose text parses, is one definition that
holds the text. -/
theorem SourceUnit.definitions_of_quiet {r : Registry} {u : SourceUnit}
    (hblocks : componentBlocks u.raw = []) (hmarkers : Text.find? Marker.slot? u.raw = none)
    (hquiet : Scan.Quiet r.invokes u.raw) (hcheck : Template.check u.raw = none) :
    (u.expand r).definitions = [⟨u.name, u.raw⟩] := by
  obtain ⟨htext, hunits⟩ := Expansion.ofText_quiet hquiet u.name 0
  have hfault : ExpandedUnit.fault? u.name (.ofText r u.name 0 u.raw) = none := by
    simp [ExpandedUnit.fault?, Template.fault?, htext, hunits, hcheck]
  rw [expand, rawDefinitions_single hblocks]
  simp [ExpandedUnit.ofDefinitions, ExpandedUnit.ofExpansion, expandMarkers_none hmarkers,
    hfault, htext, hunits]

namespace Compiled

open Template

/-- A unit that is one definition stands under its name if no later unit defines it. -/
theorem last?_definitions {r : Registry} (before : List SourceUnit) {after : List SourceUnit}
    {u : SourceUnit} {body : Text} (hu : (u.expand r).definitions = [⟨u.name, body⟩])
    (hafter : ∀ d ∈ definitions r after, d.name ≠ u.name) :
    last? (definitions r (before ++ u :: after)) u.name = some ⟨u.name, body⟩ := by
  have hnone : (definitions r after).reverse.find? (fun d => d.name = u.name) = none :=
    last?_eq_none_iff.2 hafter
  have hsplit : definitions r (before ++ u :: after) =
      definitions r before ++ (⟨u.name, body⟩ :: definitions r after) := by
    rw [definitions, List.flatMap_append, List.flatMap_cons, hu]
    rfl
  rw [last?, hsplit, List.reverse_append, List.reverse_cons, List.append_assoc, List.find?_append,
    hnone]
  simp

/-- **A raw block shows its contents** as they are written, whatever the data are, if the
source holds no component block, no slot marker and no invocation of a registered
component. -/
theorem render_rawBlock {r : Registry} {before after : List SourceUnit} {u : SourceUnit} {t : Text}
    (hraw : u.raw = rawTag ++ t ++ endRawTag) (hend : Text.find? Marker.endRaw? t = none)
    (hblocks : SourceUnit.componentBlocks u.raw = [])
    (hmarkers : Text.find? Marker.slot? u.raw = none)
    (hinvocations : r.firstInvocation? u.raw 0 = none)
    (hafter : ∀ d ∈ definitions r after, d.name ≠ u.name) :
    ∃ c, ofRegistry r (before ++ u :: after) = .ok c ∧
      ∀ data, c.render u.name data = (.ok t, []) := by
  -- The source is what the fallback writes for `t`, and that parses.
  rw [← verbatim_of_none hend] at hraw
  have hdefinitions := SourceUnit.definitions_of_quiet hblocks hmarkers
    (Registry.quiet_of_firstInvocation? hinvocations) (hraw ▸ check_verbatim t)
  have hlast := last?_definitions before hdefinitions hafter
  obtain ⟨c, hc⟩ := ofRegistry_ok r (before ++ u :: after)
  -- What stands under the name of the unit is the parsed source.
  obtain ⟨body, hparse, htemplate⟩ := find?_of_last? hc hlast
  obtain ⟨body', hbody, hshows⟩ := parse_verbatim t
  rw [hraw, hbody] at hparse
  obtain rfl : body' = body := Except.ok.inj hparse
  refine ⟨c, hc, fun data => ?_⟩
  have hrun := hshows.render_eq c.globals.library (c.base.invoke invocationLimit) u.name data.scope
  exact render_of_result htemplate (congrArg Run.result hrun)

/-- A component without tags. -/
def plainCard : SourceUnit := ⟨"Card.html".toList, "Card".toList, ['b']⟩

/-- A page that is a raw block around a text. -/
def rawPage (t : Text) : SourceUnit :=
  ⟨"page.html".toList, "page".toList, rawTag ++ t ++ endRawTag⟩

/-- An invocation that is never closed, and template code: `<Card>{{ x }}`. -/
def unclosedCard : Text := "<Card>\x7b\x7b x \x7d\x7d".toList

theorem render_unclosedCard :
    (Text.find? Marker.endRaw? unclosedCard = none ∧
        SourceUnit.componentBlocks (rawPage unclosedCard).raw = [] ∧
        Text.find? Marker.slot? (rawPage unclosedCard).raw = none ∧
        Registry.firstInvocation? ⟨["Card".toList]⟩ (rawPage unclosedCard).raw 0 = none) ∧
      ∃ c, ofRegistry ⟨["Card".toList]⟩ ([plainCard] ++ [rawPage unclosedCard]) = .ok c ∧
        ∀ data, c.render "page".toList data = (.ok unclosedCard, []) := by
  have hend : Text.find? Marker.endRaw? unclosedCard = none := by decide +kernel
  have hblocks : SourceUnit.componentBlocks (rawPage unclosedCard).raw = [] := by decide +kernel
  have hmarkers : Text.find? Marker.slot? (rawPage unclosedCard).raw = none := by decide +kernel
  have hinvocations :
      Registry.firstInvocation? ⟨["Card".toList]⟩ (rawPage unclosedCard).raw 0 = none := by
    decide +kernel
  exact ⟨⟨hend, hblocks, hmarkers, hinvocations⟩,
    render_rawBlock rfl hend hblocks hmarkers hinvocations (List.forall_mem_nil _)⟩

/-- **What is rewritten in raw blocks**: an invocation and a slot marker are shown as the code
that they are replaced by, and of a page with a component block no definition is left. -/
theorem rendered_rawBlocks :
    rendered [plainCard, rawPage "<Card/>".toList] "page".toList =
        some "\x7b\x7b invoke(\"Card\", dict()) \x7d\x7d".toList ∧
      rendered [plainCard, rawPage "\x7b% slot %\x7d".toList] "page".toList =
        some (placeholder defaultLabel) ∧
      rendered [plainCard, rawPage "\x7b% component A %\x7dx\x7b% endcomponent %\x7d".toList]
          "page".toList = none := by
  decide +kernel

end Compiled

end Componentry
