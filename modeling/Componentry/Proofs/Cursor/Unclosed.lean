import Componentry.Proofs.Cursor.Spans
import Componentry.Proofs.Markup.EmptyElements
import Componentry.Proofs.Origins

/-! # Where reports of unclosed tags point

The second pass reports every tag without its end, with an offset in the text that its scans
read.  That text is the unit's source in which slot markers and self-closing invocations are
rewritten, or, for a tag among the contents of an invocation, the contents alone
(`Cursor.Reports`).  So the tag stands behind the start of the contents by its offset, and in
the source at the origin of that place (`SourceUnit.unmatched_holdsAt`).  At the offset itself
it stands if it is among no contents and nothing in front of it is rewritten; elsewhere it need
not (`SourceUnit.unmatched_offset_ne`).
-/
namespace Componentry

namespace Scan

/-- What is met without its end is named like a tag. -/
theorem isName_of_next {accept : Text → Bool} {s before name read after : Text}
    (h : next accept s = .unmatched before name read after) : Tag.isName name = true := by
  fun_induction next accept s generalizing before with
  | case1 => cases h
  | case4 t name' rest hname _ _ =>
    have hcovers := covers_atName name' rest
    rw [h] at hcovers
    rw [of_decide_eq_true hcovers.2.1]
    exact (Tag.isName_of_name? hname).1
  | case2 | case3 | case5 | case6 =>
    rename_i ih
    obtain ⟨b, hb⟩ := under_eq_unmatched h
    exact ih hb

end Scan

namespace Cursor

variable {r : Registry} {text s : Text} {i base : Nat} {tag : UnmatchedTag}

/-- The tags that the scans of the second pass over a text meet without their ends, from an
offset on.  A scan goes on behind such a tag, and behind an element; the contents of an
element are a text of their own, which starts `base` bytes behind the start of the whole. -/
inductive Reports (r : Registry) : (text : Text) → (i base : Nat) → UnmatchedTag → Prop where
  | here {text name : Text} {i start resume : Nat} :
      scan text r.invokes i = some (.unmatched name start resume) →
      Reports r text i 0 ⟨name, start⟩
  | past {text name : Text} {i start resume base : Nat} {tag : UnmatchedTag} :
      scan text r.invokes i = some (.unmatched name start resume) →
      Reports r text resume base tag → Reports r text i base tag
  | behind {text : Text} {i base : Nat} {m : TagMatch} {tag : UnmatchedTag} :
      scan text r.invokes i = some (.found m) →
      Reports r text m.stop base tag → Reports r text i base tag
  | inside {text contents : Text} {i base start stop : Nat} {m : TagMatch} {tag : UnmatchedTag} :
      scan text r.invokes i = some (.found m) → m.body = some (start, stop) →
      text.slice? start stop = some contents →
      Reports r contents 0 base tag → Reports r text i (start + base) tag

namespace Reports

theorem done (hscan : scan text r.invokes i = some .done) : ¬ Reports r text i base tag := by
  intro hreports
  cases hreports with
  | here h | past h | behind h | inside h => cases hscan.symm.trans h

theorem unmatched_iff {name : Text} {start resume : Nat}
    (hscan : scan text r.invokes i = some (.unmatched name start resume)) :
    Reports r text i base tag ↔
      base = 0 ∧ tag = ⟨name, start⟩ ∨ Reports r text resume base tag := by
  constructor
  · intro hreports
    cases hreports with
    | here h =>
      cases hscan.symm.trans h
      exact .inl ⟨rfl, rfl⟩
    | past h hrest =>
      cases hscan.symm.trans h
      exact .inr hrest
    | behind h | inside h => cases hscan.symm.trans h
  · rintro (⟨rfl, rfl⟩ | hrest)
    · exact .here hscan
    · exact .past hscan hrest

/-- Behind an element that closes itself the scans go on. -/
theorem single_iff {m : TagMatch} (hscan : scan text r.invokes i = some (.found m))
    (hbody : m.body = none) : Reports r text i base tag ↔ Reports r text m.stop base tag := by
  constructor
  · intro hreports
    cases hreports with
    | here h | past h => cases hscan.symm.trans h
    | behind h hrest =>
      cases hscan.symm.trans h
      exact hrest
    | inside h hspan =>
      cases hscan.symm.trans h
      cases hbody.symm.trans hspan
  · exact .behind hscan

/-- What is met in an element is met among its contents or behind it. -/
theorem pair_iff {m : TagMatch} {contents : Text} {start stop : Nat}
    (hscan : scan text r.invokes i = some (.found m)) (hbody : m.body = some (start, stop))
    (hslice : text.slice? start stop = some contents) :
    (∃ base, Reports r text i base tag) ↔
      (∃ base, Reports r contents 0 base tag) ∨ ∃ base, Reports r text m.stop base tag := by
  constructor
  · rintro ⟨base, hreports⟩
    cases hreports with
    | here h | past h => cases hscan.symm.trans h
    | behind h hrest =>
      cases hscan.symm.trans h
      exact .inr ⟨base, hrest⟩
    | inside h hspan hcontents hrest =>
      cases hscan.symm.trans h
      cases hbody.symm.trans hspan
      cases hslice.symm.trans hcontents
      exact .inl ⟨_, hrest⟩
  · rintro (⟨base, hrest⟩ | ⟨base, hrest⟩)
    · exact ⟨start + base, .inside hscan hbody hslice hrest⟩
    · exact ⟨base, .behind hscan hrest⟩

end Reports

/-- An element has no contents if it closes itself. -/
theorem locate_body_none {e : Element} (hcontents : e.contents = none) (start : Nat) :
    (e.locate start).tagMatch.body = none := by
  simp [Location.tagMatch, Element.locate, Element.isSelfClosing, hcontents]

theorem locate_body_some {e : Element} {body close : Text}
    (hcontents : e.contents = some (body, close)) (start : Nat) :
    ∃ first last, (e.locate start).tagMatch.body = some (first, last) := by
  simp [Location.tagMatch, Element.locate, Element.isSelfClosing, hcontents]

/-- **The second pass reports the tags that its scans meet**, and no others. -/
theorem mem_unmatched_paired (owner : Text) (count : Nat) (h : Text.atByte? i text = some s) :
    tag ∈ (Expansion.paired r owner count i s).unmatched ↔ ∃ base, Reports r text i base tag := by
  fun_induction Expansion.paired r owner count i s generalizing text with
  | case1 count i s hnext => simp [Reports.done (scan_done h hnext)]
  | case2 count i s before e after hnext hlen offset props =>
    rename_i hcontents ih
    obtain ⟨hscan, hstart⟩ := scan_found h hnext
    obtain ⟨-, -, hstop⟩ := locate_cut hstart
    have hbody := locate_body_none hcontents (i + Text.byteLength before)
    simp only [Reports.single_iff hscan hbody]
    exact ih hstop
  | case3 count i s before e after hnext hlen offset props body close =>
    rename_i hcontents hbodyLen inner slots units rest ihinner ih
    obtain ⟨hscan, hstart⟩ := scan_found h hnext
    obtain ⟨-, hbodyText, hstop⟩ := locate_cut hstart
    obtain ⟨first, last, hbody⟩ := locate_body_some hcontents (i + Text.byteLength before)
    have hslice : text.slice? first last = some body := by
      rw [TagMatch.bodyText?, hbody] at hbodyText
      exact hbodyText.trans (by rw [Element.body, hcontents])
    rw [List.mem_append, ihinner (Text.atByte?_zero body), ih hstop]
    exact (Reports.pair_iff hscan hbody hslice).symm
  | case4 count i s before name read after hnext hlen start =>
    rename_i rest ih
    obtain ⟨hscan, hresume⟩ := scan_unmatched h hnext
    rw [List.mem_cons, ih hresume]
    simp only [Reports.unmatched_iff hscan, exists_or, exists_and_right, exists_eq, true_and]
    rfl

/-- **A reported tag stands behind the start of its contents by its offset.** -/
theorem Reports.holdsAt (h : Reports r text i base tag) (hi : text.isBoundary i = true) :
    Tag.isName tag.name = true ∧
      Text.holdsAt ('<' :: tag.name) text (base + tag.offset) = true := by
  induction h with
  | @here text name i start resume hscan =>
    obtain ⟨s, hs⟩ := Option.isSome_iff_exists.1 hi
    obtain ⟨before, read, after, hnext, hstart, -⟩ := next_of_scan_unmatched hs hscan
    obtain ⟨-, -, more, hread⟩ := Scan.next_eq_unmatched hnext
    refine ⟨Scan.isName_of_next hnext, ?_⟩
    rw [unmatched_text hnext, hread, List.append_assoc] at hs
    rw [Nat.zero_add, hstart, Text.holdsAt_iff]
    exact ⟨more ++ after, Text.atByte?_add hs⟩
  | past hscan _ ih =>
    obtain ⟨s, hs⟩ := Option.isSome_iff_exists.1 hi
    obtain ⟨_, _, _, -, -, -, hresume⟩ := next_of_scan_unmatched hs hscan
    exact ih (Text.isBoundary_of_atByte? hresume)
  | behind hscan _ ih =>
    obtain ⟨s, hs⟩ := Option.isSome_iff_exists.1 hi
    have hwellFormed := Outcome.of_wellFormed r.invokes hs
    rw [Option.some.inj ((scan_eq r.invokes hs).symm.trans hscan)] at hwellFormed
    exact ih (hwellFormed.boundaries _ (by simp [TagMatch.offsets]))
  | @inside text contents i base start stop m tag hscan hbody hslice _ ih =>
    obtain ⟨hname, hholds⟩ := ih (Text.isBoundary_of_atByte? (Text.atByte?_zero contents))
    obtain ⟨s, hs, -⟩ := Text.slice?_eq_some hslice
    obtain ⟨rest, hrest⟩ := Text.holdsAt_iff.1 hholds
    refine ⟨hname, Text.holdsAt_iff.2 ⟨rest ++ s, ?_⟩⟩
    obtain ⟨v, hv, hlen⟩ := Text.atByte?_eq_some.1 hrest
    rw [hv, List.append_assoc] at hs
    rw [Nat.add_assoc, ← hlen, Text.atByte?_add hs, List.append_assoc]

end Cursor

namespace SourceUnit

open Cursor

variable {r : Registry} {u : SourceUnit} {tag : UnmatchedTag} {base i : Nat}

/-- A unit without component blocks is reported with the tags that the second pass leaves. -/
theorem unmatched_mem_recoveries (hblocks : componentBlocks u.raw = []) :
    Recovery.unmatched tag ∈ (u.expand r).recoveries ↔
      ∃ base, Reports r (u.rewritten r) 0 base tag := by
  rw [← mem_unmatched_paired u.name 0 (Text.atByte?_zero _), expand,
    rawDefinitions_single hblocks, ExpandedUnit.ofDefinitions, ExpandedUnit.ofDefinitions,
    List.append_nil, ExpandedUnit.ofExpansion]
  cases ExpandedUnit.fault? u.name (Expansion.ofText r u.name 0 (expandMarkers u.raw)) with
  | none => simp [Expansion.ofText, rewritten]
  | some fault => simp [Expansion.ofText, rewritten]

/-- **Where a report of an unclosed tag points.**  The recoveries of a unit without component
blocks report the tags that the second pass leaves, and no others.  Such a tag stands in the
text that this pass reads at its offset behind the start of the contents that it is among, and
in the source at the origin of that place.  If nothing in front of it is rewritten, that is
the place itself, and at the offset as it is reported if the tag is among no contents. -/
theorem unmatched_holdsAt (r : Registry) {u : SourceUnit} (hblocks : componentBlocks u.raw = [])
    (tag : UnmatchedTag) :
    (Recovery.unmatched tag ∈ (u.expand r).recoveries ↔
        ∃ base, Reports r (u.rewritten r) 0 base tag) ∧
      ∀ base, Reports r (u.rewritten r) 0 base tag →
        Text.holdsAt ('<' :: tag.name) (u.rewritten r) (base + tag.offset) = true ∧
        (∀ i, u.origin? r (base + tag.offset) = some i →
          Text.holdsAt ('<' :: tag.name) u.raw i = true) ∧
        (base + tag.offset < u.untouched r →
          Text.holdsAt ('<' :: tag.name) u.raw (base + tag.offset) = true) := by
  refine ⟨unmatched_mem_recoveries hblocks, fun base h => ?_⟩
  obtain ⟨hname, hholds⟩ := h.holdsAt (Text.isBoundary_of_atByte? (Text.atByte?_zero _))
  have hbrace : '{' ∉ '<' :: tag.name := by
    have hchars : '{' ∉ tag.name := fun hmem =>
      (Tag.isNameChar_ne (Tag.isName_chars hname '{' hmem)).2.1 rfl
    simp [hchars]
  exact ⟨hholds, fun i hi => holdsAt_origin? hbrace hholds hi,
    fun hlt => holdsAt_origin? hbrace hholds (origin?_untouched hlt)⟩

/-- A page with an invocation that closes itself, and a tag without its end among the contents
of another one. -/
def boxedPage : SourceUnit := ⟨"p.html".toList, ['p'], "<Icon/><Box>a<Card></Box>".toList⟩

/-- The components that the page invokes. -/
def boxedRegistry : Registry := ⟨["Box".toList, "Card".toList, "Icon".toList]⟩

theorem unmatched_holdsAt_boxed :
    componentBlocks boxedPage.raw = [] ∧
      Recovery.unmatched ⟨"Card".toList, 1⟩ ∈ (boxedPage.expand boxedRegistry).recoveries ∧
      Reports boxedRegistry (boxedPage.rewritten boxedRegistry) 0 33 ⟨"Card".toList, 1⟩ ∧
      boxedPage.origin? boxedRegistry 34 = some 13 ∧
      Text.holdsAt "<Card".toList boxedPage.raw 13 = true := by
  have hblocks : componentBlocks boxedPage.raw = [] := by decide +kernel
  have hbox : scan (boxedPage.rewritten boxedRegistry) boxedRegistry.invokes 0 =
      some (.found ⟨"Box".toList, 28, 46, (32, 32), some (33, 40)⟩) := by
    decide +kernel
  have hcontents : (boxedPage.rewritten boxedRegistry).slice? 33 40 = some "a<Card>".toList := by
    decide +kernel
  have hcard : scan "a<Card>".toList boxedRegistry.invokes 0 =
      some (.unmatched "Card".toList 1 7) := by
    decide +kernel
  have hreports : Reports boxedRegistry (boxedPage.rewritten boxedRegistry) 0 33
      ⟨"Card".toList, 1⟩ := .inside hbox rfl hcontents (.here hcard)
  have horigin : boxedPage.origin? boxedRegistry 34 = some 13 := by decide +kernel
  obtain ⟨hmem, hholds⟩ := unmatched_holdsAt boxedRegistry hblocks ⟨"Card".toList, 1⟩
  exact ⟨hblocks, hmem.2 ⟨33, hreports⟩, hreports, horigin, (hholds 33 hreports).2.1 13 horigin⟩

/-- At its offset the reported tag does not stand in the page. -/
theorem unmatched_offset_ne :
    componentBlocks boxedPage.raw = [] ∧
      Recovery.unmatched ⟨"Card".toList, 1⟩ ∈ (boxedPage.expand boxedRegistry).recoveries ∧
      Text.holdsAt "<Card".toList boxedPage.raw 1 = false := by
  decide +kernel

end SourceUnit

end Componentry
