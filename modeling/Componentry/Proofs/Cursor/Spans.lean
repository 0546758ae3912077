import Componentry.Proofs.Cursor.Expansion
import Componentry.Proofs.RawBlocks

/-! # Rewriting replaces matched tags and nothing else

A pass over a text scans for tags, one scan after the other (`Cursor.Chain`).  What it writes
is the text in which spans are replaced by invocations: the spans of matches that the scans
meet, none of which overlaps with another (`Cursor.Rewrites`).  So every byte outside of a
match is kept, in its place, and a unit in which no scan finds a match is one definition that
holds its text (`Cursor.rewrites_spans`).
-/
namespace Componentry

namespace Cursor

/-! ## Chains of scans -/

/-- The outcomes of scans from an offset on, where each scan starts behind the outcome of the
one before: behind a match at the offset that `next` gives, behind a tag without its end where
the search may go on. -/
inductive Chain (text : Text) (accept : Text → Bool) (next : TagMatch → Nat) :
    Nat → List Outcome → Prop where
  | found {i : Nat} {m : TagMatch} {outcomes : List Outcome} :
      scan text accept i = some (.found m) → Chain text accept next (next m) outcomes →
      Chain text accept next i (.found m :: outcomes)
  | unmatched {i : Nat} {name : Text} {start resume : Nat} {outcomes : List Outcome} :
      scan text accept i = some (.unmatched name start resume) →
      Chain text accept next resume outcomes →
      Chain text accept next i (.unmatched name start resume :: outcomes)
  | done {i : Nat} : scan text accept i = some .done → Chain text accept next i []

/-- The match of an outcome. -/
def Outcome.match? : Outcome → Option TagMatch
  | .found m => some m
  | _ => none

/-- The tag without its end of an outcome. -/
def Outcome.unmatched? : Outcome → Option UnmatchedTag
  | .unmatched name start _ => some ⟨name, start⟩
  | _ => none

/-- Where scans for tags that close themselves go on: behind such a tag, and inside of
others. -/
def TagMatch.inside (m : TagMatch) : Nat :=
  if m.isSelfClosing then m.stop else m.attributes.2 + 1

/-! ## Spans -/

/-- A text from an offset on, with the spans of matches replaced. -/
def replaced (text : Text) (cursor : Nat) : List (TagMatch × Text) → Option Text
  | [] => Text.atByte? cursor text
  | (m, new) :: more => do
    let before ← text.slice? cursor m.start
    let rest ← replaced text m.stop more
    return before ++ new ++ rest

/-- What is written is the text from an offset on, in which matches are replaced by
invocations of their names. -/
structure Rewrites (r : Registry) (text : Text) (cursor : Nat) (out : Text)
    (spans : List (TagMatch × Props)) : Prop where
  found : ∀ e ∈ spans, ∃ i, scan text r.invokes i = some (.found e.1)
  nonempty : ∀ e ∈ spans, cursor ≤ e.1.start ∧ e.1.start < e.1.stop
  disjoint : spans.Pairwise fun e f => e.1.stop ≤ f.1.start
  text : replaced text cursor (spans.map fun e => (e.1, invocation e.1.name e.2)) = some out

variable {r : Registry} {text out s : Text} {i : Nat} {spans : List (TagMatch × Props)}

/-- Text in front of the spans is kept. -/
theorem replaced_append {v : Text} (h : Text.atByte? i text = some (v ++ s))
    {replacements : List (TagMatch × Text)}
    (hrest : replaced text (i + Text.byteLength v) replacements = some out) :
    replaced text i replacements = some (v ++ out) := by
  cases replacements with
  | nil =>
    rw [replaced, Text.atByte?_add h] at hrest
    rw [replaced, h, ← Option.some.inj hrest]
  | cons e more =>
    obtain ⟨m, new⟩ := e
    obtain ⟨before, hbefore, hmore⟩ := Option.bind_eq_some_iff.1 hrest
    obtain ⟨rest, hrest, heq⟩ := Option.bind_eq_some_iff.1 hmore
    -- The text in front of the first span is longer by what is kept.
    obtain ⟨t, ht, hstart⟩ := Text.slice?_eq_some hbefore
    rw [Text.atByte?_add h] at ht
    rw [Option.some.inj ht, ← List.append_assoc] at h
    have hcut := Text.slice?_add h
    rw [Text.byteLength_append, ← Nat.add_assoc, ← hstart] at hcut
    rw [replaced, hcut, ← Option.some.inj heq]
    simp [hrest]

namespace Rewrites

theorem nil (h : Text.atByte? i text = some s) : Rewrites r text i s [] :=
  ⟨by simp, by simp, .nil, h⟩

/-- A pass that steps over text keeps it. -/
theorem append {v : Text} (h : Text.atByte? i text = some (v ++ s))
    (hrest : Rewrites r text (i + Text.byteLength v) out spans) :
    Rewrites r text i (v ++ out) spans where
  found := hrest.found
  nonempty e he :=
    ⟨Nat.le_trans (Nat.le_add_right _ _) (hrest.nonempty e he).1, (hrest.nonempty e he).2⟩
  disjoint := hrest.disjoint
  text := replaced_append h hrest.text

/-- A tag without its end is kept, with the text before it. -/
theorem unmatched {accept : Text → Bool} {before name read after : Text}
    (h : Text.atByte? i text = some s)
    (hnext : Scan.next accept s = .unmatched before name read after)
    (hrest : Rewrites r text (i + Text.byteLength before + Text.byteLength read) out spans) :
    Rewrites r text i (before ++ read ++ out) spans := by
  rw [unmatched_text hnext, ← List.append_assoc] at h
  rw [Nat.add_assoc, ← Text.byteLength_append] at hrest
  exact hrest.append h

/-- A pass that writes an invocation for a match replaces it. -/
theorem cons {before after : Text} {e : Element} (h : Text.atByte? i text = some s)
    (hnext : Scan.next r.invokes s = .found before e after) (props : Props)
    (hrest : Rewrites r text (e.locate (i + Text.byteLength before)).tagMatch.stop out spans) :
    Rewrites r text i (before ++ invocation e.name props ++ out)
      (((e.locate (i + Text.byteLength before)).tagMatch, props) :: spans) := by
  obtain ⟨hscan, hstart⟩ := scan_found h hnext
  have hlen : 0 < Text.byteLength e.text :=
    Text.byteLength_pos (s := after) rfl (by have := e.text_length_pos; simp; omega)
  have hstop : (e.locate (i + Text.byteLength before)).tagMatch.stop =
      i + Text.byteLength before + Text.byteLength e.text := rfl
  refine ⟨?_, ?_, ?_, ?_⟩
  · rw [List.forall_mem_cons]
    exact ⟨⟨i, hscan⟩, hrest.found⟩
  · rw [List.forall_mem_cons]
    refine ⟨⟨Nat.le_add_right _ _, by rw [hstop]; exact Nat.lt_add_of_pos_right hlen⟩,
      fun f hf => ⟨?_, (hrest.nonempty f hf).2⟩⟩
    have hbehind := (hrest.nonempty f hf).1
    rw [hstop] at hbehind
    omega
  · exact List.pairwise_cons.2 ⟨fun f hf => (hrest.nonempty f hf).1, hrest.disjoint⟩
  · rw [List.map_cons, replaced, slice?_found h hnext, hrest.text]
    rfl

end Rewrites

/-! ## The two passes -/

/-- **The first pass** replaces the matches that close themselves. -/
theorem selfClosing_spans (h : Text.atByte? i text = some s) :
    ∃ outcomes spans, Chain text r.invokes TagMatch.inside i outcomes ∧
      spans.map Prod.fst = (outcomes.filterMap Outcome.match?).filter TagMatch.isSelfClosing ∧
      Rewrites r text i (Expansion.selfClosing r s) spans := by
  fun_induction Expansion.selfClosing r s generalizing i with
  | case1 s hnext => exact ⟨[], [], .done (scan_done h hnext), rfl, .nil h⟩
  | case2 s before e after hnext hlen _ hclosed ih =>
    obtain ⟨hscan, hstart⟩ := scan_found h hnext
    obtain ⟨-, -, hstop⟩ := locate_cut hstart
    obtain ⟨outcomes, spans, hchain, hspans, hrewrites⟩ := ih hstop
    have hself := (isSelfClosing_locate e (i + Text.byteLength before)).trans hclosed
    refine ⟨.found _ :: outcomes, _, .found hscan ?_, ?_,
      hrewrites.cons h hnext (Props.ofText e.attributes)⟩
    · rwa [TagMatch.inside, if_pos hself]
    · simp [Outcome.match?, hself, hspans]
  | case3 s before e after hnext _ hlen hclosed ih =>
    obtain ⟨hscan, hstart⟩ := scan_found h hnext
    have hopening := locate_opening (Scan.next_isTagged hnext) hclosed (i + Text.byteLength before)
    have hself := (isSelfClosing_locate e (i + Text.byteLength before)).trans
      (Bool.eq_false_iff.2 hclosed)
    have htext : Text.atByte? i text = some ((before ++ e.opening) ++ (e.inside ++ after)) := by
      rw [h, found_text hnext, ← e.opening_append_inside]
      simp
    have hoffset : i + Text.byteLength (before ++ e.opening) =
        (e.locate (i + Text.byteLength before)).tagMatch.attributes.2 + 1 := by
      rw [hopening, Text.byteLength_append, Nat.add_assoc]
    obtain ⟨outcomes, spans, hchain, hspans, hrewrites⟩ := ih (Text.atByte?_add htext)
    refine ⟨.found _ :: outcomes, spans, .found hscan ?_, ?_, hrewrites.append htext⟩
    · rwa [TagMatch.inside, hself, if_neg Bool.false_ne_true, ← hoffset]
    · simp [Outcome.match?, hself, hspans]
  | case4 s before name read after hnext hlen ih =>
    obtain ⟨hscan, hresume⟩ := scan_unmatched h hnext
    obtain ⟨outcomes, spans, hchain, hspans, hrewrites⟩ := ih hresume
    exact ⟨_, spans, .unmatched hscan hchain, hspans, hrewrites.unmatched h hnext⟩

/-- **The second pass** replaces every match that its scans meet. -/
theorem paired_spans (owner : Text) (count : Nat) (h : Text.atByte? i text = some s) :
    ∃ outcomes spans, Chain text r.invokes TagMatch.stop i outcomes ∧
      spans.map Prod.fst = outcomes.filterMap Outcome.match? ∧
      Rewrites r text i (Expansion.paired r owner count i s).text spans := by
  fun_induction Expansion.paired r owner count i s with
  | case1 count i s hnext => exact ⟨[], [], .done (scan_done h hnext), rfl, .nil h⟩
  | case2 count i s before e after hnext hlen offset props =>
    rename_i hcontents ih
    obtain ⟨hscan, hstart⟩ := scan_found h hnext
    obtain ⟨-, -, hstop⟩ := locate_cut hstart
    obtain ⟨outcomes, spans, hchain, hspans, hrewrites⟩ := ih hstop
    exact ⟨.found _ :: outcomes, _, .found hscan hchain, by simp [Outcome.match?, hspans],
      hrewrites.cons h hnext props⟩
  | case3 count i s before e after hnext hlen offset props body close =>
    -- What becomes of the contents is in the props of the invocation.
    rename_i hcontents hbodyLen inner slots units rest ihinner ih
    obtain ⟨hscan, hstart⟩ := scan_found h hnext
    obtain ⟨-, -, hstop⟩ := locate_cut hstart
    obtain ⟨outcomes, spans, hchain, hspans, hrewrites⟩ := ih hstop
    exact ⟨.found _ :: outcomes, _, .found hscan hchain, by simp [Outcome.match?, hspans],
      hrewrites.cons h hnext (props.withEntries slots.propEntries)⟩
  | case4 count i s before name read after hnext hlen start =>
    rename_i rest ih
    obtain ⟨hscan, hresume⟩ := scan_unmatched h hnext
    obtain ⟨outcomes, spans, hchain, hspans, hrewrites⟩ := ih hresume
    exact ⟨_, spans, .unmatched hscan hchain, hspans, hrewrites.unmatched h hnext⟩

/-! ## Texts without matches -/

/-- Where a chain meets no match, the scan over the rest of the text finds no element. -/
theorem Chain.quiet {accept : Text → Bool} {next : TagMatch → Nat} {outcomes : List Outcome}
    (hchain : Chain text accept next i outcomes)
    (hnone : outcomes.filterMap Outcome.match? = []) (h : Text.atByte? i text = some s) :
    Scan.Quiet accept s := by
  induction hchain generalizing s with
  | found => simp [Outcome.match?] at hnone
  | unmatched hscan _ ih =>
    obtain ⟨before, read, after, hnext, -, -, hresume⟩ := next_of_scan_unmatched h hscan
    exact .unmatched hnext (ih hnone hresume)
  | done hscan => exact .done (next_of_scan_done h hscan)

/-- In a text without matches the second pass reports the tags that the scans meet. -/
theorem Chain.unmatched_paired {next : TagMatch → Nat} {outcomes : List Outcome}
    (hchain : Chain text r.invokes next i outcomes)
    (hnone : outcomes.filterMap Outcome.match? = []) (owner : Text) (count : Nat)
    (h : Text.atByte? i text = some s) :
    (Expansion.paired r owner count i s).unmatched =
      outcomes.filterMap Outcome.unmatched? := by
  induction hchain generalizing s with
  | found => simp [Outcome.match?] at hnone
  | unmatched hscan _ ih =>
    obtain ⟨before, read, after, hnext, rfl, rfl, hresume⟩ := next_of_scan_unmatched h hscan
    rw [Expansion.paired_unmatched hnext]
    exact congrArg (_ :: ·) (ih hnone hresume)
  | done hscan =>
    rw [Expansion.paired_done (next_of_scan_done h hscan)]
    rfl

/-- What becomes of a unit in which nothing is rewritten: it is one definition that holds its
text, verbatim if that does not parse. -/
def leftAsIs (u : SourceUnit) (outcomes : List Outcome) : ExpandedUnit :=
  let unmatched := (outcomes.filterMap Outcome.unmatched?).map Recovery.unmatched
  match Template.check u.raw with
  | none => ⟨[⟨u.name, u.raw⟩], unmatched⟩
  | some fault =>
    ⟨[⟨u.name, verbatim u.raw⟩], unmatched ++ [.kept u.name ⟨u.name, fault⟩]⟩

theorem expand_eq_leftAsIs {u : SourceUnit} {outcomes : List Outcome}
    (hblocks : SourceUnit.componentBlocks u.raw = [])
    (hmarkers : Text.find? Marker.slot? u.raw = none)
    (hchain : Chain u.raw r.invokes TagMatch.stop 0 outcomes)
    (hnone : outcomes.filterMap Outcome.match? = []) :
    u.expand r = leftAsIs u outcomes := by
  have hquiet := hchain.quiet hnone (Text.atByte?_zero u.raw)
  obtain ⟨htext, hunits⟩ := Expansion.ofText_quiet hquiet u.name 0
  have hunmatched : (Expansion.ofText r u.name 0 u.raw).unmatched =
      outcomes.filterMap Outcome.unmatched? := by
    rw [Expansion.ofText, Expansion.selfClosing_quiet hquiet]
    exact hchain.unmatched_paired hnone u.name 0 (Text.atByte?_zero u.raw)
  have hfault : ExpandedUnit.fault? u.name (Expansion.ofText r u.name 0 u.raw) =
      (Template.check u.raw).map fun fault => ⟨u.name, fault⟩ := by
    simp [ExpandedUnit.fault?, Template.fault?, htext, hunits]
  rw [SourceUnit.expand, SourceUnit.rawDefinitions_single hblocks, leftAsIs]
  cases hcheck : Template.check u.raw with
  | none =>
    simp [ExpandedUnit.ofDefinitions, ExpandedUnit.ofExpansion, expandMarkers_none hmarkers,
      hfault, hcheck, htext, hunits, hunmatched]
  | some fault =>
    simp [ExpandedUnit.ofDefinitions, ExpandedUnit.ofExpansion, expandMarkers_none hmarkers,
      hfault, hcheck, hunmatched]

/-- **Rewriting touches nothing but matched tags.**  Each pass writes the text in which spans
are replaced by invocations.  The first pass replaces the matches that close themselves among
those that its scans meet, going inside of the others; the second one replaces all that its
scans meet, going on behind each of them.  A unit without component blocks and slot markers in
whose text scans meet no match is left as it is, with a recovery for every tag without its
end. -/
theorem rewrites_spans (r : Registry) :
    (∀ text, ∃ outcomes spans out, Chain text r.invokes TagMatch.inside 0 outcomes ∧
      spans.map Prod.fst = (outcomes.filterMap Outcome.match?).filter TagMatch.isSelfClosing ∧
      selfClosing r text [] 0 0 = some out ∧ Rewrites r text 0 out spans) ∧
    (∀ text owner progress, ∃ outcomes spans out progress',
      Chain text r.invokes TagMatch.stop 0 outcomes ∧
      spans.map Prod.fst = outcomes.filterMap Outcome.match? ∧
      paired r owner text [] 0 progress = some (out, progress') ∧ Rewrites r text 0 out spans) ∧
    ∀ (u : SourceUnit) (outcomes : List Outcome), SourceUnit.componentBlocks u.raw = [] →
      Text.find? Marker.slot? u.raw = none →
      Chain u.raw r.invokes TagMatch.stop 0 outcomes →
      outcomes.filterMap Outcome.match? = [] →
      u.expand r = leftAsIs u outcomes := by
  refine ⟨fun text => ?_, fun text owner progress => ?_,
    fun u outcomes hblocks hmarkers hchain hnone =>
      expand_eq_leftAsIs hblocks hmarkers hchain hnone⟩
  · obtain ⟨outcomes, spans, hchain, hspans, hrewrites⟩ :=
      selfClosing_spans (Text.atByte?_zero text)
    have hnothing : Text.atByte? 0 text = some ([] ++ text) := Text.atByte?_zero text
    exact ⟨outcomes, spans, _, hchain, hspans, selfClosing_eq hnothing rfl, hrewrites⟩
  · obtain ⟨outcomes, spans, hchain, hspans, hrewrites⟩ :=
      paired_spans owner progress.count (Text.atByte?_zero text)
    exact ⟨outcomes, spans, _, _, hchain, hspans, paired_eq (Text.atByte?_zero text), hrewrites⟩

/-- A page with a tag that is never closed, one in lower case and one of no component. -/
def unclosedPage : SourceUnit := ⟨"p.html".toList, ['p'], "<C>é<b><D/>".toList⟩

theorem rewrites_spans_unclosed :
    let r : Registry := ⟨[['C']]⟩
    SourceUnit.componentBlocks unclosedPage.raw = [] ∧
      Text.find? Marker.slot? unclosedPage.raw = none ∧
      Chain unclosedPage.raw r.invokes TagMatch.stop 0 [.unmatched ['C'] 0 3] ∧
      [Outcome.unmatched ['C'] 0 3].filterMap Outcome.match? = [] ∧
      unclosedPage.expand r =
        ⟨[⟨['p'], "<C>é<b><D/>".toList⟩], [.unmatched ⟨['C'], 0⟩]⟩ := by
  intro r
  have hblocks : SourceUnit.componentBlocks unclosedPage.raw = [] := by decide +kernel
  have hmarkers : Text.find? Marker.slot? unclosedPage.raw = none := by decide +kernel
  have hchain : Chain unclosedPage.raw r.invokes TagMatch.stop 0 [.unmatched ['C'] 0 3] :=
    .unmatched (by decide +kernel) (.done (by decide +kernel))
  have hleft : leftAsIs unclosedPage [.unmatched ['C'] 0 3] =
      ⟨[⟨['p'], "<C>é<b><D/>".toList⟩], [.unmatched ⟨['C'], 0⟩]⟩ := by
    decide +kernel
  exact ⟨hblocks, hmarkers, hchain, rfl,
    ((rewrites_spans r).2.2 _ _ hblocks hmarkers hchain rfl).trans hleft⟩

end Cursor

end Componentry
