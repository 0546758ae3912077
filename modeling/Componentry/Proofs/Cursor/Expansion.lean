import Componentry.Cursor.Expansion
import Componentry.Proofs.Cursor.Attributes
import Componentry.Proofs.Cursor.Scan
import Componentry.Proofs.Markup.Gather

/-! # The passes by offsets end, and cut no character

The loops over the outcomes of a scan, with their cuts by offsets, give what the passes
over the rests of the text give: the search for the next invocation
(`nextInvocation_eq`), the two passes of the expansion (`selfClosing_eq`,
`paired_eq`), and the splitting of contents into slots (`resolveSlots_eq`).  In
particular they end, and no cut of them fails.

Behind every outcome a loop goes on where a character starts, and the text that is left
there is shorter, as the recursion of the pass over the text says.
-/
namespace Componentry

namespace Cursor

variable {text s : Text} {i : Nat} {accept : Text → Bool}

/-! ## The parts of an outcome -/

/-- The offsets of an element cut its parts out of the text that it stands in. -/
theorem locate_cut {e : Element} {after : Text} (h : Text.atByte? i text = some (e.text ++ after)) :
    (e.locate i).tagMatch.attributesText? text = some e.attributes ∧
      (e.locate i).tagMatch.bodyText? text = some e.body ∧
      Text.atByte? (e.locate i).tagMatch.stop text = some after := by
  have hstop := Text.atByte?_add h
  obtain ⟨name, attributes, tail, contents⟩ := e
  have hparts : Text.atByte? i text = some (('<' :: name) ++ (attributes ++
      (tail ++ (Element.inside ⟨name, attributes, tail, contents⟩ ++ after)))) := by
    rw [h, ← Element.opening_append_inside]
    simp [Element.opening]
  have hattributes := Text.atByte?_add hparts
  have hbody := Text.atByte?_add (Text.atByte?_add hattributes)
  refine ⟨?_, ?_, hstop⟩
  · rw [TagMatch.attributesText?, ← Text.slice?_add hattributes]
    simp [Location.tagMatch, Element.locate, show '<'.utf8Size = 1 from rfl, Nat.add_assoc]
  · cases contents with
    | none => rfl
    | some found =>
      obtain ⟨body, close⟩ := found
      rw [Element.inside, List.append_assoc] at hbody
      rw [Element.body, ← Text.slice?_add hbody]
      simp [TagMatch.bodyText?, Location.tagMatch, Element.locate, Element.isSelfClosing,
        Element.opening, Element.body, Nat.add_assoc]

/-- The opening tag of an element with contents ends behind the character at the end of the
attributes. -/
theorem locate_opening {e : Element} (htagged : e.IsTagged) (hopen : ¬ e.isSelfClosing = true)
    (start : Nat) :
    (e.locate start).tagMatch.attributes.2 + 1 = start + Text.byteLength e.opening := by
  obtain ⟨name, attributes, tail, contents⟩ := e
  obtain ⟨blanks, -, htail⟩ := htagged
  cases contents with
  | none => exact absurd rfl hopen
  | some found =>
    obtain ⟨rfl, -⟩ := htail
    simp [Location.tagMatch, Element.locate, Element.opening, show '<'.utf8Size = 1 from rfl,
      show '>'.utf8Size = 1 from rfl]
    omega

theorem found_text {before after : Text} {e : Element}
    (hnext : Scan.next accept s = .found before e after) : s = before ++ (e.text ++ after) := by
  rw [← (Scan.next_eq_found hnext).1, List.append_assoc]

theorem unmatched_text {before name read after : Text}
    (hnext : Scan.next accept s = .unmatched before name read after) :
    s = before ++ (read ++ after) := by
  rw [← (Scan.next_eq_unmatched hnext).1, List.append_assoc]

/-- Where the scan over the rest of the text finds an element, the scan over the bytes gives
its offsets. -/
theorem scan_found {before after : Text} {e : Element} (h : Text.atByte? i text = some s)
    (hnext : Scan.next accept s = .found before e after) :
    scan text accept i = some (.found (e.locate (i + Text.byteLength before)).tagMatch) ∧
      Text.atByte? (i + Text.byteLength before) text = some (e.text ++ after) := by
  refine ⟨by rw [scan_eq accept h, hnext]; rfl, Text.atByte?_add ?_⟩
  rw [h, ← found_text hnext]

theorem scan_unmatched {before name read after : Text} (h : Text.atByte? i text = some s)
    (hnext : Scan.next accept s = .unmatched before name read after) :
    scan text accept i = some (.unmatched name (i + Text.byteLength before)
        (i + Text.byteLength before + Text.byteLength read)) ∧
      Text.atByte? (i + Text.byteLength before + Text.byteLength read) text = some after := by
  refine ⟨by rw [scan_eq accept h, hnext]; rfl, Text.atByte?_add (Text.atByte?_add ?_)⟩
  rw [h, ← unmatched_text hnext]

theorem scan_done (h : Text.atByte? i text = some s) (hnext : Scan.next accept s = .done) :
    scan text accept i = some .done := by
  rw [scan_eq accept h, hnext]
  rfl

/-- A tag without its end that the scan over the bytes meets is met by the scan over the rest
of the text. -/
theorem next_of_scan_unmatched {name : Text} {start resume : Nat}
    (h : Text.atByte? i text = some s)
    (hscan : scan text accept i = some (.unmatched name start resume)) :
    ∃ before read after, Scan.next accept s = .unmatched before name read after ∧
      start = i + Text.byteLength before ∧ resume = start + Text.byteLength read ∧
      Text.atByte? resume text = some after := by
  have hof := Option.some.inj ((scan_eq accept h).symm.trans hscan)
  cases hnext : Scan.next accept s with
  | unmatched before name' read after =>
    rw [hnext] at hof
    cases hof
    exact ⟨before, read, after, rfl, rfl, rfl, (scan_unmatched h hnext).2⟩
  | _ =>
    rw [hnext] at hof
    cases hof

theorem next_of_scan_done (h : Text.atByte? i text = some s)
    (hscan : scan text accept i = some .done) : Scan.next accept s = .done := by
  have hof := Option.some.inj ((scan_eq accept h).symm.trans hscan)
  cases hnext : Scan.next accept s with
  | done => rfl
  | _ =>
    rw [hnext] at hof
    cases hof

theorem slice?_found {before after : Text} {e : Element} (h : Text.atByte? i text = some s)
    (hnext : Scan.next accept s = .found before e after) :
    text.slice? i (e.locate (i + Text.byteLength before)).tagMatch.start = some before :=
  Text.slice?_add (found_text hnext ▸ h)

theorem slice?_unmatched {before name read after : Text} (h : Text.atByte? i text = some s)
    (hnext : Scan.next accept s = .unmatched before name read after) :
    text.slice? i (i + Text.byteLength before + Text.byteLength read) = some (before ++ read) := by
  rw [unmatched_text hnext, ← List.append_assoc] at h
  rw [Nat.add_assoc, ← Text.byteLength_append]
  exact Text.slice?_add h

theorem isSelfClosing_locate (e : Element) (start : Nat) :
    (e.locate start).tagMatch.isSelfClosing = e.isSelfClosing := by
  cases h : e.isSelfClosing <;> simp [TagMatch.isSelfClosing, Location.tagMatch, Element.locate, h]

/-! ## The first pass -/

variable {r : Registry}

/-- **The first pass ends**: behind what it has written stands what it has left and the
expansion of what it has not scanned. -/
theorem selfClosing_eq {out pending : Text} {cursor : Nat}
    (h : Text.atByte? cursor text = some (pending ++ s))
    (hi : i = cursor + Text.byteLength pending) :
    selfClosing r text out cursor i = some (out ++ pending ++ Expansion.selfClosing r s) := by
  have hs : Text.atByte? i text = some s := hi ▸ Text.atByte?_add h
  -- Along the pass over the rest of the text: `pending` is the text between the two offsets,
  -- and it grows where an outcome is left as it is.
  fun_induction Expansion.selfClosing r s generalizing out pending cursor i with
  | case1 s hnext =>
    rw [selfClosing, scan_done hs hnext]
    simp [h]
  | case2 s before e after hnext hlen _ hclosed ih =>
    obtain ⟨hscan, hstart⟩ := scan_found hs hnext
    obtain ⟨hattributes, -, hstop⟩ := locate_cut hstart
    have hgoes := goesOn_of_atByte? hs hstop hlen
    have hbefore : text.slice? cursor (e.locate (i + Text.byteLength before)).tagMatch.start =
        some (pending ++ before) := by
      rw [found_text hnext, ← List.append_assoc] at h
      rw [← Text.slice?_add h, Text.byteLength_append, ← Nat.add_assoc, ← hi]
      rfl
    have hrest := @ih _ (out ++ (pending ++ before) ++ invocation e.name (Props.ofText e.attributes))
      [] _ hstop rfl hstop
    rw [List.append_nil] at hrest
    rw [selfClosing, hscan]
    simp only [Option.bind_eq_bind, Option.bind_some, isSelfClosing_locate, hclosed, if_true,
      hattributes, props_eq, hbefore, hgoes]
    refine hrest.trans ?_
    simp
  | case3 s before e after hnext _ hlen hclosed ih =>
    obtain ⟨hscan, hstart⟩ := scan_found hs hnext
    have hopening := locate_opening (Scan.next_isTagged hnext) hclosed (i + Text.byteLength before)
    rw [← e.opening_append_inside, List.append_assoc] at hstart
    have hinside := Text.atByte?_add hstart
    have hgoes := goesOn_of_atByte? hs hinside (by rwa [List.length_append])
    have hrest := @ih _ out (pending ++ before ++ e.opening) cursor
      (by rw [h, found_text hnext, ← e.opening_append_inside]; simp) (by simp [hi, Nat.add_assoc])
      hinside
    rw [selfClosing, hscan]
    simp only [Option.bind_eq_bind, Option.bind_some, isSelfClosing_locate, hclosed,
      Bool.false_eq_true, if_false, hopening, hgoes, if_true, hrest]
    simp
  | case4 s before name read after hnext hlen ih =>
    obtain ⟨hscan, hresume⟩ := scan_unmatched hs hnext
    have hgoes := goesOn_of_atByte? hs hresume hlen
    have hrest := @ih _ out (pending ++ before ++ read) cursor
      (by rw [h, unmatched_text hnext]; simp) (by simp [hi, Nat.add_assoc]) hresume
    rw [selfClosing, hscan]
    simp only [Option.bind_eq_bind, Option.bind_some, hgoes, if_true, hrest]
    simp

/-! ## Slots -/

/-- **The splitting of contents ends**: the named slots and the default slot are those of the
pieces that the contents have. -/
theorem slotContents_eq (named : List (Text × Text)) (default : Text)
    (h : Text.atByte? i text = some s) :
    slotContents text named default i =
      some ((ContentPiece.ofText s).foldl Slots.putPiece named,
        default ++ Slots.default (ContentPiece.ofText s)) := by
  fun_induction ContentPiece.ofText s generalizing named default i with
  | case1 s before e after hnext hlen ih =>
    obtain ⟨hscan, hstart⟩ := scan_found h hnext
    obtain ⟨hattributes, hbody, hstop⟩ := locate_cut hstart
    have hgoes := goesOn_of_atByte? h hstop hlen
    have hlabel : slotLabel? (Attribute.parse e.attributes) = e.slotLabel? := rfl
    rw [slotContents, hscan]
    simp only [Option.bind_eq_bind, Option.bind_some, slice?_found h hnext, hattributes, hbody,
      attributes_eq, hgoes, if_true]
    cases hslot : e.slotLabel? with
    | some label =>
      simp only [hlabel, hslot, ih _ _ hstop]
      simp [Slots.putPiece, Slots.default]
    | none =>
      simp only [hlabel, hslot, ih _ _ hstop]
      simp [Slots.putPiece, Slots.default]
  | case2 s before name read after hnext hlen ih =>
    obtain ⟨hscan, hresume⟩ := scan_unmatched h hnext
    have hgoes := goesOn_of_atByte? h hresume hlen
    rw [slotContents, hscan]
    simp only [Option.bind_eq_bind, Option.bind_some, slice?_unmatched h hnext, hgoes,
      if_true, ih _ _ hresume]
    simp [Slots.putPiece, Slots.default]
  | case3 s hnext =>
    rw [slotContents, scan_done h hnext]
    simp [h, Slots.putPiece, Slots.default]

theorem resolveSlots_eq (owner component : Text) (count : Nat) (inner : Text) :
    resolveSlots owner component count inner = some (Slots.extract owner component count inner) := by
  have hcontents := slotContents_eq [] [] (Text.atByte?_zero inner)
  rw [resolveSlots, hcontents]
  rfl

/-! ## The second pass -/

theorem Progress.add_add (p : Progress) (units more : List SlotUnit)
    (unmatched others : List UnmatchedTag) :
    (p.add units unmatched).add more others = p.add (units ++ more) (unmatched ++ others) := by
  simp [Progress.add, Nat.add_assoc]

/-- What is written and left behind when an expansion has been added to both. -/
def Progress.write (out : Text) (p : Progress) (e : Expansion) : Text × Progress :=
  (out ++ e.text, p.add e.units e.unmatched)

/-- **The second pass ends**, and gives the expansion of what is left. -/
theorem paired_eq {owner out : Text} {cursor : Nat} {progress : Progress}
    (h : Text.atByte? cursor text = some s) :
    paired r owner text out cursor progress =
      some (progress.write out (Expansion.paired r owner progress.count cursor s)) := by
  -- The number in the progress is the parameter of the pass over the rest of the text.
  obtain ⟨count, hcount⟩ : ∃ count, progress.count = count := ⟨_, rfl⟩
  rw [hcount]
  fun_induction Expansion.paired r owner count cursor s generalizing text out progress with
  | case1 count cursor s hnext =>
    rw [paired, scan_done h hnext]
    simp [h, Progress.write, Progress.add]
  | case2 count cursor s before e after hnext hlen offset props =>
    rename_i hcontents ih
    obtain ⟨hscan, hstart⟩ := scan_found h hnext
    obtain ⟨hattributes, -, hstop⟩ := locate_cut hstart
    have hgoes := goesOn_of_atByte? h hstop hlen
    have hclosed : e.isSelfClosing = true := by simp [Element.isSelfClosing, hcontents]
    rw [paired, hscan]
    simp only [Option.bind_eq_bind, Option.bind_some, slice?_found h hnext, isSelfClosing_locate,
      hclosed, if_true, hattributes, props_eq, hgoes]
    refine (ih hstop hcount).trans ?_
    simp [Progress.write, Expansion.under, props, Location.tagMatch, Element.locate]
  | case3 count cursor s before e after hnext hlen offset props body close =>
    rename_i hcontents hbodyLen inner slots units rest ihinner ih
    subst hcount
    obtain ⟨hscan, hstart⟩ := scan_found h hnext
    obtain ⟨hattributes, hbody, hstop⟩ := locate_cut hstart
    have hgoes := goesOn_of_atByte? h hstop hlen
    have hshorter : body.length < text.length := by
      obtain ⟨v, rfl, -⟩ := Text.atByte?_eq_some.1 h
      rw [List.length_append]
      omega
    have hclosed : e.isSelfClosing = false := by simp [Element.isSelfClosing, hcontents]
    have hbodyText : e.body = body := by simp [Element.body, hcontents]
    -- The contents first, and then what follows with the slots' numbers used up.
    have hinner := @ihinner body [] progress (Text.atByte?_zero body) rfl
    have hcount : ((progress.add inner.units inner.unmatched).add slots.units []).count =
        progress.count + units.length := by
      simp [Progress.add, units, Nat.add_assoc]
    have hrest := @ih text
      (out ++ before ++ invocation e.name (props.withEntries slots.propEntries)) _ hstop hcount
    rw [hbodyText] at hbody
    rw [paired, hscan]
    simp only [Option.bind_eq_bind, Option.bind_some, slice?_found h hnext, isSelfClosing_locate,
      hclosed, Bool.false_eq_true, if_false, hattributes, props_eq, hbody, hshorter, hgoes,
      decide_true, Bool.and_self, if_true, hinner]
    simp only [Progress.write, resolveSlots_eq, Option.bind_some]
    refine hrest.trans ?_
    simp [Progress.write, Progress.add_add, units, rest]
  | case4 count cursor s before name read after hnext hlen start =>
    rename_i rest ih
    obtain ⟨hscan, hresume⟩ := scan_unmatched h hnext
    have hgoes := goesOn_of_atByte? h hresume hlen
    have hrest := @ih text (out ++ (before ++ read)) (progress.add [] [⟨name, start⟩]) hresume hcount
    rw [paired, hscan]
    simp only [Option.bind_eq_bind, Option.bind_some, slice?_unmatched h hnext, hgoes, if_true]
    refine hrest.trans ?_
    simp [Progress.write, Progress.add_add, rest]

/-! ## The next invocation -/

/-- The element that a line of a report names. -/
def reported? : Report → Option Location
  | .found element => some element
  | _ => none

theorem skip_append (v w : Text) (offset : Nat) :
    Report.skip v.length (v ++ w) offset = (w, offset + Text.byteLength v) := by
  simp [Report.skip]

/-- **The search for the next invocation ends** with the first element of a report that is
long enough. -/
theorem nextInvocation_list (r : Registry) {limit : Nat} (h : Text.atByte? i text = some s)
    (hlimit : s.length < limit) :
    nextInvocation r text i =
      some (((Report.list r.invokes .over limit s i).findSome? reported?).map
        Location.tagMatch) := by
  -- Every line of the report takes a character of the text, so the limit lasts.
  induction limit generalizing s i with
  | zero => exact absurd hlimit (Nat.not_lt_zero _)
  | succ limit ih =>
    cases hnext : Scan.next r.invokes s with
    | done =>
      rw [nextInvocation, scan_done h hnext, Report.list]
      simp [hnext, reported?]
    | found before e after =>
      rw [nextInvocation, (scan_found h hnext).1, Report.list]
      simp only [hnext, List.findSome?_cons, reported?]
      rfl
    | unmatched before name read after =>
      obtain ⟨hscan, hresume⟩ := scan_unmatched h hnext
      have hlen := Scan.unmatched_after_length hnext
      have hgoes := goesOn_of_atByte? h hresume hlen
      have hskip := skip_append (before ++ read) after i
      rw [List.length_append, List.append_assoc, ← unmatched_text hnext,
        Text.byteLength_append, ← Nat.add_assoc] at hskip
      rw [nextInvocation, hscan, Report.list]
      simp only [hnext, hskip, Option.bind_eq_bind, Option.bind_some, List.findSome?_cons,
        reported?, hgoes, if_true]
      exact ih hresume (by omega)

theorem fromByte_eq (h : Text.atByte? i text = some s) : Text.fromByte i text = s := by
  fun_induction Text.atByte? i text with
  | case1 => simpa [Text.fromByte] using h
  | case2 => cases h
  | case3 n c t hle ih => rw [Text.fromByte, ih h]
  | case4 => cases h

theorem nextInvocation_eq (r : Registry) (h : Text.atByte? i text = some s) :
    nextInvocation r text i = some ((r.firstInvocation? text i).map Location.tagMatch) := by
  have hlen : s.length < text.length + 2 := by
    obtain ⟨v, rfl, -⟩ := Text.atByte?_eq_some.1 h
    rw [List.length_append]
    omega
  have hoffset : Text.byteLength text - Text.byteLength s = i := by
    have := Text.atByte?_le h
    omega
  rw [nextInvocation_list r h hlen, Registry.firstInvocation?, fromByte_eq h, hoffset]
  rfl

/-! ## Well-formed scans and passes that end -/

/-- **Every outcome of a scan is well formed, and every loop over outcomes ends.**  From a
character of the text on, or from its end, the scan over the bytes returns the outcome of
the scan over the rest of the text, and the offsets of it are those of a tag and of
characters (`Outcome.WellFormed`).  The search for the next invocation, the passes of the
expansion and the splitting into slots end without a cut outside of the text or inside of a
character, with what the definitions by the rests of the text give. -/
theorem scan_wellFormed (text : Text) :
    (∀ (accept : Text → Bool) (i : Nat), text.isBoundary i = true →
      scan text accept i = some (Outcome.of i (Scan.next accept (Text.fromByte i text))) ∧
        (Outcome.of i (Scan.next accept (Text.fromByte i text))).WellFormed text accept i) ∧
    (∀ (r : Registry) (i : Nat), text.isBoundary i = true →
      nextInvocation r text i = some ((r.firstInvocation? text i).map Location.tagMatch)) ∧
    (∀ r : Registry, selfClosing r text [] 0 0 = some (Expansion.selfClosing r text)) ∧
    (∀ (r : Registry) (owner : Text) (progress : Progress),
      paired r owner text [] 0 progress =
        some (progress.write [] (Expansion.paired r owner progress.count 0 text))) ∧
    ∀ (owner component : Text) (count : Nat),
      resolveSlots owner component count text = some (Slots.extract owner component count text) := by
  refine ⟨fun accept i hi => ?_, fun r i hi => ?_, fun r => ?_, fun r owner progress => ?_,
    fun owner component count => resolveSlots_eq owner component count text⟩
  · obtain ⟨s, hs⟩ := Option.isSome_iff_exists.1 hi
    rw [fromByte_eq hs]
    exact ⟨scan_eq accept hs, Outcome.of_wellFormed accept hs⟩
  · obtain ⟨s, hs⟩ := Option.isSome_iff_exists.1 hi
    exact nextInvocation_eq r hs
  · have hnothing : Text.atByte? 0 text = some ([] ++ text) := Text.atByte?_zero text
    exact selfClosing_eq hnothing rfl
  · exact paired_eq (Text.atByte?_zero text)

/-- A tag behind a template block, in whose string literal a backslash stands before a
character of two bytes. -/
def escapedText : Text :=
  ['{', '{', ' ', '"', '\\', 'é', '"', ' ', '}', '}', '<', 'A', '/', '>']

theorem scan_wellFormed_escaped :
    escapedText.isBoundary 0 = true ∧
      scan escapedText (· == ['A']) 0 = some (.found ⟨['A'], 11, 15, (13, 13), none⟩) ∧
      TagMatch.WellFormed ⟨['A'], 11, 15, (13, 13), none⟩ escapedText (· == ['A']) 0 := by
  have hboundary : escapedText.isBoundary 0 = true := by decide
  obtain ⟨hscan, hwellFormed⟩ := (scan_wellFormed escapedText).1 (· == ['A']) 0 hboundary
  have hfound : Outcome.of 0 (Scan.next (· == ['A']) (Text.fromByte 0 escapedText)) =
      .found ⟨['A'], 11, 15, (13, 13), none⟩ := by
    decide +kernel
  rw [hfound] at hscan hwellFormed
  exact ⟨hboundary, hscan, hwellFormed⟩

end Cursor

end Componentry
