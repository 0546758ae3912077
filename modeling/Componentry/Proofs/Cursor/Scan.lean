import Componentry.Proofs.Cursor.Tags
import Componentry.Tag.Location

/-! # The scan over bytes

Where a character starts, the scan over the bytes of a text ends and finds what the scan
over the rest of its characters finds (`scan_eq`).  An outcome of that scan holds pieces
which make up the text, and their shapes are read off the functions that cut them;
together this says what the offsets of an outcome are (`Outcome.WellFormed`).
-/
namespace Componentry

/-- The offsets of a location. -/
def Location.tagMatch (l : Location) : Cursor.TagMatch :=
  ⟨l.name, l.start, l.stop, l.attributes, l.body⟩

namespace Cursor

/-- The offsets of an outcome of the scan over the text from offset `i` on. -/
def Outcome.of (i : Nat) : Scan → Outcome
  | .found before e _ => .found (e.locate (i + Text.byteLength before)).tagMatch
  | .unmatched before name read _ =>
    .unmatched name (i + Text.byteLength before)
      (i + Text.byteLength before + Text.byteLength read)
  | .done => .done

theorem Outcome.of_under (i : Nat) (piece : Text) (found : Scan) :
    Outcome.of i (found.under piece) = Outcome.of (i + Text.byteLength piece) found := by
  cases found <;> simp [Scan.under, Outcome.of, Nat.add_assoc]

variable {bytes : List UInt8} {i : Nat} {s : Text}

/-- The outcome at an opening tag whose name has been read. -/
theorem scanTag_eq {name : Text} {start stop : Nat} (h : Reads bytes stop s)
    (hstop : stop = start + 1 + Text.byteLength name) :
    scanTag bytes name start stop = some (Outcome.of start (Scan.atName name s)) := by
  rw [scanTag, tagEnd_attributes h, Scan.atName]
  simp only [Option.bind_eq_bind, Option.bind_some]
  cases hattributes : Tag.attributes? s with
  | none =>
    simp [Outcome.of, hstop, show '<'.utf8Size = 1 from rfl, Nat.add_assoc]
  | some found =>
    obtain ⟨region, after⟩ := found
    rw [← Tag.attributes?_append hattributes] at h
    have hafter : Reads bytes (stop + Text.byteLength region + 1) after := (h.add.ascii rfl).2
    simp only [Option.map_some]
    cases hslash : Tag.slash? region with
    | some found =>
      obtain ⟨attributes, tail⟩ := found
      obtain ⟨hlast, hclosed⟩ := isSelfClosing_eq_of_some h hslash
      simp only [hlast, hclosed, Option.bind_some, if_true, Option.pure_def]
      rw [← Tag.slash?_append hslash]
      simp [Outcome.of, Location.tagMatch, Element.locate, Element.text, Element.opening,
        Element.isSelfClosing, hstop, show '<'.utf8Size = 1 from rfl,
        show '>'.utf8Size = 1 from rfl]
      omega
    | none =>
      simp only [isSelfClosing_eq_of_none h hslash, Option.bind_some, Bool.false_eq_true, if_false,
        matchingClose_contents name hafter]
      cases hcontents : Tag.contents? name after with
      | none =>
        simp [Outcome.of, hstop, show '<'.utf8Size = 1 from rfl, show '>'.utf8Size = 1 from rfl]
        omega
      | some found =>
        obtain ⟨body, close, rest⟩ := found
        simp [Outcome.of, Location.tagMatch, Element.locate, Element.text, Element.opening,
          Element.isSelfClosing, Element.body, hstop, show '<'.utf8Size = 1 from rfl,
          show '>'.utf8Size = 1 from rfl]
        omega

theorem scan_wide {text : Text} {accept : Text → Bool} {j : Nat} {d : Char}
    (hd : read? text.utf8 j = some d) (hascii : Text.isAscii d = false) :
    scan text accept j = scan text accept (j + 1) := by
  rw [scan_of_some hd]
  simp [block?_wide hd hascii, wide_ne hascii (show Text.isAscii '<' = true from rfl)]

/-- Behind `<` a name is cut out of the text, and decides how the scan goes on. -/
theorem scan_name {text t name rest : Text} (accept : Text → Bool)
    (h : Text.atByte? i text = some ('<' :: t)) (hcut : Block.cut? ('<' :: t) = none)
    (hname : Tag.name? t = some (name, rest)) :
    scan text accept i =
      if accept name then scanTag text.utf8 name i (i + 1 + Text.byteLength name)
      else scan text accept (i + 1 + Text.byteLength name) := by
  have hreads := Reads.of_atByte? h
  have hblock := block?_eq_none hreads hcut
  have ht : Text.atByte? (i + 1) text = some (name ++ rest) := by
    rw [Tag.name?_append hname]
    exact Text.atByte?_add (v := ['<']) h
  obtain ⟨hstop, hne, hboundary⟩ := nameEnd_eq_of_some (hreads.ascii rfl).2 hname
  have hpos : Text.byteLength name ≠ 0 := fun hzero => hne (Text.byteLength_eq_zero.1 hzero)
  rw [hstop] at hboundary
  have hlt : i < i + 1 + Text.byteLength name := by omega
  rw [scan_of_some (hreads.ascii rfl).1]
  simp [hblock, hstop, hboundary, hpos, hlt, Text.slice?_add ht]

/-- **The scan over bytes ends**, and finds what the scan over the characters finds. -/
theorem scan_eq {text : Text} (accept : Text → Bool) (h : Text.atByte? i text = some s) :
    scan text accept i = some (Outcome.of i (Scan.next accept s)) := by
  have hreads := Reads.of_atByte? h
  fun_induction Scan.next accept s generalizing i with
  | case1 =>
    rw [scan_of_none hreads.nil]
    rfl
  | case2 c t block rest hcut _ ih =>
    obtain ⟨d, hd, -⟩ := hreads.first
    obtain ⟨hblock, hlt, -⟩ := block?_eq_some hreads hcut
    have hrest : Text.atByte? (i + Text.byteLength block) text = some rest :=
      Text.atByte?_add (by rwa [Block.cut?_append hcut])
    rw [scan_of_some hd]
    simp only [hblock, if_pos hlt]
    rw [ih hrest (.of_atByte? hrest), Outcome.of_under]
  | case3 t hname hcut ih =>
    have hblock := block?_eq_none hreads hcut
    obtain ⟨hread, hnext⟩ := hreads.ascii rfl
    have ht : Text.atByte? (i + 1) text = some t := Text.atByte?_add (v := ['<']) h
    rw [scan_of_some hread]
    simp only [hblock, if_true, nameEnd_eq_of_none hnext hname]
    rw [ih ht hnext, Outcome.of_under]
    rfl
  | case4 t name rest hname _ hacc hcut =>
    have hrest : Text.atByte? (i + Text.byteLength ('<' :: name)) text = some rest :=
      Text.atByte?_add (by rwa [List.cons_append, Tag.name?_append hname])
    rw [Text.byteLength_cons, show '<'.utf8Size = 1 from rfl, ← Nat.add_assoc] at hrest
    rw [scan_name accept h hcut hname, if_pos hacc]
    exact scanTag_eq (.of_atByte? hrest) rfl
  | case5 t name rest hname _ hacc hcut ih =>
    have hrest : Text.atByte? (i + Text.byteLength ('<' :: name)) text = some rest :=
      Text.atByte?_add (by rwa [List.cons_append, Tag.name?_append hname])
    rw [Text.byteLength_cons, show '<'.utf8Size = 1 from rfl, ← Nat.add_assoc] at hrest
    rw [scan_name accept h hcut hname, if_neg hacc, ih hrest (.of_atByte? hrest),
      Outcome.of_under, Text.byteLength_cons, show '<'.utf8Size = 1 from rfl, ← Nat.add_assoc]
  | case6 c t hcut hc ih =>
    have hblock := block?_eq_none hreads hcut
    have hstep : scan text accept i = scan text accept (i + c.utf8Size) := by
      refine hreads.step (fun _ _ => scan_wide) (fun hread => ?_) (fun _ => rfl)
      rw [scan_of_some hread]
      simp only [hblock, if_neg hc]
    have ht : Text.atByte? (i + c.utf8Size) text = some t := Text.atByte?_add (v := [c]) h
    rw [hstep, ih ht hreads.next, Outcome.of_under]
    rfl

end Cursor

/-! ## The parts of an element -/

namespace Element

/-- The tags of an element are written as such: the opening tag ends with a slash, blanks
and `>`, or it ends with `>` and the closing tag repeats the name. -/
def IsTagged (e : Element) : Prop :=
  ∃ blanks, (∀ c ∈ blanks, Text.isBlank c = true) ∧
    match e.contents with
    | none => e.tail = '/' :: blanks ++ ['>']
    | some (_, close) => e.tail = ['>'] ∧ close = '<' :: '/' :: e.name ++ blanks ++ ['>']

end Element

theorem Tag.closing?_shape {name s close rest : Text} (h : closing? name s = some (close, rest)) :
    ∃ blanks, (∀ c ∈ blanks, Text.isBlank c = true) ∧
      close = '<' :: '/' :: name ++ blanks ++ ['>'] := by
  unfold closing? at h
  split at h
  · cases h
  · rename_i t _
    split at h
    · cases h
      exact ⟨t.takeWhile Text.isBlank, fun c hc => List.all_eq_true.1 List.all_takeWhile c hc, rfl⟩
    · cases h

theorem Tag.contentsFrom?_shape {name s body close rest : Text} {depth : Nat}
    (h : contentsFrom? name depth s = some (body, close, rest)) :
    ∃ blanks, (∀ c ∈ blanks, Text.isBlank c = true) ∧
      close = '<' :: '/' :: name ++ blanks ++ ['>'] := by
  fun_induction contentsFrom? name depth s generalizing body with
  | case1 => cases h
  | case3 t close' rest' hcut hclose _ =>
    cases h
    exact closing?_shape hclose
  | case2 | case4 | case5 | case6 | case7 =>
    rename_i ih
    obtain ⟨⟨body', close', rest'⟩, hfound, heq⟩ := Option.map_eq_some_iff.1 h
    cases heq
    exact ih hfound

namespace Scan

theorem atName_isTagged {name s before after : Text} {e : Element}
    (h : atName name s = .found before e after) : e.IsTagged := by
  unfold atName at h
  split at h
  · cases h
  · rename_i region rest hattributes
    split at h
    · rename_i attributes tail hslash
      cases h
      unfold Tag.slash? at hslash
      split at hslash
      · cases hslash
        refine ⟨_, fun c hc => ?_, rfl⟩
        exact List.all_eq_true.1 List.all_takeWhile c (List.mem_reverse.1 hc)
      · cases hslash
    · split at h
      · rename_i hcontents
        cases h
        obtain ⟨blanks, hblanks, hclose⟩ := Tag.contentsFrom?_shape hcontents
        exact ⟨blanks, hblanks, rfl, hclose⟩
      · cases h

theorem under_eq_found {piece before after : Text} {e : Element} {found : Scan}
    (h : found.under piece = .found before e after) : ∃ b, found = .found b e after := by
  cases found with
  | found b e' a =>
    cases h
    exact ⟨b, rfl⟩
  | unmatched => cases h
  | done => cases h

theorem under_eq_unmatched {piece before name read after : Text} {found : Scan}
    (h : found.under piece = .unmatched before name read after) :
    ∃ b, found = .unmatched b name read after := by
  cases found with
  | unmatched b name' read' after' =>
    cases h
    exact ⟨b, rfl⟩
  | found => cases h
  | done => cases h

theorem next_isTagged {accept : Text → Bool} {s before after : Text} {e : Element}
    (h : next accept s = .found before e after) : e.IsTagged := by
  fun_induction next accept s generalizing before with
  | case1 => cases h
  | case4 => exact atName_isTagged h
  | case2 | case3 | case5 | case6 =>
    rename_i ih
    obtain ⟨b, hb⟩ := under_eq_found h
    exact ih hb

end Scan

/-! ## Well-formed outcomes -/

/-- Whether a character starts at an offset of a text, or the text ends there. -/
def Text.isBoundary (text : Text) (i : Nat) : Bool := (atByte? i text).isSome

theorem Text.isBoundary_of_atByte? {text s : Text} {i : Nat} (h : atByte? i text = some s) :
    text.isBoundary i = true := by
  rw [isBoundary, h]
  rfl

namespace Cursor

/-- All offsets of a found element. -/
def TagMatch.offsets (m : TagMatch) : List Nat :=
  [m.start, m.attributes.1, m.attributes.2, m.stop] ++
    match m.body with
    | none => []
    | some (start, stop) => [start, stop]

/-- What stands between the offsets of an element found in `text` from offset `i` on. -/
structure TagMatch.WellFormed (m : TagMatch) (text : Text) (accept : Text → Bool) (i : Nat) :
    Prop where
  accepted : accept m.name = true
  ordered : i ≤ m.start ∧ m.start < m.attributes.1 ∧ m.attributes.1 ≤ m.attributes.2 ∧
    m.attributes.2 < m.stop ∧ m.stop ≤ Text.byteLength text
  opening : text.slice? m.start m.attributes.1 = some ('<' :: m.name)
  closing : ∃ blanks, (∀ c ∈ blanks, Text.isBlank c = true) ∧
    match m.body with
    | none => text.slice? m.attributes.2 m.stop = some ('/' :: blanks ++ ['>'])
    | some (start, stop) =>
      start = m.attributes.2 + 1 ∧ start ≤ stop ∧ stop < m.stop ∧
        text.slice? m.attributes.2 start = some ['>'] ∧
        text.slice? stop m.stop = some ('<' :: '/' :: m.name ++ blanks ++ ['>'])
  boundaries : ∀ j ∈ m.offsets, text.isBoundary j = true

/-- What the offsets of an outcome of scanning `text` from offset `i` on say. -/
def Outcome.WellFormed (text : Text) (accept : Text → Bool) (i : Nat) : Outcome → Prop
  | .found m => m.WellFormed text accept i
  | .unmatched name start resume =>
    accept name = true ∧ i ≤ start ∧ start < resume ∧ resume ≤ Text.byteLength text ∧
      (∃ rest, Text.atByte? start text = some ('<' :: name ++ rest)) ∧
      text.isBoundary start = true ∧ text.isBoundary resume = true
  | .done => True

/-- An element that closes itself, at the offsets where its parts stand. -/
theorem wellFormed_selfClosing {text name attributes tail after : Text} {accept : Text → Bool}
    {i start : Nat} (hi : i ≤ start) (haccept : accept name = true)
    (htail : ∃ blanks, (∀ c ∈ blanks, Text.isBlank c = true) ∧ tail = '/' :: blanks ++ ['>'])
    (h : Text.atByte? start text = some (('<' :: name) ++ (attributes ++ (tail ++ after)))) :
    TagMatch.WellFormed
      (Element.locate ⟨name, attributes, tail, none⟩ start).tagMatch text accept i := by
  obtain ⟨blanks, hblanks, rfl⟩ := htail
  have h₁ := Text.atByte?_add h
  have h₂ := Text.atByte?_add h₁
  have h₃ := Text.atByte?_add h₂
  have hlen := Text.atByte?_le h₃
  have hm : (Element.locate ⟨name, attributes, '/' :: blanks ++ ['>'], none⟩ start).tagMatch =
      ⟨name, start, start + Text.byteLength ('<' :: name) + Text.byteLength attributes +
          Text.byteLength ('/' :: blanks ++ ['>']),
        (start + Text.byteLength ('<' :: name),
          start + Text.byteLength ('<' :: name) + Text.byteLength attributes), none⟩ := by
    simp [Location.tagMatch, Element.locate, Element.text, Element.opening, Element.isSelfClosing,
      show '<'.utf8Size = 1 from rfl]
    omega
  rw [hm]
  refine ⟨haccept, ⟨hi, ?_, Nat.le_add_right _ _, ?_, by dsimp only; omega⟩, Text.slice?_add h,
    ⟨blanks, hblanks, Text.slice?_add h₂⟩, ?_⟩
  · have := Char.utf8Size_pos '<'
    simp
    omega
  · have := Char.utf8Size_pos '>'
    simp
    omega
  · simp only [TagMatch.offsets, List.append_nil, List.forall_mem_cons, List.not_mem_nil,
      false_imp_iff, implies_true, and_true]
    exact ⟨Text.isBoundary_of_atByte? h, Text.isBoundary_of_atByte? h₁,
      Text.isBoundary_of_atByte? h₂, Text.isBoundary_of_atByte? h₃⟩

/-- An element with contents, at the offsets where its parts stand. -/
theorem wellFormed_paired {text name attributes body close after : Text} {accept : Text → Bool}
    {i start : Nat} (hi : i ≤ start) (haccept : accept name = true)
    (hclose : ∃ blanks, (∀ c ∈ blanks, Text.isBlank c = true) ∧
      close = '<' :: '/' :: name ++ blanks ++ ['>'])
    (h : Text.atByte? start text =
      some (('<' :: name) ++ (attributes ++ (['>'] ++ (body ++ (close ++ after)))))) :
    TagMatch.WellFormed
      (Element.locate ⟨name, attributes, ['>'], some (body, close)⟩ start).tagMatch
        text accept i := by
  obtain ⟨blanks, hblanks, hclose⟩ := hclose
  have h₁ := Text.atByte?_add h
  have h₂ := Text.atByte?_add h₁
  have h₃ := Text.atByte?_add h₂
  have h₄ := Text.atByte?_add h₃
  have h₅ := Text.atByte?_add h₄
  have hlen := Text.atByte?_le h₅
  have hpos : 0 < Text.byteLength close := by
    have := Char.utf8Size_pos '<'
    rw [hclose]
    simp
    omega
  have hm : (Element.locate ⟨name, attributes, ['>'], some (body, close)⟩ start).tagMatch =
      ⟨name, start, start + Text.byteLength ('<' :: name) + Text.byteLength attributes +
          Text.byteLength ['>'] + Text.byteLength body + Text.byteLength close,
        (start + Text.byteLength ('<' :: name),
          start + Text.byteLength ('<' :: name) + Text.byteLength attributes),
        some (start + Text.byteLength ('<' :: name) + Text.byteLength attributes +
            Text.byteLength ['>'],
          start + Text.byteLength ('<' :: name) + Text.byteLength attributes +
            Text.byteLength ['>'] + Text.byteLength body)⟩ := by
    simp [Location.tagMatch, Element.locate, Element.text, Element.opening, Element.isSelfClosing,
      Element.body, show '<'.utf8Size = 1 from rfl]
    omega
  have hgt : Text.byteLength ['>'] = 1 := rfl
  rw [hm]
  refine ⟨haccept, ⟨hi, ?_, Nat.le_add_right _ _, ?_, ?_⟩, Text.slice?_add h,
    ⟨blanks, hblanks, by rw [hgt], Nat.le_add_right _ _, by dsimp only; omega,
      Text.slice?_add h₂, ?_⟩, ?_⟩
  · have := Char.utf8Size_pos '<'
    simp
    omega
  · dsimp only
    omega
  · dsimp only
    omega
  · rw [← hclose]
    exact Text.slice?_add h₄
  · simp only [TagMatch.offsets, List.cons_append, List.nil_append, List.forall_mem_cons,
      List.not_mem_nil, false_imp_iff, implies_true, and_true]
    exact ⟨Text.isBoundary_of_atByte? h, Text.isBoundary_of_atByte? h₁,
      Text.isBoundary_of_atByte? h₂, Text.isBoundary_of_atByte? h₅, Text.isBoundary_of_atByte? h₃,
      Text.isBoundary_of_atByte? h₄⟩

theorem Outcome.of_wellFormed {text s : Text} {i : Nat} (accept : Text → Bool)
    (h : Text.atByte? i text = some s) :
    (Outcome.of i (Scan.next accept s)).WellFormed text accept i := by
  cases hnext : Scan.next accept s with
  | done => trivial
  | unmatched before name read after =>
    -- The pieces of an outcome make up the text: a character starts where one of them does.
    obtain ⟨hs, haccept, more, rfl⟩ := Scan.next_eq_unmatched hnext
    rw [← hs, List.append_assoc] at h
    have hstart := Text.atByte?_add h
    have hresume := Text.atByte?_add hstart
    have hlen := Text.atByte?_le hresume
    refine ⟨haccept, Nat.le_add_right _ _, ?_, by omega, ⟨more ++ after, ?_⟩,
      Text.isBoundary_of_atByte? hstart, Text.isBoundary_of_atByte? hresume⟩
    · have := Char.utf8Size_pos '<'
      simp
      omega
    · rw [hstart]
      simp
  | found before e after =>
    obtain ⟨hs, haccept⟩ := Scan.next_eq_found hnext
    obtain ⟨name, attributes, tail, contents⟩ := e
    obtain ⟨blanks, hblanks, htagged⟩ := Scan.next_isTagged hnext
    rw [← hs, List.append_assoc] at h
    have hstart := Text.atByte?_add h
    cases contents with
    | none =>
      have hparts : Text.atByte? (i + Text.byteLength before) text =
          some (('<' :: name) ++ (attributes ++ (tail ++ after))) := by
        rw [hstart]
        simp [Element.text, Element.opening]
      exact wellFormed_selfClosing (Nat.le_add_right _ _) haccept ⟨blanks, hblanks, htagged⟩ hparts
    | some found =>
      obtain ⟨body, close⟩ := found
      obtain ⟨rfl, hclose⟩ := htagged
      have hparts : Text.atByte? (i + Text.byteLength before) text =
          some (('<' :: name) ++ (attributes ++ (['>'] ++ (body ++ (close ++ after))))) := by
        rw [hstart]
        simp [Element.text, Element.opening]
      exact wellFormed_paired (Nat.le_add_right _ _) haccept ⟨blanks, hblanks, hclose⟩ hparts

end Cursor

end Componentry
