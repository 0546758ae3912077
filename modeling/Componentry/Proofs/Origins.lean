import Componentry.Proofs.Cursor.Bytes
import Componentry.Proofs.Markup.Markers
import Componentry.Proofs.References.Outline

/-! # Where rewritten text comes from

Before paired tags are read, a body is rewritten twice: slot markers become placeholders, and
tags that close themselves become invocations.  Either time the body is cut into pieces, of
which some are kept and the others replaced (`Edit.markers`, `Edit.singles`).  So an offset
of what is written has its origin in what was read, if text was kept there (`Edit.origin?`).

Whatever is written in place of other text opens with a brace.  A word without braces is
therefore written whole where its first character is kept, and it stands in the source at
the origin of that character (`SourceUnit.holdsAt_origin?`).
-/
namespace Componentry

namespace Text

/-- Whether a word stands in a text at a byte offset. -/
def holdsAt (w text : Text) (i : Nat) : Bool := (atByte? i text).any (startsWith w)

variable {w s text rest : Text} {i : Nat}

theorem holdsAt_iff : holdsAt w text i = true ↔ ∃ rest, atByte? i text = some (w ++ rest) := by
  simp only [holdsAt, Option.any_eq_true, startsWith, Option.isSome_iff_exists]
  constructor
  · rintro ⟨s, hs, rest, hrest⟩
    exact ⟨rest, by rw [hs, dropPrefix?_eq_some.1 hrest]⟩
  · rintro ⟨rest, hrest⟩
    exact ⟨w ++ rest, hrest, rest, dropPrefix?_eq_some.2 rfl⟩

/-- Behind a text the offsets are those of what follows it. -/
theorem atByte?_append (h : byteLength w ≤ i) :
    atByte? i (w ++ s) = atByte? (i - byteLength w) s := by
  induction w generalizing i with
  | nil => rfl
  | cons c w ih =>
    have hc := c.utf8Size_pos
    rw [byteLength_cons] at h ⊢
    obtain ⟨n, rfl⟩ : ∃ n, i = n + 1 := ⟨i - 1, by omega⟩
    rw [List.cons_append, atByte?, if_pos (by omega), ih (by omega), Nat.sub_sub]

/-- A text in front of the same text that has fewer bytes is a part of it. -/
theorem exists_append_of_byteLength_lt {v t : Text} (h : v ++ t = w ++ s)
    (hlt : byteLength w < byteLength v) : ∃ x, v = w ++ x ∧ x ++ t = s := by
  rcases List.append_eq_append_iff.1 h with ⟨x, rfl, -⟩ | ⟨x, rfl, hs⟩
  · rw [byteLength_append] at hlt
    omega
  · exact ⟨x, rfl, hs.symm⟩

/-- What a text has in front of a rest of it. -/
def inFront (s rest : Text) : Text := s.take (s.length - rest.length)

theorem inFront_append (h : rest <:+ s) : inFront s rest ++ rest = s := by
  obtain ⟨t, rfl⟩ := h
  simp [inFront]

theorem dropPrefix?_suffix {p : Text} (h : dropPrefix? p s = some rest) : rest <:+ s :=
  ⟨p, (dropPrefix?_eq_some.1 h).symm⟩

end Text

/-! ## Readers of tags leave the end of the text -/

namespace Marker

variable {marks : List Char} {word s rest : Text}

theorem dropMark_suffix (marks : List Char) (s : Text) : dropMark marks s <:+ s := by
  cases s with
  | nil => exact List.suffix_rfl
  | cons c s =>
    rw [dropMark]
    split
    · exact List.suffix_cons c s
    · exact List.suffix_rfl

theorem keyword?_suffix (h : keyword? marks word s = some rest) : rest <:+ s := by
  unfold keyword? at h
  split at h
  · rename_i t
    have ht : rest <:+ t := ((Text.dropPrefix?_suffix h).trans (List.dropWhile_suffix _)).trans
      (dropMark_suffix marks t)
    exact ht.trans ((List.suffix_cons _ _).trans (List.suffix_cons _ _))
  · cases h

theorem tagEnd?_suffix (h : tagEnd? marks s = some rest) : rest <:+ s :=
  ((Text.dropPrefix?_suffix h).trans (dropMark_suffix marks _)).trans (List.dropWhile_suffix _)

theorem spaces?_suffix (h : spaces? s = some rest) : rest <:+ s := by
  cases s with
  | nil => cases h
  | cons c s =>
    rw [spaces?] at h
    split at h
    · cases h
      exact (List.dropWhile_suffix _).trans (List.suffix_cons c s)
    · cases h

theorem quoted?_suffix {quote : Char} {value : Text} (h : quoted? quote s = some (value, rest)) :
    rest <:+ s := by
  cases s with
  | nil => cases h
  | cons c s =>
    rw [quoted?] at h
    split at h
    · split at h
      · cases h
      · rename_i d behind hbehind
        cases h
        have hs : d :: rest <:+ s := hbehind ▸ List.dropWhile_suffix _
        exact ((List.suffix_cons d rest).trans hs).trans (List.suffix_cons c s)
    · cases h

theorem slotName?_suffix {name : Text} (h : slotName? s = some (name, rest)) : rest <:+ s := by
  simp only [slotName?, Option.bind_eq_bind, Option.bind_eq_some_iff, Option.orElse_eq_or,
    Option.or_eq_some_iff] at h
  obtain ⟨t, ht, u, hu, v, hv, hquoted⟩ := h
  have hname : u <:+ s := (Text.dropPrefix?_suffix hu).trans (spaces?_suffix ht)
  have hsign : v <:+ u := (Text.dropPrefix?_suffix hv).trans (List.dropWhile_suffix _)
  have hvalue : rest <:+ Text.trimStart v :=
    hquoted.elim quoted?_suffix fun hquoted => quoted?_suffix hquoted.2
  exact ((hvalue.trans (List.dropWhile_suffix _)).trans hsign).trans hname

theorem slot?_suffix {name : Option Text} (h : slot? s = some (name, rest)) : rest <:+ s := by
  simp only [slot?, Option.bind_eq_bind, Option.bind_eq_some_iff] at h
  obtain ⟨t, ht, h⟩ := h
  refine List.IsSuffix.trans ?_ (keyword?_suffix ht)
  split at h
  · rename_i name' u hname
    obtain ⟨rest', hrest, heq⟩ := Option.bind_eq_some_iff.1 h
    cases heq
    exact (tagEnd?_suffix hrest).trans (slotName?_suffix hname)
  · obtain ⟨rest', hrest, heq⟩ := Option.bind_eq_some_iff.1 h
    cases heq
    exact tagEnd?_suffix hrest

theorem endSlot?_suffix (h : endSlot? s = some ((), rest)) : rest <:+ s := by
  obtain ⟨t, ht, h⟩ := Option.bind_eq_some_iff.1 h
  obtain ⟨rest', hrest, heq⟩ := Option.bind_eq_some_iff.1 h
  cases heq
  exact (tagEnd?_suffix hrest).trans (keyword?_suffix ht)

end Marker

/-- A fallback stands in front of the tag that ends it. -/
theorem fallback?_eq_some {s fallback rest : Text} (h : fallback? s = some (fallback, rest)) :
    ∃ t, s = fallback ++ t ∧ Marker.endSlot? t = some ((), rest) := by
  unfold fallback? at h
  split at h
  · cases h
  · rename_i found hfind
    have hfound := Text.find?_eq_some hfind
    split at h
    · cases h
      exact ⟨_, hfound.choose_spec.1, hfound.choose_spec.2.1⟩
    · split at h
      · cases h
        exact ⟨_, hfound.choose_spec.1, hfound.choose_spec.2.1⟩
      · cases h

/-! ## Edits -/

/-- A piece of a text that is rewritten. -/
inductive Edit where
  | kept (text : Text)
  /-- A piece in whose place something else is written. -/
  | replaced (old new : Text)
deriving DecidableEq, Repr

namespace Edit

/-- What a piece is read as. -/
def read : Edit → Text
  | kept text => text
  | replaced old _ => old

/-- What is written for a piece. -/
def written : Edit → Text
  | kept text => text
  | replaced _ new => new

/-- The offset in what was read of the byte at an offset of what is written, if it is kept. -/
def origin? : List Edit → Nat → Option Nat
  | [], _ => none
  | kept text :: more, j =>
    if j < Text.byteLength text then some j
    else (origin? more (j - Text.byteLength text)).map (Text.byteLength text + ·)
  | replaced old new :: more, j =>
    if j < Text.byteLength new then none
    else (origin? more (j - Text.byteLength new)).map (Text.byteLength old + ·)

/-- How many bytes are kept in front of the first piece that is replaced. -/
def untouched : List Edit → Nat
  | kept text :: more => Text.byteLength text + untouched more
  | _ => 0

/-- What is written in place of something else opens with a brace. -/
def OpensBrace : Edit → Prop
  | kept _ => True
  | replaced _ new => new.head? = some '{'

variable {edits : List Edit} {w rest : Text} {i j : Nat}

/-- In front of the first replaced piece every byte stays where it is. -/
theorem origin?_untouched (h : j < untouched edits) : origin? edits j = some j := by
  induction edits generalizing j with
  | nil => cases h
  | cons e more ih =>
    cases e with
    | kept text =>
      rw [origin?]
      split
      · rfl
      · rename_i hj
        rw [untouched] at h
        rw [ih (by omega), Option.map_some, Nat.add_sub_cancel' (Nat.not_lt.1 hj)]
    | replaced => cases h

/-- A word without braces that is written first was read first. -/
theorem read_of_written (hedits : ∀ e ∈ edits, e.OpensBrace) (hw : '{' ∉ w)
    (h : edits.flatMap written = w ++ rest) : ∃ rest', edits.flatMap read = w ++ rest' := by
  induction edits generalizing w with
  | nil => exact ⟨[], by simpa using (List.append_eq_nil_iff.1 h.symm).1.symm⟩
  | cons e more ih =>
    obtain ⟨he, hmore⟩ := List.forall_mem_cons.1 hedits
    rw [List.flatMap_cons] at h ⊢
    cases e with
    | kept text =>
      -- The word ends within the piece, or goes on behind it.
      rcases List.append_eq_append_iff.1 h with ⟨v, rfl, hrest⟩ | ⟨v, hv, rfl⟩
      · obtain ⟨rest', hread⟩ := ih hmore (fun hmem => hw (by simp [hmem])) hrest
        exact ⟨rest', by rw [hread, read, ← List.append_assoc]; rfl⟩
      · rw [written] at hv
        exact ⟨v ++ more.flatMap read, by rw [read, hv, List.append_assoc]⟩
    | replaced old new =>
      obtain ⟨t, rfl⟩ := List.head?_eq_some_iff.1 he
      cases w with
      | nil => exact ⟨_, rfl⟩
      | cons c w =>
        have hc : '{' = c := (List.cons.inj h).1
        exact absurd (hc ▸ List.mem_cons_self) hw

/-- **A word without braces stands at its origin**, if its first character is kept. -/
theorem holdsAt_origin? (hedits : ∀ e ∈ edits, e.OpensBrace) (hw : '{' ∉ w)
    (h : Text.holdsAt w (edits.flatMap written) j = true) (horigin : origin? edits j = some i) :
    Text.holdsAt w (edits.flatMap read) i = true := by
  rw [Text.holdsAt_iff] at h ⊢
  induction edits generalizing i j with
  | nil => cases horigin
  | cons e more ih =>
    obtain ⟨he, hmore⟩ := List.forall_mem_cons.1 hedits
    -- Behind the first piece the offsets are those in the others.
    have hbehind (hle : Text.byteLength e.written ≤ j)
        (hi : (origin? more (j - Text.byteLength e.written)).map (Text.byteLength e.read + ·) =
          some i) :
        ∃ rest, Text.atByte? i ((e :: more).flatMap read) = some (w ++ rest) := by
      obtain ⟨k, hk, rfl⟩ := Option.map_eq_some_iff.1 hi
      rw [List.flatMap_cons, Text.atByte?_append hle] at h
      rw [List.flatMap_cons, Text.atByte?_append (Nat.le_add_right _ _), Nat.add_sub_cancel_left]
      exact ih hmore h hk
    cases e with
    | kept text =>
      rw [origin?] at horigin
      split at horigin
      · rename_i hlt
        cases horigin
        obtain ⟨rest, hrest⟩ := h
        rw [List.flatMap_cons] at hrest
        obtain ⟨v, hv, rfl⟩ := Text.atByte?_eq_some.1 hrest
        -- The piece goes on behind what stands in front of the word.
        obtain ⟨x, rfl, hx⟩ := Text.exists_append_of_byteLength_lt hv hlt
        have hbraces : ∀ e ∈ kept x :: more, e.OpensBrace :=
          List.forall_mem_cons.2 ⟨trivial, hmore⟩
        obtain ⟨rest', hread⟩ := read_of_written hbraces hw hx
        refine ⟨rest', Text.atByte?_eq_some.2 ⟨v, ?_, rfl⟩⟩
        rw [← hread]
        simp [read]
      · rename_i hge
        exact hbehind (Nat.not_lt.1 hge) horigin
    | replaced old new =>
      rw [origin?] at horigin
      split at horigin
      · cases horigin
      · rename_i hge
        exact hbehind (Nat.not_lt.1 hge) horigin

/-! ## The edits of the two passes -/

/-- What is written in place of a marker with a fallback, in front of the fallback. -/
def fallbackStart (label : Text) : Text :=
  statementBlock (['i', 'f', ' '] ++ isGivenSource label) ++
    expressionBlock (installedSource label) ++ statementBlock ['e', 'l', 's', 'e']

/-- What is written in place of the tag behind a fallback. -/
def fallbackEnd : Text := statementBlock ['e', 'n', 'd', 'i', 'f']

/-- The pieces of a body whose slot markers are replaced.  Fallbacks are kept. -/
def markers (s : Text) : List Edit :=
  match h : Text.find? Marker.slot? s with
  | none => [kept s]
  | some (before, name, after) =>
    have : after.length < s.length := Text.find?_length Marker.slot?_consumes h
    let marker := Text.inFront (s.drop before.length) after
    match h' : fallback? after with
    | some (fallback, rest) =>
      have : rest.length < after.length := fallback?_length h'
      [kept before, replaced marker (fallbackStart (markerLabel name)), kept fallback,
        replaced (Text.inFront (after.drop fallback.length) rest) fallbackEnd] ++ markers rest
    | none => [kept before, replaced marker (placeholder (markerLabel name))] ++ markers after
termination_by s.length

/-- The pieces of a text whose self-closing invocations are replaced. -/
def singles (r : Registry) (s : Text) : List Edit :=
  match h : Scan.next r.invokes s with
  | .done => [kept s]
  | .found before e after =>
    have : after.length < s.length := Scan.found_after_length h
    have : e.inside.length + after.length < s.length := Scan.found_inside_length h
    if e.isSelfClosing then
      [kept before, replaced e.text (invocation e.name (Props.ofText e.attributes))] ++
        singles r after
    else kept (before ++ e.opening) :: singles r (e.inside ++ after)
  | .unmatched before _ read after =>
    have : after.length < s.length := Scan.unmatched_after_length h
    kept (before ++ read) :: singles r after
termination_by s.length

/-- The pieces make up the body, and with placeholders for the markers its expansion. -/
theorem markers_spec (s : Text) :
    (markers s).flatMap read = s ∧ (markers s).flatMap written = expandMarkers s ∧
      ∀ e ∈ markers s, e.OpensBrace := by
  fun_induction markers s with
  | case1 s h => simp [read, written, expandMarkers_none h, OpensBrace]
  | case2 s before name after h _ marker fallback rest h' _ ih =>
    obtain ⟨hread, hwritten, hbraces⟩ := ih
    obtain ⟨t, rfl, ht, -⟩ := Text.find?_eq_some h
    obtain ⟨u, rfl, hu⟩ := fallback?_eq_some h'
    have hmarker : marker ++ (fallback ++ u) = t := by
      simpa [marker] using Text.inFront_append (Marker.slot?_suffix ht)
    have hend : Text.inFront u rest ++ rest = u := Text.inFront_append (Marker.endSlot?_suffix hu)
    refine ⟨?_, ?_, ?_⟩
    · simp [read, hread, hend, hmarker]
    · rw [expandMarkers_some h, h']
      simp [written, hwritten, fallbackStart, fallbackEnd, placeholderWithFallback]
    · simpa [OpensBrace, fallbackStart, fallbackEnd, statementBlock] using hbraces
  | case3 s before name after h _ marker h' ih =>
    obtain ⟨hread, hwritten, hbraces⟩ := ih
    obtain ⟨t, rfl, ht, -⟩ := Text.find?_eq_some h
    have hmarker : marker ++ after = t := by
      simpa [marker] using Text.inFront_append (Marker.slot?_suffix ht)
    refine ⟨?_, ?_, ?_⟩
    · simp [read, hread, hmarker]
    · rw [expandMarkers_some h, h']
      simp [written, hwritten]
    · simpa [OpensBrace, placeholder, expressionBlock] using hbraces

/-- The pieces make up the text, and with invocations for the tags what the first pass gives. -/
theorem singles_spec (r : Registry) (s : Text) :
    (singles r s).flatMap read = s ∧
      (singles r s).flatMap written = Expansion.selfClosing r s ∧
      ∀ e ∈ singles r s, e.OpensBrace := by
  fun_induction singles r s with
  | case1 s h => simp [read, written, Expansion.selfClosing_done h, OpensBrace]
  | case2 s before e after h _ _ hself ih =>
    obtain ⟨hread, hwritten, hbraces⟩ := ih
    refine ⟨?_, ?_, ?_⟩
    · simp [read, hread, ← (Scan.next_eq_found h).1]
    · rw [Expansion.selfClosing_found h, if_pos hself]
      simp [written, hwritten]
    · simpa [OpensBrace, invocation, expressionBlock] using hbraces
  | case3 s before e after h _ _ hself ih =>
    obtain ⟨hread, hwritten, hbraces⟩ := ih
    refine ⟨?_, ?_, ?_⟩
    · have hparts := e.opening_append_inside
      simp [read, hread, ← (Scan.next_eq_found h).1, ← hparts]
    · rw [Expansion.selfClosing_found h, if_neg hself]
      simp [written, hwritten]
    · simpa [OpensBrace] using hbraces
  | case4 s before name read' after h _ ih =>
    obtain ⟨hread, hwritten, hbraces⟩ := ih
    refine ⟨?_, ?_, ?_⟩
    · simp [read, hread, ← (Scan.next_eq_unmatched h).1]
    · rw [Expansion.selfClosing_unmatched h]
      simp [written, hwritten]
    · simpa [OpensBrace] using hbraces

end Edit

/-! ## Both passes -/

namespace SourceUnit

/-- The text of a unit whose paired tags are left: its slot markers and the invocations that
close themselves are rewritten. -/
def rewritten (r : Registry) (u : SourceUnit) : Text :=
  Expansion.selfClosing r (expandMarkers u.raw)

/-- The offset in a unit's source of a byte that both passes kept. -/
def origin? (r : Registry) (u : SourceUnit) (j : Nat) : Option Nat :=
  (Edit.origin? (Edit.singles r (expandMarkers u.raw)) j).bind (Edit.origin? (Edit.markers u.raw))

/-- How many bytes of a unit's source stand in front of all that is rewritten. -/
def untouched (r : Registry) (u : SourceUnit) : Nat :=
  min (Edit.untouched (Edit.singles r (expandMarkers u.raw)))
    (Edit.untouched (Edit.markers u.raw))

variable {r : Registry} {u : SourceUnit} {w : Text} {i j : Nat}

theorem origin?_untouched (h : j < u.untouched r) : u.origin? r j = some j := by
  obtain ⟨hsingles, hmarkers⟩ := Nat.lt_min.1 h
  rw [origin?, Edit.origin?_untouched hsingles, Option.bind_some, Edit.origin?_untouched hmarkers]

/-- **A word without braces in the rewritten text stands in the source**, at the origin of
its first character. -/
theorem holdsAt_origin? (hw : '{' ∉ w) (h : Text.holdsAt w (u.rewritten r) j = true)
    (horigin : u.origin? r j = some i) : Text.holdsAt w u.raw i = true := by
  obtain ⟨k, hsingles, hmarkers⟩ := Option.bind_eq_some_iff.1 horigin
  obtain ⟨hread, hwritten, hbraces⟩ := Edit.singles_spec r (expandMarkers u.raw)
  rw [rewritten, ← hwritten] at h
  have hexpanded := Edit.holdsAt_origin? hbraces hw h hsingles
  obtain ⟨hraw, hplaced, hblocks⟩ := Edit.markers_spec u.raw
  rw [hread, ← hplaced] at hexpanded
  have hsource := Edit.holdsAt_origin? hblocks hw hexpanded hmarkers
  rwa [hraw] at hsource

end SourceUnit

end Componentry
