import Componentry.Proofs.Markers.Tags

/-! # Slot markers are replaced one by one

A body with slot markers is a row of segments: texts, markers, and markers with a fallback
and the tag that ends it.  In which of the two ways a marker is meant can only be told from
what follows it.  A fallback ends before the next marker starts (`fallback?_block`), and none
is found behind a marker that has none, whatever segments follow (`fallback?_source`).  So
every segment is replaced for itself (`expandMarkers_source_segments`).

Two texts side by side may make a marker that neither of them holds, so a row is read as if
they were one text (`BodySegment.areReadable`, `expandMarkers_ne_segments`).
-/
namespace Componentry

open Marker

namespace Marker

/-- The keyword of slot markers. -/
def slotWord : Text := ['s', 'l', 'o', 't']

/-- The keyword of the tags that end fallbacks. -/
def endSlotWord : Text := ['e', 'n', 'd', 's', 'l', 'o', 't']

/-- Whether a tag of the keyword starts in a text: the opening delimiter, a dash or none, and
any spaces, and then the keyword. -/
def mentions (word : Text) : Text → Bool
  | [] => false
  | c :: s => (keyword? dash word (c :: s)).isSome || mentions word s

variable {word s rest : Text}

theorem keyword?_of_mentions {u : Text} (h : mentions word (u ++ s) = false) :
    keyword? dash word s = none := by
  induction u with
  | nil =>
    cases s with
    | nil => rfl
    | cons c s =>
      rw [List.nil_append, mentions, Bool.or_eq_false_iff] at h
      exact Option.isSome_eq_false_iff.1 h.1 |> Option.isNone_iff_eq_none.1
  | cons c u ih =>
    rw [List.cons_append, mentions, Bool.or_eq_false_iff] at h
    exact ih h.2

/-- A tag is not found before the end of a text in which its keyword does not start. -/
theorem find?_of_mentions {α : Type} {pattern : Text → Option (α × Text)}
    (hp : Begins pattern word) (hword : '{' ∉ word) (hs : mentions word s = false)
    (hrest : Text.OpensBrace rest) :
    Text.find? pattern (s ++ rest) =
      (Text.find? pattern rest).map fun (before, found) => (s ++ before, found) := by
  refine Text.find?_skip fun u v huv hv => hp _ ?_
  rw [keyword?_append hword hrest hv, keyword?_of_mentions (huv ▸ hs), Option.map_none]

end Marker

/-! ## Markers as they are written -/

/-- The name in a slot marker: `name`, an equals sign and the value in quotes, with spaces
around the sign and at least one in front. -/
structure WrittenName where
  front : Text
  beforeSign : Text
  behindSign : Text
  quote : Char
  value : Text
  front_ne_nil : front ≠ []
  isVoid_front : Text.isVoid front = true
  isVoid_beforeSign : Text.isVoid beforeSign = true
  isVoid_behindSign : Text.isVoid behindSign = true
  isQuote : quote = '"' ∨ quote = '\''
  quote_notMem : quote ∉ value

namespace WrittenName

/-- The text of a name. -/
def source (n : WrittenName) : Text :=
  n.front ++ (['n', 'a', 'm', 'e'] ++ (n.beforeSign ++ ('=' :: (n.behindSign ++
    (n.quote :: (n.value ++ [n.quote]))))))

theorem quoted?_value (n : WrittenName) (rest : Text) :
    quoted? n.quote (n.quote :: (n.value ++ n.quote :: rest)) = some (n.value, rest) := by
  have hvalue : ∀ c ∈ n.value, (c != n.quote) = true := fun c hc =>
    bne_iff_ne.2 fun h => n.quote_notMem (h ▸ hc)
  have htake : (n.value ++ n.quote :: rest).takeWhile (· != n.quote) = n.value := by
    rw [List.takeWhile_append_of_pos hvalue]
    simp
  have hdrop : (n.value ++ n.quote :: rest).dropWhile (· != n.quote) = n.quote :: rest := by
    rw [List.dropWhile_append_of_pos hvalue]
    simp
  simp only [quoted?, if_true, htake, hdrop]

/-- **A name is read back**, whatever follows. -/
theorem slotName?_source (n : WrittenName) (rest : Text) :
    slotName? (n.source ++ rest) = some (n.value, rest) := by
  have hform : n.source ++ rest = n.front ++ ('n' :: 'a' :: 'm' :: 'e' :: (n.beforeSign ++
      ('=' :: (n.behindSign ++ (n.quote :: (n.value ++ n.quote :: rest)))))) := by
    simp [source]
  have hquote : Text.isSpace n.quote = false := by
    rcases n.isQuote with h | h <;> rw [h] <;> decide
  have hsign : Text.trimStart (n.beforeSign ++
      ('=' :: (n.behindSign ++ (n.quote :: (n.value ++ n.quote :: rest))))) =
        '=' :: (n.behindSign ++ (n.quote :: (n.value ++ n.quote :: rest))) :=
    Text.trimStart_isVoid n.isVoid_beforeSign fun c hc => Option.some.inj hc ▸ (by decide)
  have hvalue : Text.trimStart (n.behindSign ++ (n.quote :: (n.value ++ n.quote :: rest))) =
      n.quote :: (n.value ++ n.quote :: rest) :=
    Text.trimStart_isVoid n.isVoid_behindSign fun c hc => Option.some.inj hc ▸ hquote
  have hspaces : spaces? (n.source ++ rest) = some ('n' :: 'a' :: 'm' :: 'e' :: (n.beforeSign ++
      ('=' :: (n.behindSign ++ (n.quote :: (n.value ++ n.quote :: rest)))))) := by
    rw [hform]
    exact spaces?_isVoid n.front_ne_nil n.isVoid_front (by decide)
  have hquoted : (quoted? '"' (n.quote :: (n.value ++ n.quote :: rest))).orElse
      (fun _ => quoted? '\'' (n.quote :: (n.value ++ n.quote :: rest))) = some (n.value, rest) := by
    have hread := n.quoted?_value rest
    rcases n.isQuote with h | h
    · rw [h] at hread ⊢
      rw [hread]
      rfl
    · rw [h] at hread ⊢
      rw [hread]
      rfl
  simp only [slotName?, hspaces, Option.bind_eq_bind, Option.bind_some, Text.dropPrefix?, if_true,
    hsign, hvalue]
  exact hquoted

end WrittenName

/-- A slot marker. -/
structure WrittenMarker where
  spacing : Spacing
  name : Option WrittenName

namespace WrittenMarker

/-- The text of a marker. -/
def source (m : WrittenMarker) : Text :=
  m.spacing.tag (slotWord ++ (m.name.map WrittenName.source).getD [])

/-- The label of the slot that a marker places. -/
def label (m : WrittenMarker) : Text := markerLabel (m.name.map WrittenName.value)

/-- **A marker is read back**, whatever follows. -/
theorem slot?_source (m : WrittenMarker) (rest : Text) :
    slot? (m.source ++ rest) = some (m.name.map WrittenName.value, rest) := by
  obtain ⟨w, name⟩ := m
  have hkeyword : keyword? dash slotWord (source ⟨w, name⟩ ++ rest) =
      some ((name.map WrittenName.source).getD [] ++ (w.stop ++ rest)) := by
    rw [source, Spacing.tag_append, List.append_assoc, slotWord, List.cons_append,
      keyword?_start w _ (by decide) (by decide), ← List.cons_append]
    exact Text.dropPrefix?_eq_some.2 rfl
  rw [slot?, ← slotWord, hkeyword]
  cases name with
  | none =>
    have hname : slotName? (w.stop ++ rest) = none := by
      rw [slotName?]
      cases hspaces : spaces? (w.stop ++ rest) with
      | none => rfl
      | some t =>
        rw [eq_trimStart_of_spaces? hspaces, Option.bind_eq_bind, Option.bind_some,
          dropPrefix?_stop w _ rest (by decide) (by decide)]
        rfl
    simp only [Option.map_none, Option.getD_none, List.nil_append, Option.bind_eq_bind,
      Option.bind_some, hname, tagEnd?_stop]
    rfl
  | some n =>
    simp only [Option.map_some, Option.getD_some, Option.bind_eq_bind, Option.bind_some,
      n.slotName?_source, tagEnd?_stop]
    rfl

theorem opensBrace_source (m : WrittenMarker) (rest : Text) :
    Text.OpensBrace (m.source ++ rest) :=
  Spacing.opensBrace_tag m.spacing _ rest

end WrittenMarker

/-! ## Segments -/

/-- A part of a body with slot markers. -/
inductive BodySegment where
  | text (s : Text)
  /-- A marker without a fallback. -/
  | marker (m : WrittenMarker)
  /-- A marker, its fallback, and the tag that ends it. -/
  | block (m : WrittenMarker) (fallback : Text) (stop : Spacing)

/-- Whether neither a slot marker nor the end of a fallback starts in a text. -/
def isSlotFree (s : Text) : Bool := !mentions slotWord s && !mentions endSlotWord s

namespace BodySegment

/-- The text of a segment. -/
def source : BodySegment → Text
  | text s => s
  | marker m => m.source
  | block m fallback stop => m.source ++ (fallback ++ stop.tag endSlotWord)

/-- A segment with its marker replaced. -/
def expanded : BodySegment → Text
  | text s => s
  | marker m => placeholder m.label
  | block m fallback _ => placeholderWithFallback m.label fallback

/-- Whether markers and ends of fallbacks start nowhere but where segments have them.  Texts
side by side are looked at as one; `before` is the text in front of the segments. -/
def areReadable (before : Text) : List BodySegment → Bool
  | [] => isSlotFree before
  | text s :: more => areReadable (before ++ s) more
  | marker _ :: more => isSlotFree before && areReadable [] more
  | block _ fallback _ :: more =>
    isSlotFree before && (isSlotFree fallback && areReadable [] more)

end BodySegment

open BodySegment

variable {s rest : Text}

theorem find?_slot?_of_isSlotFree (h : isSlotFree s = true) (hrest : Text.OpensBrace rest) :
    Text.find? slot? (s ++ rest) =
      (Text.find? slot? rest).map fun (before, found) => (s ++ before, found) := by
  rw [isSlotFree, Bool.and_eq_true, Bool.not_eq_true'] at h
  exact find?_of_mentions begins_slot? (by decide) h.1 hrest

theorem find?_endSlot?_of_isSlotFree (h : isSlotFree s = true) (hrest : Text.OpensBrace rest) :
    Text.find? endSlot? (s ++ rest) =
      (Text.find? endSlot? rest).map fun (before, found) => (s ++ before, found) := by
  rw [isSlotFree, Bool.and_eq_true, Bool.not_eq_true', Bool.not_eq_true'] at h
  exact find?_of_mentions begins_endSlot? (by decide) h.2 hrest

theorem find?_slot?_marker (h : isSlotFree s = true) (m : WrittenMarker) (rest : Text) :
    Text.find? slot? (s ++ (m.source ++ rest)) = some (s, m.name.map WrittenName.value, rest) := by
  rw [find?_slot?_of_isSlotFree h (m.opensBrace_source rest), Text.find?.eq_def, m.slot?_source]
  simp

/-- The next marker ends the search for a fallback. -/
theorem fallback?_marker (h : isSlotFree s = true) (m : WrittenMarker) (rest : Text) :
    fallback? (s ++ (m.source ++ rest)) = none := by
  have hend := find?_endSlot?_of_isSlotFree h (m.opensBrace_source rest)
  cases hfound : Text.find? endSlot? (m.source ++ rest) with
  | none =>
    rw [hfound, Option.map_none] at hend
    exact fallback?_eq_none hend
  | some found =>
    obtain ⟨before, u, after⟩ := found
    rw [hfound, Option.map_some] at hend
    have hlen : ¬ (s ++ before).length < s.length := by simp
    simp only [fallback?, hend, find?_slot?_marker h, if_neg hlen]

/-- **A marker has no fallback** if the segments behind it are readable. -/
theorem fallback?_source (segments : List BodySegment) (before : Text)
    (h : areReadable before segments = true) :
    fallback? (before ++ segments.flatMap BodySegment.source) = none := by
  induction segments generalizing before with
  | nil =>
    rw [List.flatMap_nil]
    refine fallback?_eq_none ?_
    rw [find?_endSlot?_of_isSlotFree h Text.opensBrace_nil]
    rfl
  | cons segment more ih =>
    rw [List.flatMap_cons]
    cases segment with
    | text s =>
      rw [BodySegment.source, ← List.append_assoc]
      exact ih _ h
    | marker m =>
      rw [areReadable, Bool.and_eq_true] at h
      exact fallback?_marker h.1 m _
    | block m fallback stop =>
      rw [areReadable, Bool.and_eq_true] at h
      rw [BodySegment.source, List.append_assoc]
      exact fallback?_marker h.1 m _

/-- **A fallback is found**, as far as the tag that ends it. -/
theorem fallback?_block (h : isSlotFree s = true) (stop : Spacing) (rest : Text) :
    fallback? (s ++ (stop.tag endSlotWord ++ rest)) = some (s, rest) := by
  have hbrace := stop.opensBrace_tag endSlotWord rest
  have hend : endSlot? (stop.tag endSlotWord ++ rest) = some ((), rest) :=
    bare?_tag stop (by decide) (by decide) rest
  have hnoSlot : slot? (stop.tag endSlotWord ++ rest) = none := by
    refine begins_slot? _ ?_
    rw [Spacing.tag_append, endSlotWord, List.cons_append,
      keyword?_start stop _ (by decide) (by decide)]
    rfl
  have hfound : Text.find? endSlot? (s ++ (stop.tag endSlotWord ++ rest)) = some (s, (), rest) := by
    rw [find?_endSlot?_of_isSlotFree h hbrace, Text.find?.eq_def, hend]
    simp
  have hslot := find?_slot?_of_isSlotFree h hbrace
  rw [fallback?, hfound]
  cases hnext : Text.find? slot? (stop.tag endSlotWord ++ rest) with
  | none =>
    rw [hnext, Option.map_none] at hslot
    simp only [hslot]
  | some found =>
    obtain ⟨before, name, after⟩ := found
    rw [hnext, Option.map_some] at hslot
    -- No marker starts where the fallback ends, so the next one starts behind that.
    have hne : before ≠ [] := by
      rintro rfl
      obtain ⟨t, ht, hread, -⟩ := Text.find?_eq_some hnext
      rw [List.nil_append] at ht
      rw [← ht, hnoSlot] at hread
      cases hread
    have hlen : s.length < (s ++ before).length := by
      rw [List.length_append]
      exact Nat.lt_add_of_pos_right (List.length_pos_iff.2 hne)
    simp only [hslot, if_pos hlen]

/-- Segments behind a text are replaced one by one. -/
theorem expandMarkers_append_source (segments : List BodySegment) (before : Text)
    (h : areReadable before segments = true) :
    expandMarkers (before ++ segments.flatMap BodySegment.source) =
      before ++ segments.flatMap BodySegment.expanded := by
  induction segments generalizing before with
  | nil =>
    rw [List.flatMap_nil, List.flatMap_nil, List.append_nil]
    refine expandMarkers_none ?_
    rw [← List.append_nil before, find?_slot?_of_isSlotFree h Text.opensBrace_nil]
    rfl
  | cons segment more ih =>
    rw [List.flatMap_cons, List.flatMap_cons]
    cases segment with
    | text s =>
      rw [BodySegment.source, BodySegment.expanded, ← List.append_assoc, ← List.append_assoc]
      exact ih _ h
    | marker m =>
      rw [areReadable, Bool.and_eq_true] at h
      have hnone := fallback?_source more [] h.2
      have hrest := ih [] h.2
      rw [List.nil_append] at hnone hrest
      rw [BodySegment.source, expandMarkers_some (find?_slot?_marker h.1 m _), hnone, hrest]
      rfl
    | block m fallback stop =>
      rw [areReadable, Bool.and_eq_true, Bool.and_eq_true] at h
      have hblock := fallback?_block h.2.1 stop (more.flatMap BodySegment.source)
      have hrest := ih [] h.2.2
      rw [List.nil_append] at hrest
      rw [BodySegment.source, List.append_assoc, List.append_assoc,
        expandMarkers_some (find?_slot?_marker h.1 m _), hblock]
      simp only [hrest]
      rfl

/-- **Slot markers are replaced segment by segment**: texts stay as they are, a marker becomes
the placeholder of its slot, and a marker with a fallback the placeholder with this
fallback. -/
theorem expandMarkers_source_segments (segments : List BodySegment)
    (h : areReadable [] segments = true) :
    expandMarkers (segments.flatMap BodySegment.source) = segments.flatMap BodySegment.expanded :=
  expandMarkers_append_source segments [] h

/-- A body with a marker without a name, a fallback that holds an opening delimiter, and a
named marker with a tab and single quotes. -/
def cardSegments : List BodySegment :=
  [.text "<p>\x7b%".toList,
    .marker ⟨.plain, none⟩,
    .block ⟨⟨true, [], ['\n'], true, Text.isVoid_nil, Text.isVoid_lineFeed⟩, none⟩
      "none \x7b%-".toList ⟨true, [], [], false, Text.isVoid_nil, Text.isVoid_nil⟩,
    .marker ⟨.plain, some
      { front := ['\t']
        beforeSign := [' ']
        behindSign := []
        quote := '\''
        value := "a \"%\x7d".toList
        front_ne_nil := by decide
        isVoid_front := rfl
        isVoid_beforeSign := Text.isVoid_space
        isVoid_behindSign := Text.isVoid_nil
        isQuote := .inr rfl
        quote_notMem := by decide }⟩,
    .text "%\x7d</p>".toList]

theorem expandMarkers_cardSegments :
    cardSegments.flatMap BodySegment.source =
        ("<p>\x7b%\x7b% slot %\x7d\x7b%-slot\n-%\x7dnone \x7b%-\x7b%-endslot%\x7d".toList ++
          "\x7b% slot\tname ='a \"%\x7d' %\x7d%\x7d</p>".toList) ∧
      areReadable [] cardSegments = true ∧
      expandMarkers (cardSegments.flatMap BodySegment.source) =
        cardSegments.flatMap BodySegment.expanded := by
  have hreadable : areReadable [] cardSegments = true := by decide +kernel
  exact ⟨by decide +kernel, hreadable, expandMarkers_source_segments cardSegments hreadable⟩

/-- **Two texts side by side can make a marker**, though no marker starts in either of them. -/
theorem expandMarkers_ne_segments :
    let texts : List BodySegment := [.text ['\x7b', '%'], .text " slot %\x7d".toList]
    isSlotFree ['\x7b', '%'] = true ∧ isSlotFree " slot %\x7d".toList = true ∧
      expandMarkers (texts.flatMap BodySegment.source) = placeholder defaultLabel ∧
      expandMarkers (texts.flatMap BodySegment.source) ≠ texts.flatMap BodySegment.expanded := by
  decide +kernel

end Componentry
