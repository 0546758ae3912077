import Componentry.Proofs.Markup.Expansion
import Componentry.Proofs.Verbatim
import Componentry.Source

/-! # Slot markers of trees

A tree that its author writes marks the places of slots (`Writer.author`).  Before
anything else is expanded, the markers are replaced by placeholders, which gives the
tree as `Writer.placed` writes it (`expandMarkers_source`).  No marker takes a
fallback, and no part of the text opens a component block, because a keyword tag
starts nowhere but at a marker (`Passed`).
-/
namespace Componentry

mutual

/-- Whether the names of all places can be told from their text. -/
def Markup.arePlacesPlain : Markup → Bool
  | .nil => true
  | .text _ rest => rest.arePlacesPlain
  | .print _ rest => rest.arePlacesPlain
  | .place name rest => name.all isPlainValue && rest.arePlacesPlain
  | .single _ _ rest => rest.arePlacesPlain
  | .paired _ _ contents rest => contents.arePlacesPlain && rest.arePlacesPlain

/-- Whether the names of all places in contents can be told from their text. -/
def Contents.arePlacesPlain : Contents → Bool
  | .last m => m.arePlacesPlain
  | .slot before _ body rest =>
    before.arePlacesPlain && body.arePlacesPlain && rest.arePlacesPlain

end

namespace Marker

/-- No tag of the keyword starts in `w`, whatever follows. -/
def Passed (word w : Text) : Prop :=
  ∀ u v rest, w = u ++ v → v ≠ [] → keyword? dash word (v ++ rest) = none

variable {word : Text}

theorem Passed.nil : Passed word [] := by
  intro u v rest h hv
  exact absurd (List.append_eq_nil_iff.1 h.symm).2 hv

theorem Passed.append {w w' : Text} (h : Passed word w) (h' : Passed word w') :
    Passed word (w ++ w') := by
  intro u v rest huv hv
  rcases List.append_eq_append_iff.1 huv with ⟨t, rfl, ht⟩ | ⟨t, ht, rfl⟩
  · exact h' t v rest ht hv
  · cases t with
    | nil => exact h' [] w' rest rfl hv
    | cons c t =>
      rw [List.append_assoc]
      exact h u (c :: t) (w' ++ rest) ht (by simp)

theorem Passed.cons {c : Char} {w : Text} (hc : ∀ rest, keyword? dash word (c :: (w ++ rest)) = none)
    (h : Passed word w) : Passed word (c :: w) := by
  intro u v rest huv hv
  cases u with
  | nil =>
    rw [List.nil_append] at huv
    rw [← huv]
    exact hc rest
  | cons d u =>
    obtain ⟨-, rfl⟩ := List.cons.inj huv
    exact h u v rest rfl hv

theorem keyword?_ne {c : Char} (hc : c ≠ '{') (s : Text) : keyword? dash word (c :: s) = none := by
  unfold keyword?
  split
  · rename_i heq
    exact absurd (List.cons.inj heq).1 hc
  · rfl

theorem keyword?_brace {c : Char} (hc : c ≠ '%') (s : Text) :
    keyword? dash word ('{' :: c :: s) = none := by
  unfold keyword?
  split
  · rename_i heq
    exact absurd (List.cons.inj (List.cons.inj heq).2).1 hc
  · rfl

theorem Passed.chars {w : Text} (h : '{' ∉ w) : Passed word w := by
  induction w with
  | nil => exact .nil
  | cons c w ih =>
    simp only [List.mem_cons, not_or] at h
    exact .cons (fun rest => keyword?_ne (Ne.symm h.1) _) (ih h.2)

/-- A brace in front of a character that makes no tag of it. -/
theorem Passed.brace {c : Char} {w : Text} (hc : c ≠ '%') (h : Passed word (c :: w)) :
    Passed word ('{' :: c :: w) :=
  .cons (fun _ => keyword?_brace hc _) h

/-! ## Parts of trees -/

theorem brace_notMem_identifier {x : Text} (h : isIdentifier x = true) : '{' ∉ x := fun hmem =>
  absurd (isIdentifier_chars h '{' hmem) (by decide)

theorem brace_notMem_value {v : Text} (h : isPlainValue v = true) : '{' ∉ v := by
  intro hmem
  have hc := List.all_eq_true.1 h '{' hmem
  simp at hc

theorem brace_notMem_text {s : Text} (h : isPlainText s = true) : '{' ∉ s := by
  intro hmem
  have hc := List.all_eq_true.1 h '{' hmem
  simp at hc

theorem passed_expressionBlock {x : Text} (h : isIdentifier x = true) :
    Passed word (expressionBlock x) := by
  have hx := brace_notMem_identifier h
  refine .brace (by decide) (.brace (by decide) (.chars ?_))
  simpa using hx

theorem brace_notMem_key {a : Text × Operand} (h : Operand.isReadable a = true) : '{' ∉ a.1 := by
  obtain ⟨k, s, hkey, hchars⟩ := Operand.isReadable_key h
  intro hmem
  rw [hkey] at hmem
  exact (Attribute.isKeyChar_ne (hchars '{' hmem)).2.1 rfl

theorem brace_notMem_attributeSource {key v : Text}
    (h : Operand.isReadable (key, .text v) = true) :
    '{' ∉ Operand.attributeSource (key, .text v) := by
  have hkey : '{' ∉ key := brace_notMem_key h
  have hv : '{' ∉ v := fun hmem => (Operand.isReadable_text h '{' hmem).2 rfl
  simp [Operand.attributeSource, hkey, hv]

theorem passed_attributeSource {a : Text × Operand} (h : Operand.isReadable a = true) :
    Passed word (Operand.attributeSource a) := by
  have hbrace := brace_notMem_key h
  obtain ⟨key, value⟩ := a
  cases value with
  | text v => exact .chars (brace_notMem_attributeSource h)
  | var x =>
    have hx := Operand.isReadable_var h
    obtain ⟨c, t, rfl, -, hall⟩ := isIdentifier_cons hx
    have hc : c ≠ '%' := by
      rintro rfl
      exact absurd (hall '%' (by simp)) (by decide)
    have hfirst : Passed word (' ' :: key ++ ['=']) := .chars (by simp [hbrace])
    have hlast : Passed word ('{' :: c :: (t ++ ['}'])) := by
      refine .brace hc (.chars ?_)
      simpa using brace_notMem_identifier hx
    simpa [Operand.attributeSource] using hfirst.append hlast

theorem passed_attributesSource {attributes : List (Text × Operand)}
    (h : attributes.all Operand.isReadable = true) :
    Passed word (attributesSource attributes) := by
  induction attributes with
  | nil => exact .nil
  | cons a attributes ih =>
    simp only [List.all_cons, Bool.and_eq_true] at h
    rw [attributesSource, List.flatMap_cons]
    exact (passed_attributeSource h.1).append (ih h.2)

theorem passed_name {name : Text} (h : Tag.isName name = true) : Passed word name :=
  .chars fun hmem => (Tag.isNameChar_ne (Tag.isName_chars h '{' hmem)).2.1 rfl

theorem passed_openingTag {name : Text} {attributes : List (Text × Operand)}
    (hname : Tag.isName name = true) (h : attributes.all Operand.isWellFormed = true) :
    Passed word (openingTag name attributes) := by
  have hopen : Passed word ['<'] := .chars (by decide)
  have hclose : Passed word ['>'] := .chars (by decide)
  have hattributes : Passed word (attributesSource attributes) :=
    passed_attributesSource (Operand.all_isReadable h)
  exact ((hopen.append (passed_name hname)).append hattributes).append hclose

theorem passed_singleTag {name : Text} {attributes : List (Text × Operand)}
    (hname : Tag.isName name = true) (h : attributes.all Operand.isReadable = true) :
    Passed word (singleTag name attributes) := by
  have hopen : Passed word ['<'] := .chars (by decide)
  have hclose : Passed word ['/', '>'] := .chars (by decide)
  exact ((hopen.append (passed_name hname)).append (passed_attributesSource h)).append hclose

/-- A tag whose attributes are given texts holds no brace. -/
theorem brace_notMem_singleTag {name : Text} {attributes : List (Text × Text)}
    (hname : Tag.isName name = true)
    (h : (textAttributes attributes).all Operand.isReadable = true) :
    '{' ∉ singleTag name (textAttributes attributes) := by
  have hopen : '{' ∉ name := fun hmem =>
    (Tag.isNameChar_ne (Tag.isName_chars hname '{' hmem)).2.1 rfl
  have hattributes : '{' ∉ attributesSource (textAttributes attributes) := by
    rw [attributesSource, List.mem_flatMap]
    rintro ⟨a, ha, hmem⟩
    have hread := List.all_eq_true.1 h a ha
    obtain ⟨⟨key, v⟩, -, rfl⟩ := List.mem_map.1 ha
    exact brace_notMem_attributeSource hread hmem
  simp [singleTag, hopen, hattributes]

theorem passed_closingTag {name : Text} (hname : Tag.isName name = true) :
    Passed word (closingTag name) := by
  have hopen : Passed word ['<', '/'] := .chars (by decide)
  exact (hopen.append (passed_name hname)).append (.chars (by decide))

/-- A slot marker is passed by every other keyword. -/
theorem passed_slotMarker {name : Option Text} (h : name.all isPlainValue = true)
    (hword : ∀ s, Text.dropPrefix? word ('s' :: 'l' :: 'o' :: 't' :: s) = none) :
    Passed word (slotMarker name) := by
  have hkeyword : ∀ s, keyword? dash word ('{' :: '%' :: ' ' :: 's' :: 'l' :: 'o' :: 't' :: s) =
      none := hword
  cases name with
  | none => exact .cons (fun rest => hkeyword _) (.chars (by decide))
  | some name =>
    have hname := brace_notMem_value h
    refine .cons (fun rest => hkeyword _) (.chars ?_)
    simp [slotTag, hname]

theorem endSlot_word (s : Text) : Text.dropPrefix? ['e', 'n', 'd', 's', 'l', 'o', 't']
    ('s' :: 'l' :: 'o' :: 't' :: s) = none := rfl

theorem component_word (s : Text) : Text.dropPrefix?
    ['c', 'o', 'm', 'p', 'o', 'n', 'e', 'n', 't'] ('s' :: 'l' :: 'o' :: 't' :: s) = none := rfl

/-! ## Reading markers -/

/-- A slot marker is read back. -/
theorem slot?_slotMarker {name : Option Text} (h : ∀ n ∈ name, '"' ∉ n) (rest : Text) :
    slot? (slotMarker name ++ rest) = some (name, rest) := by
  cases name with
  | none => rfl
  | some name =>
    have hquote : ∀ c ∈ name, (c != '"') = true := by
      intro c hc
      refine bne_iff_ne.2 ?_
      rintro rfl
      exact h name rfl hc
    have htake : (name ++ '"' :: ' ' :: '%' :: '}' :: rest).takeWhile (· != '"') = name := by
      rw [List.takeWhile_append_of_pos hquote]
      simp
    have hdrop : (name ++ '"' :: ' ' :: '%' :: '}' :: rest).dropWhile (· != '"') =
        '"' :: ' ' :: '%' :: '}' :: rest := by
      rw [List.dropWhile_append_of_pos hquote]
      simp
    have hform : slotMarker (some name) ++ rest = '{' :: '%' :: ' ' :: 's' :: 'l' :: 'o' :: 't' ::
        ' ' :: 'n' :: 'a' :: 'm' :: 'e' :: '=' :: '"' :: (name ++ '"' :: ' ' :: '%' :: '}' :: rest) := by
      simp [slotMarker, statementBlock, slotTag]
    have hname : slotName? (' ' :: 'n' :: 'a' :: 'm' :: 'e' :: '=' :: '"' ::
        (name ++ '"' :: ' ' :: '%' :: '}' :: rest)) = some (name, ' ' :: '%' :: '}' :: rest) := by
      have hquoted : quoted? '"' ('"' :: (name ++ '"' :: ' ' :: '%' :: '}' :: rest)) =
          some (name, ' ' :: '%' :: '}' :: rest) := by
        simp only [quoted?, if_true, hdrop, htake]
      show (quoted? '"' ('"' :: (name ++ '"' :: ' ' :: '%' :: '}' :: rest))).orElse _ = _
      rw [hquoted]
      rfl
    have hkey : keyword? dash ['s', 'l', 'o', 't'] (slotMarker (some name) ++ rest) =
        some (' ' :: 'n' :: 'a' :: 'm' :: 'e' :: '=' :: '"' ::
          (name ++ '"' :: ' ' :: '%' :: '}' :: rest)) := by
      rw [hform]
      rfl
    simp only [slot?, hkey, Option.bind_eq_bind, Option.bind_some, hname]
    rfl

end Marker

/-! ## Searching trees -/

namespace Text

variable {α : Type} {pattern : Text → Option (α × Text)}

/-- The first place of a pattern behind a text in which it does not start. -/
theorem find?_skip {w s : Text} (h : ∀ u v, w = u ++ v → v ≠ [] → pattern (v ++ s) = none) :
    find? pattern (w ++ s) = (find? pattern s).map fun (before, found) => (w ++ before, found) := by
  induction w with
  | nil => simp
  | cons c w ih =>
    have hfirst := h [] (c :: w) rfl (by simp)
    have hrest := ih fun u v huv hv => h (c :: u) v (by rw [huv]; rfl) hv
    rw [List.cons_append] at hfirst ⊢
    rw [find?, hfirst]
    simp only [hrest, Option.map_map]
    rfl

end Text

namespace Marker

variable {α : Type} {pattern : Text → Option (α × Text)} {word : Text}

/-- A pattern starts with a tag of a keyword. -/
def Begins (pattern : Text → Option (α × Text)) (word : Text) : Prop :=
  ∀ s, keyword? dash word s = none → pattern s = none

theorem begins_slot? : Begins slot? ['s', 'l', 'o', 't'] := by
  intro s h
  simp only [slot?, h, Option.bind_eq_bind, Option.bind_none]

theorem begins_endSlot? : Begins endSlot? ['e', 'n', 'd', 's', 'l', 'o', 't'] := by
  intro s h
  simp only [endSlot?, bare?, h, Option.bind_eq_bind, Option.bind_none]

theorem begins_componentBlock? :
    Begins componentBlock? ['c', 'o', 'm', 'p', 'o', 'n', 'e', 'n', 't'] := by
  intro s h
  simp only [componentBlock?, component?, h, Option.bind_eq_bind, Option.bind_none]

theorem Passed.find? {w s : Text} (h : Passed word w) (hp : Begins pattern word) :
    Text.find? pattern (w ++ s) =
      (Text.find? pattern s).map fun (before, found) => (w ++ before, found) :=
  Text.find?_skip fun u v huv hv => hp _ (h u v s huv hv)

end Marker

open Marker

theorem fallback?_eq_none {s : Text} (h : Text.find? endSlot? s = none) : fallback? s = none := by
  rw [fallback?, h]

theorem expandMarkers_none {s : Text} (h : Text.find? slot? s = none) : expandMarkers s = s := by
  rw [expandMarkers]
  split
  · rfl
  · rename_i heq
    rw [h] at heq
    cases heq

theorem expandMarkers_nil : expandMarkers [] = [] := expandMarkers_none rfl

theorem expandMarkers_some {s before after : Text} {name : Option Text}
    (h : Text.find? slot? s = some (before, name, after)) :
    expandMarkers s = before ++
      match fallback? after with
      | some (fallback, rest) =>
        placeholderWithFallback (markerLabel name) fallback ++ expandMarkers rest
      | none => placeholder (markerLabel name) ++ expandMarkers after := by
  rw [expandMarkers]
  split
  · rename_i heq
    rw [h] at heq
    cases heq
  · rename_i heq
    rw [h] at heq
    cases heq
    split <;> rename_i heq <;> simp [heq]

theorem expandMarkers_passed {w : Text} (h : Passed ['s', 'l', 'o', 't'] w) (s : Text) :
    expandMarkers (w ++ s) = w ++ expandMarkers s := by
  have hfind := h.find? begins_slot? (s := s)
  cases hs : Text.find? slot? s with
  | none =>
    rw [hs, Option.map_none] at hfind
    rw [expandMarkers_none hfind, expandMarkers_none hs]
  | some found =>
    obtain ⟨before, name, after⟩ := found
    rw [hs, Option.map_some] at hfind
    rw [expandMarkers_some hfind, expandMarkers_some hs, List.append_assoc]

/-- A text in which no slot marker starts stays as it is. -/
theorem expandMarkers_whole {w : Text} (h : Passed ['s', 'l', 'o', 't'] w) :
    expandMarkers w = w := by
  have hall := expandMarkers_passed h []
  rwa [expandMarkers_nil, List.append_nil] at hall

theorem find?_slotMarker {name : Option Text} (h : ∀ n ∈ name, '"' ∉ n) (s : Text) :
    Text.find? slot? (slotMarker name ++ s) = some ([], name, s) := by
  rw [Text.find?.eq_def, slot?_slotMarker h]

/-- A marker that no end tag follows is replaced. -/
theorem expandMarkers_slotMarker {name : Option Text} (h : name.all isPlainValue = true) {s : Text}
    (hs : Text.find? endSlot? s = none) :
    expandMarkers (slotMarker name ++ s) = placeholder (markerLabel name) ++ expandMarkers s := by
  have hquote : ∀ n ∈ name, '"' ∉ n := by
    rintro n rfl hmem
    have hplain := List.all_eq_true.1 h _ hmem
    simp at hplain
  rw [expandMarkers_some (find?_slotMarker hquote s), fallback?_eq_none hs]
  rfl

/-- **A marker whose end tag follows takes the text between the two as its fallback.** -/
theorem expandMarkers_fallback {name : Option Text} (h : ∀ n ∈ name, '"' ∉ n) {fallback : Text}
    (hfallback : '{' ∉ fallback) :
    expandMarkers (slotMarker name ++ (fallback ++ endSlotTag)) =
      placeholderWithFallback (markerLabel name) fallback := by
  have hend : Text.find? endSlot? (fallback ++ endSlotTag) = some (fallback, (), []) := by
    rw [(Passed.chars hfallback).find? begins_endSlot?]
    show Option.map _ (some ([], (), [])) = _
    simp
  have hslot : Text.find? slot? (fallback ++ endSlotTag) = none := by
    rw [(Passed.chars hfallback).find? begins_slot?]
    rfl
  have hfound : fallback? (fallback ++ endSlotTag) = some (fallback, []) := by
    simp only [fallback?, hend, hslot]
  rw [expandMarkers_some (find?_slotMarker h _), hfound]
  simp [expandMarkers_nil]

mutual

/-- Nothing that an author writes in a tree but a slot marker is a tag of a
keyword. -/
theorem Markup.passed_source {r : Registry} {word : Text}
    (hword : ∀ s, Text.dropPrefix? word ('s' :: 'l' :: 'o' :: 't' :: s) = none) :
    ∀ m : Markup, m.isWellFormed r = true → m.arePlacesPlain = true →
      Passed word (m.source .author)
  | .nil, _, _ => .nil
  | .text s rest, h, hp => by
    simp only [Markup.isWellFormed, Bool.and_eq_true] at h
    exact (Passed.chars (brace_notMem_text h.1)).append (rest.passed_source hword h.2 hp)
  | .print x rest, h, hp => by
    simp only [Markup.isWellFormed, Bool.and_eq_true] at h
    exact (passed_expressionBlock h.1).append (rest.passed_source hword h.2 hp)
  | .place name rest, h, hp => by
    simp only [Markup.arePlacesPlain, Bool.and_eq_true] at hp
    exact (passed_slotMarker hp.1 hword).append (rest.passed_source hword h hp.2)
  | .single name attributes rest, h, hp => by
    simp only [Markup.isWellFormed, Bool.and_eq_true] at h
    have htag : Passed word (singleTag name attributes) :=
      passed_singleTag (Tag.isName_of_isTag h.1) (Registry.isTag_readable h.1)
    exact htag.append (rest.passed_source hword h.2 hp)
  | .paired name attributes contents rest, h, hp => by
    simp only [Markup.isWellFormed, Markup.arePlacesPlain, Bool.and_eq_true] at h hp
    have hname := Tag.isName_of_isTag h.1.1
    have hopen : Passed word (openingTag name attributes) :=
      passed_openingTag hname (Registry.isTag_attributes h.1.1)
    have hcontents := contents.passed_source hword h.1.2 hp.1
    exact ((hopen.append hcontents).append (passed_closingTag hname)).append
      (rest.passed_source hword h.2 hp.2)

theorem Contents.passed_source {r : Registry} {word : Text}
    (hword : ∀ s, Text.dropPrefix? word ('s' :: 'l' :: 'o' :: 't' :: s) = none) :
    ∀ cs : Contents, cs.isWellFormed r = true → cs.arePlacesPlain = true →
      Passed word (cs.source .author)
  | .last m, h, hp => m.passed_source hword h hp
  | .slot before name body rest, h, hp => by
    simp only [Contents.isWellFormed, Contents.arePlacesPlain, Bool.and_eq_true] at h hp
    obtain ⟨⟨⟨hbefore, hattr⟩, hbody⟩, hrest⟩ := h
    have hopen : Passed word (openingTag slotTag (slotAttributes name)) :=
      passed_openingTag isName_slotTag hattr
    have hfront := (before.passed_source hword hbefore hp.1.1).append hopen
    exact ((hfront.append (body.passed_source hword hbody hp.1.2)).append
      (passed_closingTag isName_slotTag)).append (rest.passed_source hword hrest hp.2)

end

mutual

/-- Replacing the markers of a tree, in front of text without the end of a
fallback. -/
theorem Markup.expandMarkers_source {r : Registry} (tail : Text)
    (htail : Text.find? endSlot? tail = none) :
    ∀ m : Markup, m.isWellFormed r = true → m.arePlacesPlain = true →
      expandMarkers (m.source .author ++ tail) = m.source .placed ++ expandMarkers tail
  | .nil, _, _ => rfl
  | .text s rest, h, hp => by
    simp only [Markup.isWellFormed, Bool.and_eq_true] at h
    have hs := brace_notMem_text h.1
    rw [Markup.source, Markup.source, List.append_assoc, List.append_assoc,
      expandMarkers_passed (.chars hs), rest.expandMarkers_source tail htail h.2 hp]
  | .print x rest, h, hp => by
    simp only [Markup.isWellFormed, Bool.and_eq_true] at h
    rw [Markup.source, Markup.source, List.append_assoc, List.append_assoc,
      expandMarkers_passed (passed_expressionBlock h.1),
      rest.expandMarkers_source tail htail h.2 hp]
  | .place name rest, h, hp => by
    simp only [Markup.arePlacesPlain, Bool.and_eq_true] at hp
    have hend := (rest.passed_source endSlot_word h hp.2).find? begins_endSlot? (s := tail)
    rw [htail, Option.map_none] at hend
    rw [Markup.source, Markup.source, List.append_assoc, List.append_assoc]
    refine (expandMarkers_slotMarker hp.1 hend).trans ?_
    rw [rest.expandMarkers_source tail htail h hp.2]
    rfl
  | .single name attributes rest, h, hp => by
    simp only [Markup.isWellFormed, Bool.and_eq_true] at h
    have htag : Passed ['s', 'l', 'o', 't'] (singleTag name attributes) :=
      passed_singleTag (Tag.isName_of_isTag h.1) (Registry.isTag_readable h.1)
    rw [Markup.source, Markup.source, List.append_assoc, List.append_assoc]
    refine (expandMarkers_passed htag _).trans ?_
    rw [rest.expandMarkers_source tail htail h.2 hp]
    rfl
  | .paired name attributes contents rest, h, hp => by
    simp only [Markup.isWellFormed, Markup.arePlacesPlain, Bool.and_eq_true] at h hp
    have hname := Tag.isName_of_isTag h.1.1
    have hopen : Passed ['s', 'l', 'o', 't'] (openingTag name attributes) :=
      passed_openingTag hname (Registry.isTag_attributes h.1.1)
    have hrest := ((passed_closingTag hname).append (rest.passed_source endSlot_word h.2 hp.2)).find?
      begins_endSlot? (s := tail)
    rw [htail, Option.map_none, List.append_assoc] at hrest
    simp only [Markup.source, List.append_assoc]
    rw [expandMarkers_passed hopen, contents.expandMarkers_source _ hrest h.1.2 hp.1,
      expandMarkers_passed (passed_closingTag hname), rest.expandMarkers_source tail htail h.2 hp.2]

theorem Contents.expandMarkers_source {r : Registry} (tail : Text)
    (htail : Text.find? endSlot? tail = none) :
    ∀ cs : Contents, cs.isWellFormed r = true → cs.arePlacesPlain = true →
      expandMarkers (cs.source .author ++ tail) = cs.source .placed ++ expandMarkers tail
  | .last m, h, hp => m.expandMarkers_source tail htail h hp
  | .slot before name body rest, h, hp => by
    simp only [Contents.isWellFormed, Contents.arePlacesPlain, Bool.and_eq_true] at h hp
    obtain ⟨⟨⟨hbefore, hattr⟩, hbody⟩, hrest⟩ := h
    have hopen : ∀ {word : Text}, Passed word (openingTag slotTag (slotAttributes name)) :=
      passed_openingTag isName_slotTag hattr
    have hclose : ∀ {word : Text}, Passed word (closingTag slotTag) :=
      passed_closingTag isName_slotTag
    have hlast := (hclose.append (rest.passed_source endSlot_word hrest hp.2)).find?
      begins_endSlot? (s := tail)
    rw [htail, Option.map_none, List.append_assoc] at hlast
    have hmiddle := (hopen.append (body.passed_source endSlot_word hbody hp.1.2)).find?
      begins_endSlot? (s := closingTag slotTag ++ (rest.source .author ++ tail))
    rw [hlast, Option.map_none, List.append_assoc] at hmiddle
    simp only [Contents.source, List.append_assoc]
    rw [before.expandMarkers_source _ hmiddle hbefore hp.1.1, expandMarkers_passed hopen,
      body.expandMarkers_source _ hlast hbody hp.1.2, expandMarkers_passed hclose,
      rest.expandMarkers_source tail htail hrest hp.2]

end

/-! ## Whole bodies -/

/-- **Replacing the slot markers of a tree** gives the tree with placeholders. -/
theorem expandMarkers_source {r : Registry} {m : Markup} (h : m.isWellFormed r = true)
    (hp : m.arePlacesPlain = true) : expandMarkers (m.source .author) = m.source .placed := by
  have hall := m.expandMarkers_source [] rfl h hp
  rwa [expandMarkers_nil, List.append_nil, List.append_nil] at hall

/-- A unit without component blocks is one definition. -/
theorem SourceUnit.rawDefinitions_single {u : SourceUnit} (h : componentBlocks u.raw = []) :
    u.rawDefinitions = [(u.name, u.raw)] := by
  rw [rawDefinitions, h]

/-- A unit in whose text no component block starts is one definition. -/
theorem SourceUnit.rawDefinitions_passed {u : SourceUnit}
    (h : Passed ['c', 'o', 'm', 'p', 'o', 'n', 'e', 'n', 't'] u.raw) :
    u.rawDefinitions = [(u.name, u.raw)] := by
  have hfind := h.find? begins_componentBlock? (s := [])
  rw [List.append_nil] at hfind
  have hnone : Text.find? componentBlock? u.raw = none := hfind
  have hblocks : componentBlocks u.raw = [] := by
    rw [componentBlocks, Text.pieces]
    split
    · rfl
    · rename_i heq
      rw [hnone] at heq
      cases heq
  exact rawDefinitions_single hblocks

/-- A unit whose text is that of a tree is one definition. -/
theorem SourceUnit.rawDefinitions_source {r : Registry} {u : SourceUnit} {m : Markup}
    (hraw : u.raw = m.source .author) (h : m.isWellFormed r = true)
    (hp : m.arePlacesPlain = true) : u.rawDefinitions = [(u.name, u.raw)] :=
  rawDefinitions_passed (hraw ▸ m.passed_source component_word h hp)

end Componentry
