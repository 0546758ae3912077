import Componentry.Proofs.MacroExpansion.Tree
import Componentry.Proofs.Markup.Expansion

/-! # Markup beside its fragments

The translation of markup numbers its slots from left to right, so what a part is
translated to depends on what stands before it.  `Translates` relates markup to its
fragments without any numbers: the slots of a tag are translated part by part
(`HeldSlot`), and their definitions are among those of the project.  Running the
fragments follows this relation alone.

`Markup.translates` says that the translation of plain markup is so related to it,
as are the definitions that it makes.
-/
namespace Componentry

/-! ## Labels -/

/-- Whether a text can be the label of a slot. -/
def isLabel (label : Text) : Bool := isPlainName label && isComponentName label

theorem isPlainName_chars {name : Text} (h : isPlainName name = true) :
    ∀ c ∈ name, Text.isAsciiLetter c = true ∨ Text.isAsciiDigit c = true := by
  cases name with
  | nil => simp
  | cons c s =>
    simp only [isPlainName, Bool.and_eq_true, List.all_eq_true, Bool.or_eq_true] at h
    intro d hd
    rcases List.mem_cons.1 hd with rfl | hd
    · exact Or.inl h.1
    · exact h.2 d hd

theorem isIdentChar_of_isPlainName {name : Text} (h : isPlainName name = true) :
    ∀ c ∈ name, Template.isIdentChar c = true := by
  intro c hc
  rcases isPlainName_chars h c hc with hc | hc <;> simp [Template.isIdentChar, hc]

theorem underscore_notMem_plainName {name : Text} (h : isPlainName name = true) : '_' ∉ name := by
  intro hmem
  rcases isPlainName_chars h '_' hmem with hc | hc <;> revert hc <;> decide

theorem Text.upperCase_letter {c : Char} (h : isAsciiLetter c = true) :
    ∃ d, upperCase c = [d] ∧ isAsciiLetter d = true ∧ isUpper d = true := by
  have hsmall : c.toNat < 128 := by
    simp only [isAsciiLetter, Bool.or_eq_true, Bool.and_eq_true, decide_eq_true_eq, Char.le_def,
      UInt32.le_iff_toNat_le] at h
    rcases h with h | h <;> simp at h <;> omega
  have hall : ∀ n < 128, isAsciiLetter (Char.ofNat n) = true →
      isAsciiLetter (Char.ofNat n).toUpper = true ∧ isUpper (Char.ofNat n).toUpper = true := by
    decide +kernel
  have hc := hall c.toNat hsmall
  rw [Char.ofNat_toNat] at hc
  refine ⟨c.toUpper, ?_, hc h⟩
  rw [upperCase, if_pos hsmall]

theorem isLabel_slotLabel {name : Text} (h : isPlainName name = true) :
    isLabel (slotLabel name) = true := by
  have htrim : Text.trim name = name := Text.trim_eq_self fun c hc =>
    Text.isSpace_of_isIdentChar (isIdentChar_of_isPlainName h c hc)
  rw [slotLabel, htrim]
  cases name with
  | nil => cases h
  | cons c s =>
    simp only [isPlainName, Bool.and_eq_true] at h
    obtain ⟨d, hd, hletter, hupper⟩ := Text.upperCase_letter h.1
    simp only [hd, isLabel, isPlainName, isComponentName, List.singleton_append, hletter, hupper,
      h.2, Bool.and_self]

theorem isLabel_markerLabel {name : Option Text} (h : name.all isPlainName = true) :
    isLabel (markerLabel name) = true := by
  cases name with
  | none => decide
  | some name => exact isLabel_slotLabel h

/-! ## Slots with their fragments -/

/-- A slot of a tag: its label, the name of its definition, and its parts, each with
its fragments. -/
structure HeldSlot where
  label : Text
  unit : Text
  parts : List (Markup × List Fragment)

namespace HeldSlot

/-- The slot as it is written. -/
def markup (slot : HeldSlot) : Text × List Markup := (slot.label, slot.parts.map Prod.fst)

/-- The label with the name of the definition. -/
def entry (slot : HeldSlot) : Text × Text := (slot.label, slot.unit)

/-- The definition of the slot. -/
def definition (slot : HeldSlot) : Text × List Fragment :=
  (slot.unit, slot.parts.flatMap Prod.snd)

end HeldSlot

/-- The slots of a tag: labels are distinct, and the definitions are among the given
ones, under names that no label is. -/
structure AreHeld (units : List (Text × List Fragment)) (slots : List HeldSlot) : Prop where
  nodup : (slots.map HeldSlot.label).Nodup
  label : ∀ slot ∈ slots, isLabel slot.label = true
  unit : ∀ slot ∈ slots, '_' ∈ slot.unit
  definition : ∀ slot ∈ slots, slot.definition ∈ units

/-- Plain markup and its fragments, where the definitions of slots are among the given
ones. -/
inductive Translates (names : List Text) (units : List (Text × List Fragment)) :
    Markup → List Fragment → Prop where
  | nil : Translates names units .nil []
  | text {s : Text} {rest : Markup} {fragments : List Fragment} (hs : isPlainText s = true)
    (hline : '\n' ∉ s) (hrest : Translates names units rest fragments) :
    Translates names units (.text s rest) (.text s :: fragments)
  | print {x : Text} {rest : Markup} {fragments : List Fragment} (hx : isVariable x = true)
    (hrest : Translates names units rest fragments) :
    Translates names units (.print x rest) (.print x :: fragments)
  | place {name : Option Text} {rest : Markup} {fragments : List Fragment}
    (hname : name.all isPlainName = true) (hrest : Translates names units rest fragments) :
    Translates names units (.place name rest) (.place name :: fragments)
  | single {name : Text} {attributes : List (Text × Operand)} {rest : Markup}
    {fragments : List Fragment} (htag : isTagOf names name attributes = true)
    (hslots : areSlotsOf name attributes [] = true)
    (hrest : Translates names units rest fragments) :
    Translates names units (.single name attributes rest) (.tag name attributes [] :: fragments)
  | paired {name : Text} {attributes : List (Text × Operand)} {contents : Contents} {rest : Markup}
    {fragments : List Fragment} {slots : List HeldSlot}
    (htag : isTagOf names name attributes = true)
    (hslots : areSlotsOf name attributes contents.slots = true)
    (hcontents : contents.slots = slots.map HeldSlot.markup) (hheld : AreHeld units slots)
    (hparts : ∀ slot ∈ slots, ∀ part ∈ slot.parts, Translates names units part.1 part.2)
    (hrest : Translates names units rest fragments) :
    Translates names units (.paired name attributes contents rest)
      (.tag name attributes (slots.map HeldSlot.entry) :: fragments)

/-! ## Labels of contents -/

namespace Slots

variable {α : Type} {blank : α → Bool} {pieces : List (Option Text × α)}

theorem label_of_mem_gather {slot : Text × List α} (h : slot ∈ gather blank pieces) :
    slot.1 = defaultLabel ∨ ∃ p ∈ pieces, p.1 = some slot.1 := by
  rcases List.mem_append.1 h with h | h
  · obtain ⟨label, hlabel, rfl⟩ := List.mem_map.1 h
    exact Or.inr (List.mem_filterMap.1 (List.mem_eraseDups.1 hlabel))
  · split at h
    · cases h
    · rw [List.mem_singleton.1 h]
      exact Or.inl rfl

theorem nodup_gather (h : ∀ p ∈ pieces, p.1 ≠ some defaultLabel) :
    ((gather blank pieces).map Prod.fst).Nodup := by
  have hnamed : ((pieces.filterMap Prod.fst).eraseDups.map
      (fun label => (label, parts pieces (some label)))).map Prod.fst =
        (pieces.filterMap Prod.fst).eraseDups := by
    rw [List.map_map]
    exact List.map_id _
  rw [gather, List.map_append, hnamed, List.nodup_append]
  refine ⟨nodup_eraseDups _, by split <;> simp, ?_⟩
  intro label hlabel other hother
  split at hother
  · cases hother
  · rw [List.map_cons, List.map_nil, List.mem_singleton] at hother
    obtain ⟨p, hp, hfst⟩ := List.mem_filterMap.1 (List.mem_eraseDups.1 hlabel)
    rintro rfl
    exact h p hp (by rw [hfst, hother])

theorem number_map {β : Type} (f : α → β) (owner component : Text) (count : Nat)
    (slots : List (Text × α)) :
    number owner component count (slots.map (Prod.map id f)) =
      (number owner component count slots).map (Prod.map id (Prod.map id f)) := by
  simp only [number, List.zipIdx_map, List.map_map]
  rfl

theorem underscore_mem_number {owner component : Text} {count : Nat} {slots : List (Text × α)}
    {slot : Text × Text × α} (h : slot ∈ number owner component count slots) :
    '_' ∈ slot.2.1 := by
  obtain ⟨⟨⟨label, a⟩, n⟩, -, rfl⟩ := List.mem_map.1 h
  simp [unitName, Text.join]

theorem number_parts (owner component : Text) (count : Nat) (slots : List (Text × α)) :
    (number owner component count slots).map (fun slot => (slot.1, slot.2.2)) = slots := by
  rw [number, List.map_map]
  exact List.zipIdx_map_fst count slots

end Slots

theorem Contents.label_of_pieces {names : List Text} :
    ∀ cs : Contents, cs.isPlain names = true → ∀ p ∈ cs.pieces, ∀ label, p.1 = some label →
      isLabel label = true ∧ label ≠ defaultLabel
  | .last m, _ => by simp [Contents.pieces]
  | .slot before name body rest, h => by
    simp only [Contents.isPlain, Bool.and_eq_true] at h
    intro p hp label hlabel
    rcases List.mem_cons.1 hp with rfl | hp
    · cases hlabel
    rcases List.mem_cons.1 hp with rfl | hp
    · cases name with
      | none => cases hlabel
      | some name =>
        simp only [Slots.ofName] at hlabel
        split at hlabel
        · cases hlabel
        · cases hlabel
          rename_i hne
          simp only [Bool.or_eq_true, decide_eq_true_eq, not_or] at hne
          exact ⟨isLabel_slotLabel h.1.1.2, hne.2⟩
    · exact rest.label_of_pieces h.2 p hp label hlabel

/-! ## Translations -/

variable {names : List Text} {units : List (Text × List Fragment)}

theorem Translates.isBlank {m : Markup} {fragments : List Fragment}
    (h : Translates names units m fragments) : fragments.all Fragment.isBlank = m.isBlank := by
  cases h with
  | nil => rfl
  | text hs hline hrest =>
    rw [List.all_cons, hrest.isBlank]
    rfl
  | print | place | single | paired => rfl

/-- Contents and their pieces of fragments, side by side. -/
structure Contents.TranslatesTo (names : List Text) (units : List (Text × List Fragment))
    (contents : Contents) (pieces : List (Option Text × Markup × List Fragment)) : Prop where
  markup : contents.pieces = pieces.map (Prod.map id Prod.fst)
  part : ∀ p ∈ pieces, Translates names units p.2.1 p.2.2

/-- The slots of contents with the names of their definitions. -/
def heldSlots (owner component : Text) (count : Nat)
    (pieces : List (Option Text × Markup × List Fragment)) : List HeldSlot :=
  (Slots.number owner component count (Slots.gather (fun p => p.1.isBlank) pieces)).map
    fun slot => ⟨slot.1, slot.2.1, slot.2.2⟩

section heldSlots

variable {contents : Contents} {pieces : List (Option Text × Markup × List Fragment)}
  (h : contents.TranslatesTo names units pieces) (owner component : Text) (count : Nat)

include h

theorem heldSlots_markup :
    (heldSlots owner component count pieces).map HeldSlot.markup = contents.slots := by
  have hgather : contents.slots = (Slots.gather (fun p => p.1.isBlank) pieces).map
      (Prod.map id (List.map Prod.fst)) := by
    rw [Contents.slots, h.markup]
    exact Slots.gather_map Prod.fst _ Markup.isBlank fun p _ => rfl
  have hnumber := Slots.number_parts owner component count
    (Slots.gather (fun p => p.1.isBlank) pieces)
  rw [hgather, ← hnumber, heldSlots, List.map_map, List.map_map]
  rfl

theorem heldSlots_number :
    Slots.number owner component count (Slots.gather (·.all Fragment.isBlank)
        (pieces.map (Prod.map id Prod.snd))) =
      (heldSlots owner component count pieces).map
        fun slot => (slot.label, slot.unit, slot.parts.map Prod.snd) := by
  have hgather := Slots.gather_map Prod.snd (fun p : Markup × List Fragment => p.1.isBlank)
    (·.all Fragment.isBlank) fun p hp => (h.part p hp).isBlank
  rw [hgather, Slots.number_map, heldSlots, List.map_map]
  rfl

theorem heldSlots_parts :
    ∀ slot ∈ heldSlots owner component count pieces, ∀ part ∈ slot.parts,
      Translates names units part.1 part.2 := by
  intro slot hslot part hpart
  obtain ⟨⟨label, unit, parts⟩, hnumber, rfl⟩ := List.mem_map.1 hslot
  obtain ⟨l, hl⟩ := Slots.mem_gather (Slots.mem_number hnumber) hpart
  exact h.part _ hl

theorem areHeld_heldSlots (hplain : contents.isPlain names = true)
    (hunits : ∀ slot ∈ heldSlots owner component count pieces, slot.definition ∈ units) :
    AreHeld units (heldSlots owner component count pieces) := by
  have hlabel : ∀ p ∈ pieces, ∀ label, p.1 = some label →
      isLabel label = true ∧ label ≠ defaultLabel := by
    intro p hp label hfst
    refine contents.label_of_pieces hplain (p.1, p.2.1) ?_ label hfst
    rw [h.markup]
    exact List.mem_map_of_mem (f := Prod.map id Prod.fst) hp
  refine ⟨?_, ?_, ?_, hunits⟩
  · have hlabels : (heldSlots owner component count pieces).map HeldSlot.label =
        (Slots.gather (fun p => p.1.isBlank) pieces).map Prod.fst := by
      rw [← Slots.number_parts owner component count (Slots.gather _ _), heldSlots, List.map_map,
        List.map_map]
      rfl
    rw [hlabels]
    exact Slots.nodup_gather fun p hp hfst => (hlabel p hp _ hfst).2 rfl
  · intro slot hslot
    obtain ⟨⟨label, unit, parts⟩, hnumber, rfl⟩ := List.mem_map.1 hslot
    rcases Slots.label_of_mem_gather (Slots.mem_number hnumber) with hdefault | ⟨p, hp, hfst⟩
    · have hlabel : isLabel defaultLabel = true := by decide
      rwa [← show label = defaultLabel from hdefault] at hlabel
    · exact (hlabel p hp label hfst).1
  · intro slot hslot
    obtain ⟨⟨label, unit, parts⟩, hnumber, rfl⟩ := List.mem_map.1 hslot
    exact Slots.underscore_mem_number hnumber

end heldSlots

/-- A definition is made of translated parts, and does not end in a carriage
return. -/
def IsHeld (names : List Text) (units : List (Text × List Fragment))
    (u : Text × List Fragment) : Prop :=
  ∃ parts : List (Markup × List Fragment), u.2 = parts.flatMap Prod.snd ∧
    endsWell (parts.map Prod.fst) = true ∧ ∀ part ∈ parts, Translates names units part.1 part.2

/-- The translation of a paired tag whose contents have been translated. -/
theorem Markup.translate_paired {contents : Contents}
    {pieces : List (Option Text × Markup × List Fragment)}
    (h : contents.TranslatesTo names units pieces) (owner : Text) (count : Nat)
    (hpieces : (contents.translate owner count).1 = pieces.map (Prod.map id Prod.snd))
    (name : Text) (attributes : List (Text × Operand)) (rest : Markup) :
    let inner := (contents.translate owner count).2
    let slots := heldSlots owner name (count + inner.length) pieces
    let more := rest.translate owner (count + (inner ++ slots.map HeldSlot.definition).length)
    (Markup.paired name attributes contents rest).translate owner count =
      (.tag name attributes (slots.map HeldSlot.entry) :: more.1,
        inner ++ slots.map HeldSlot.definition ++ more.2) := by
  have hnumber := heldSlots_number h owner name (count + (contents.translate owner count).2.length)
  rw [← hpieces] at hnumber
  simp only [Markup.translate, hnumber, List.map_map]
  rfl

mutual

/-- **Plain markup is translated part by part**, and so are the slots in it. -/
theorem Markup.translates (owner : Text) (count : Nat) :
    ∀ m : Markup, m.isPlain names = true → (∀ u ∈ (m.translate owner count).2, u ∈ units) →
      Translates names units m (m.translate owner count).1 ∧
        ∀ u ∈ (m.translate owner count).2, IsHeld names units u
  | .nil, _, _ => ⟨.nil, by simp [Markup.translate]⟩
  | .text s rest, h, hunits => by
    simp only [Markup.isPlain, Bool.and_eq_true, Bool.not_eq_true', List.contains_eq_mem,
      decide_eq_false_iff_not] at h
    obtain ⟨hrest, hheld⟩ := rest.translates owner count h.2 hunits
    exact ⟨.text h.1.1 h.1.2 hrest, hheld⟩
  | .print x rest, h, hunits => by
    simp only [Markup.isPlain, Bool.and_eq_true] at h
    obtain ⟨hrest, hheld⟩ := rest.translates owner count h.2 hunits
    exact ⟨.print h.1 hrest, hheld⟩
  | .place name rest, h, hunits => by
    simp only [Markup.isPlain, Bool.and_eq_true] at h
    obtain ⟨hrest, hheld⟩ := rest.translates owner count h.2 hunits
    exact ⟨.place h.1 hrest, hheld⟩
  | .single name attributes rest, h, hunits => by
    simp only [Markup.isPlain, Bool.and_eq_true] at h
    obtain ⟨hrest, hheld⟩ := rest.translates owner count h.2 hunits
    exact ⟨.single h.1.1 h.1.2 hrest, hheld⟩
  | .paired name attributes contents rest, h, hunits => by
    simp only [Markup.isPlain, Bool.and_eq_true] at h
    obtain ⟨⟨⟨htag, hslots⟩, hplain⟩, hrest⟩ := h
    obtain ⟨pieces, hpieces, hfragments, hinner⟩ := contents.translates owner count hplain
      fun u hu => hunits u (List.mem_append_left _ (List.mem_append_left _ hu))
    have htranslate := Markup.translate_paired hpieces owner count hfragments name attributes rest
    simp only at htranslate
    rw [htranslate] at hunits ⊢
    have hparts := heldSlots_parts hpieces owner name
      (count + (contents.translate owner count).2.length)
    have hcontents := heldSlots_markup hpieces owner name
      (count + (contents.translate owner count).2.length)
    have hheld := areHeld_heldSlots hpieces owner name
      (count + (contents.translate owner count).2.length) hplain fun slot hslot =>
        hunits _ (List.mem_append_left _ (List.mem_append_right _ (List.mem_map_of_mem hslot)))
    obtain ⟨hmore, hmoreHeld⟩ := rest.translates owner _ hrest
      fun u hu => hunits u (List.mem_append_right _ hu)
    refine ⟨.paired htag hslots hcontents.symm hheld hparts hmore, ?_⟩
    intro u hu
    rcases List.mem_append.1 hu with hu | hu
    · rcases List.mem_append.1 hu with hu | hu
      · exact hinner u hu
      · -- A definition that is made here: its slot is one that the tag allows.
        obtain ⟨slot, hslot, rfl⟩ := List.mem_map.1 hu
        refine ⟨slot.parts, rfl, ?_, hparts slot hslot⟩
        simp only [areSlotsOf, Bool.and_eq_true, List.all_eq_true, ← hcontents] at hslots
        exact (hslots.1 _ (List.mem_map_of_mem hslot)).2
    · exact hmoreHeld u hu

theorem Contents.translates (owner : Text) (count : Nat) :
    ∀ cs : Contents, cs.isPlain names = true → (∀ u ∈ (cs.translate owner count).2, u ∈ units) →
      ∃ pieces, cs.TranslatesTo names units pieces ∧
        (cs.translate owner count).1 = pieces.map (Prod.map id Prod.snd) ∧
        ∀ u ∈ (cs.translate owner count).2, IsHeld names units u
  | .last m, h, hunits => by
    obtain ⟨hm, hheld⟩ := m.translates owner count h hunits
    refine ⟨[(none, m, (m.translate owner count).1)], ⟨rfl, ?_⟩, rfl, hheld⟩
    simpa using hm
  | .slot before name body rest, h, hunits => by
    simp only [Contents.isPlain, Bool.and_eq_true] at h
    obtain ⟨⟨⟨hbefore, -⟩, hbody⟩, hrest⟩ := h
    obtain ⟨hm₁, hheld₁⟩ := before.translates owner count hbefore
      fun u hu => hunits u (List.mem_append_left _ (List.mem_append_left _ hu))
    obtain ⟨hm₂, hheld₂⟩ := body.translates owner (count + (before.translate owner count).2.length)
      hbody fun u hu => hunits u (List.mem_append_left _ (List.mem_append_right _ hu))
    obtain ⟨pieces, hpieces, hfragments, hheld₃⟩ := rest.translates owner _ hrest
      fun u hu => hunits u (List.mem_append_right _ hu)
    refine ⟨(none, before, (before.translate owner count).1) ::
      (Slots.ofName name, body,
        (body.translate owner (count + (before.translate owner count).2.length)).1) :: pieces,
      ⟨?_, ?_⟩, ?_, ?_⟩
    · rw [Contents.pieces, hpieces.markup]
      rfl
    · exact List.forall_mem_cons.2 ⟨hm₁, List.forall_mem_cons.2 ⟨hm₂, hpieces.part⟩⟩
    · simp only [Contents.translate, hfragments]
      rfl
    · intro u hu
      rcases List.mem_append.1 hu with hu | hu
      · rcases List.mem_append.1 hu with hu | hu
        · exact hheld₁ u hu
        · exact hheld₂ u hu
      · exact hheld₃ u hu

end

end Componentry
