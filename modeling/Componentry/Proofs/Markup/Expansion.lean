import Componentry.Proofs.Markup.Gather
import Componentry.Proofs.Markup.Tags
import Componentry.Proofs.Numbering

/-! # The passes translate trees

Expanding the text of well-formed markup gives the text of its translation
(`Expansion.ofText_source`): the slots of paired tags become definitions, numbered
in the order in which their tags end, and no tag is left.

The proof goes pass by pass, each time for markup with any text behind it.

* `Expansion.selfClosing_source`: the first pass writes the tags that close
  themselves as invocations and leaves everything else.
* `Expansion.paired_source`: the second pass gives the fragments of the
  translation.  For the contents of a paired tag it gives a **shell**, in which the
  slot elements still stand, with the invocations inside of them replaced.
* `ContentPiece.ofText_shell`: the pieces of a shell are the pieces of the
  translation, and `Slots.contents_eq_gather` says that their slots are collected
  as `Slots.gather` does.
-/
namespace Componentry

/-! ## Markup is stepped over -/

/-- What a way of writing must give: blocks for the places of slots, and texts
without opened elements for tags that close themselves. -/
structure Writer.IsSound (r : Registry) (w : Writer) : Prop where
  closed_place : ∀ name, Block.Closed (w.place name)
  passes_single : ∀ {name attributes}, r.isTag name attributes = true →
    ∀ {other}, Tag.isName other = true → Tag.Passes other (w.single name attributes)

theorem Operand.stepsOver_entry {a : Text × Operand} (h : Operand.isReadable a = true) :
    Block.StepsOver .expression (Operand.entry a).2 := by
  obtain ⟨key, value⟩ := a
  cases value with
  | text v => exact Block.stepsOver_quote rfl v
  | var x =>
    have hx := Block.stepsOver_identifier (isIdentifier_chars (Operand.isReadable_var h))
    have hopen : Block.StepsOver .expression ['('] := .fixed (by decide)
    have hclose : Block.StepsOver .expression [')'] := .fixed (by decide)
    simpa [Operand.entry] using (hopen.append hx).append hclose

theorem Operand.stepsOver_entries {attributes : List (Text × Operand)}
    (h : attributes.all Operand.isReadable = true) :
    ∀ e ∈ attributes.map Operand.entry, Block.StepsOver .expression e.2 := by
  intro e he
  obtain ⟨a, ha, rfl⟩ := List.mem_map.1 he
  exact stepsOver_entry (List.all_eq_true.1 h a ha)

theorem Fragment.stepsOver_slotEntries (slots : List (Text × Text)) :
    ∀ e ∈ slotEntries slots, Block.StepsOver .expression e.2 := by
  intro e he
  unfold slotEntries at he
  split at he
  · cases he
  · simp only [List.mem_append, List.mem_map, List.mem_singleton] at he
    rcases he with ⟨⟨label, unit⟩, -, rfl⟩ | rfl
    · refine .call (.fixed (by decide)) ?_
      intro w hw
      rw [List.mem_singleton.1 hw]
      exact Block.stepsOver_quote rfl _
    · exact .fixed (by decide)

/-- An invocation with the entries of a tag is one block. -/
theorem closed_tag (name : Text) {attributes : List (Text × Operand)}
    (h : attributes.all Operand.isReadable = true) (slots : List (Text × Text)) :
    Block.Closed (Fragment.tag name attributes slots).source := by
  refine Block.closed_invocation name ?_
  rw [Block.props_source_entries]
  refine (Block.stepsOver_dictSource ?_).isArgument
  intro e he
  rcases List.mem_append.1 he with he | he
  · exact (Operand.stepsOver_entries h e he).isArgument
  · exact (Fragment.stepsOver_slotEntries slots e he).isArgument

theorem Registry.isTag_attributes {r : Registry} {name : Text} {attributes : List (Text × Operand)}
    (h : r.isTag name attributes = true) : attributes.all Operand.isWellFormed = true := by
  simp only [isTag, Bool.and_eq_true] at h
  exact h.2

theorem Registry.isTag_readable {r : Registry} {name : Text} {attributes : List (Text × Operand)}
    (h : r.isTag name attributes = true) : attributes.all Operand.isReadable = true :=
  Operand.all_isReadable (isTag_attributes h)

theorem Registry.isTag_invokes {r : Registry} {name : Text} {attributes : List (Text × Operand)}
    (h : r.isTag name attributes = true) : r.invokes name = true := by
  simp only [isTag, Bool.and_eq_true] at h
  exact h.1.1

/-- The invocation of a tag without slots. -/
theorem Fragment.source_tag_nil (name : Text) (attributes : List (Text × Operand)) :
    (Fragment.tag name attributes []).source = tagCall name attributes := by
  simp [source, slotEntries, tagCall]

theorem closed_tagCall (name : Text) {attributes : List (Text × Operand)}
    (h : attributes.all Operand.isReadable = true) : Block.Closed (tagCall name attributes) :=
  Fragment.source_tag_nil name attributes ▸ closed_tag name h []

theorem Writer.isSound_placed (r : Registry) : Writer.placed.IsSound r where
  closed_place name := Block.closed_placeholder (markerLabel name)
  passes_single h _ hother :=
    Tag.passes_singleTag hother (Tag.isName_of_isTag h) (Registry.isTag_attributes h)

theorem Writer.isSound_called (r : Registry) : Writer.called.IsSound r where
  closed_place name := Block.closed_placeholder (markerLabel name)
  passes_single h _ _ := fun _ => .block (closed_tagCall _ (Registry.isTag_readable h))

theorem isName_slotTag : Tag.isName slotTag = true := by decide

theorem closed_print {x : Text} (h : isIdentifier x = true) : Block.Closed (expressionBlock x) :=
  Block.closed_expressionBlock (Block.stepsOver_identifier (isIdentifier_chars h))

section Passes

variable {r : Registry} {w : Writer} {name : Text}

mutual

/-- A search for a closing tag steps over whole markup. -/
theorem Markup.passes_source (hw : w.IsSound r) (hname : Tag.isName name = true) :
    ∀ m : Markup, m.isWellFormed r = true → Tag.Passes name (m.source w)
  | .nil, _ => fun _ => .nil
  | .text s rest, h => by
    simp only [Markup.isWellFormed, Bool.and_eq_true] at h
    exact Tag.Passes.append (fun _ => .text h.1) (rest.passes_source hw hname h.2)
  | .print x rest, h => by
    simp only [Markup.isWellFormed, Bool.and_eq_true] at h
    exact Tag.Passes.append (fun _ => .block (closed_print h.1)) (rest.passes_source hw hname h.2)
  | .place n rest, h =>
    Tag.Passes.append (fun _ => .block (hw.closed_place n)) (rest.passes_source hw hname h)
  | .single n attributes rest, h => by
    simp only [Markup.isWellFormed, Bool.and_eq_true] at h
    exact Tag.Passes.append (hw.passes_single h.1 hname) (rest.passes_source hw hname h.2)
  | .paired n attributes contents rest, h => by
    simp only [Markup.isWellFormed, Bool.and_eq_true] at h
    obtain ⟨⟨htag, hcontents⟩, hrest⟩ := h
    have hinner := contents.passes_source hw hname hcontents
    exact Tag.Passes.append (Tag.passes_element hname (Tag.isName_of_isTag htag)
      (Registry.isTag_attributes htag) hinner) (rest.passes_source hw hname hrest)

/-- A search for a closing tag steps over contents. -/
theorem Contents.passes_source (hw : w.IsSound r) (hname : Tag.isName name = true) :
    ∀ cs : Contents, cs.isWellFormed r = true → Tag.Passes name (cs.source w)
  | .last m, h => m.passes_source hw hname h
  | .slot before n body rest, h => by
    simp only [Contents.isWellFormed, Bool.and_eq_true] at h
    obtain ⟨⟨⟨hbefore, hattr⟩, hbody⟩, hrest⟩ := h
    have hslot := Tag.passes_element hname isName_slotTag hattr (body.passes_source hw hname hbody)
    have hall := ((before.passes_source hw hname hbefore).append hslot).append
      (rest.passes_source hw hname hrest)
    simpa [Contents.source] using hall

end

end Passes

/-! ## The first pass -/

namespace Expansion

theorem selfClosing_done {r : Registry} {s : Text} (h : Scan.next r.invokes s = .done) :
    selfClosing r s = s := by
  rw [selfClosing]
  split <;> simp_all

theorem selfClosing_found {r : Registry} {s before after : Text} {e : Element}
    (h : Scan.next r.invokes s = .found before e after) :
    selfClosing r s =
      if e.isSelfClosing then
        before ++ invocation e.name (Props.ofText e.attributes) ++ selfClosing r after
      else before ++ e.opening ++ selfClosing r (e.inside ++ after) := by
  rw [selfClosing]
  split <;> simp_all

theorem selfClosing_unmatched {r : Registry} {s before name read after : Text}
    (h : Scan.next r.invokes s = .unmatched before name read after) :
    selfClosing r s = before ++ read ++ selfClosing r after := by
  rw [selfClosing]
  split <;> simp_all

/-- What the scan steps over stays as it is. -/
theorem selfClosing_skips {r : Registry} {v : Text} (hv : (Scan.search r.invokes).Skips v)
    (s : Text) : selfClosing r (v ++ s) = v ++ selfClosing r s := by
  have hnext : Scan.next r.invokes (v ++ s) = (Scan.next r.invokes s).under v := hv s
  cases h : Scan.next r.invokes s with
  | done =>
    rw [h] at hnext
    rw [selfClosing_done hnext, selfClosing_done h]
  | found before e after =>
    rw [h] at hnext
    rw [selfClosing_found hnext, selfClosing_found h]
    split <;> simp
  | unmatched before name read after =>
    rw [h] at hnext
    rw [selfClosing_unmatched hnext, selfClosing_unmatched h]
    simp

variable {r : Registry}

theorem selfClosing_nil : selfClosing r [] = [] := selfClosing_done (by rw [Scan.next])

/-- A tag that closes itself is written as an invocation. -/
theorem selfClosing_singleTag {name : Text} {attributes : List (Text × Operand)}
    (hname : Tag.isName name = true) (hinvokes : r.invokes name = true)
    (h : attributes.all Operand.isReadable = true) (rest : Text) :
    selfClosing r (singleTag name attributes ++ rest) =
      tagCall name attributes ++ selfClosing r rest := by
  refine (selfClosing_found (Scan.next_singleTag hname hinvokes h rest)).trans ?_
  simp only [Element.isSelfClosing, Option.isNone_none, if_true]
  rw [Props.ofText_attributesSource h, List.nil_append]
  rfl

theorem slotTag_not_invoked : r.invokes slotTag = false := by
  have h : isComponentName slotTag = false := by decide
  rw [Registry.invokes, h, Bool.false_and]

mutual

/-- The first pass writes the tags of markup that close themselves as
invocations. -/
theorem selfClosing_source (tail : Text) :
    ∀ m : Markup, m.isWellFormed r = true →
      selfClosing r (m.source .placed ++ tail) = m.source .called ++ selfClosing r tail
  | .nil, _ => rfl
  | .text s rest, h => by
    simp only [Markup.isWellFormed, Bool.and_eq_true] at h
    rw [Markup.source, List.append_assoc, selfClosing_skips (.text h.1),
      selfClosing_source tail rest h.2, Markup.source, List.append_assoc]
  | .print x rest, h => by
    simp only [Markup.isWellFormed, Bool.and_eq_true] at h
    rw [Markup.source, List.append_assoc, selfClosing_skips (.block (closed_print h.1)),
      selfClosing_source tail rest h.2, Markup.source, List.append_assoc]
  | .place n rest, h => by
    rw [Markup.source, List.append_assoc,
      selfClosing_skips (.block ((Writer.isSound_placed r).closed_place n)),
      selfClosing_source tail rest h, Markup.source, List.append_assoc]
    rfl
  | .single n attributes rest, h => by
    simp only [Markup.isWellFormed, Bool.and_eq_true] at h
    rw [Markup.source, List.append_assoc]
    refine (selfClosing_singleTag (Tag.isName_of_isTag h.1) (Registry.isTag_invokes h.1)
      (Registry.isTag_readable h.1) _).trans ?_
    rw [selfClosing_source tail rest h.2, Markup.source, List.append_assoc]
    rfl
  | .paired n attributes contents rest, h => by
    simp only [Markup.isWellFormed, Bool.and_eq_true] at h
    obtain ⟨⟨htag, hcontents⟩, hrest⟩ := h
    have hname := Tag.isName_of_isTag htag
    have hpasses := contents.passes_source (Writer.isSound_placed r) hname hcontents
    have hnext := Scan.next_element hname (Registry.isTag_invokes htag)
      (Registry.isTag_attributes htag) hpasses (rest.source .placed ++ tail)
    rw [Markup.source, List.append_assoc, selfClosing_found hnext]
    -- The pass goes on behind the opening tag: through the contents, over the closing tag,
    -- and on behind it.
    simp only [Element.isSelfClosing, Option.isNone_some, Bool.false_eq_true, if_false,
      Element.inside, Element.opening, List.append_assoc]
    rw [selfClosing_contents _ contents hcontents, selfClosing_skips (Scan.skips_closingTag hname),
      selfClosing_source tail rest hrest, Markup.source]
    simp [openingTag]

/-- The first pass on contents. -/
theorem selfClosing_contents (tail : Text) :
    ∀ cs : Contents, cs.isWellFormed r = true →
      selfClosing r (cs.source .placed ++ tail) = cs.source .called ++ selfClosing r tail
  | .last m, h => selfClosing_source tail m h
  | .slot before n body rest, h => by
    simp only [Contents.isWellFormed, Bool.and_eq_true] at h
    obtain ⟨⟨⟨hbefore, hattr⟩, hbody⟩, hrest⟩ := h
    simp only [Contents.source, List.append_assoc]
    rw [selfClosing_source _ before hbefore,
      selfClosing_skips (Scan.skips_openingTag isName_slotTag slotTag_not_invoked hattr),
      selfClosing_source _ body hbody, selfClosing_skips (Scan.skips_closingTag isName_slotTag),
      selfClosing_contents tail rest hrest]

end

/-! ## The second pass -/

theorem paired_done {owner s : Text} {count offset : Nat} (h : Scan.next r.invokes s = .done) :
    paired r owner count offset s = ⟨s, [], []⟩ := by
  rw [paired]
  split <;> simp_all

theorem paired_single {owner s before after : Text} {count offset : Nat} {e : Element}
    (h : Scan.next r.invokes s = .found before e after) (hc : e.contents = none) :
    paired r owner count offset s =
      (paired r owner count (offset + Text.byteLength before + Text.byteLength e.text) after).under
        (before ++ invocation e.name (Props.ofText e.attributes)) := by
  rw [paired]
  split
  · simp_all
  · rename_i h'
    rw [h] at h'
    cases h'
    split
    · rfl
    · simp_all
  · simp_all

theorem paired_found {owner s before after body close : Text} {count offset : Nat} {e : Element}
    (h : Scan.next r.invokes s = .found before e after) (hc : e.contents = some (body, close)) :
    paired r owner count offset s =
      let inner := paired r owner count 0 body
      let slots := Slots.extract owner e.name (count + inner.units.length) inner.text
      let units := inner.units ++ slots.units
      let rest := paired r owner (count + units.length)
        (offset + Text.byteLength before + Text.byteLength e.text) after
      ⟨before ++ invocation e.name ((Props.ofText e.attributes).withEntries slots.propEntries) ++
          rest.text,
        units ++ rest.units, inner.unmatched ++ rest.unmatched⟩ := by
  rw [paired]
  split
  · simp_all
  · rename_i h'
    rw [h] at h'
    cases h'
    split
    · simp_all
    · rename_i hc'
      rw [hc] at hc'
      cases hc'
      rfl
  · simp_all

theorem paired_unmatched {owner s before name read after : Text} {count offset : Nat}
    (h : Scan.next r.invokes s = .unmatched before name read after) :
    paired r owner count offset s =
      let start := offset + Text.byteLength before
      let rest := paired r owner count (start + Text.byteLength read) after
      ⟨before ++ read ++ rest.text, rest.units, ⟨name, start⟩ :: rest.unmatched⟩ := by
  rw [paired]
  split
  · simp_all
  · simp_all
  · rename_i h'
    rw [h] at h'
    cases h'
    rfl

/-- What the scan steps over stays as it is; what follows starts behind it. -/
theorem paired_skips {owner v : Text} {count offset : Nat} (hv : (Scan.search r.invokes).Skips v)
    (s : Text) :
    paired r owner count offset (v ++ s) =
      (paired r owner count (offset + Text.byteLength v) s).under v := by
  have hnext : Scan.next r.invokes (v ++ s) = (Scan.next r.invokes s).under v := hv s
  cases h : Scan.next r.invokes s with
  | done =>
    rw [h] at hnext
    rw [paired_done hnext, paired_done h]
    rfl
  | found before e after =>
    rw [h] at hnext
    cases hc : e.contents with
    | none =>
      rw [paired_single hnext hc, paired_single h hc]
      simp [under, Nat.add_assoc]
    | some contents =>
      obtain ⟨body, close⟩ := contents
      rw [paired_found hnext hc, paired_found h hc]
      simp [under, Nat.add_assoc]
  | unmatched before name read after =>
    rw [h] at hnext
    rw [paired_unmatched hnext, paired_unmatched h]
    simp [under, Nat.add_assoc]

end Expansion

/-! ## Fragments -/

namespace Fragment

/-- Whether a fragment can be told from its text. -/
def isWellFormed : Fragment → Bool
  | text s => isPlainText s
  | print x => isIdentifier x
  | place _ => true
  | tag _ attributes _ => attributes.all Operand.isWellFormed

theorem skips_source {β : Type} {S : Search β} {f : Fragment} (h : f.isWellFormed = true) :
    S.Skips f.source := by
  cases f with
  | text s => exact .text h
  | print x => exact .block (closed_print h)
  | place name => exact .block (Block.closed_placeholder (markerLabel name))
  | tag name attributes slots => exact .block (closed_tag name (Operand.all_isReadable h) slots)

theorem skips_sources {β : Type} {S : Search β} {fragments : List Fragment}
    (h : ∀ f ∈ fragments, f.isWellFormed = true) : S.Skips (sources fragments) := by
  induction fragments with
  | nil => exact .nil
  | cons f fragments ih =>
    rw [sources, List.flatMap_cons]
    exact (skips_source (h f (by simp))).append (ih fun g hg => h g (by simp [hg]))

/-- A fragment's text is blank only if the fragment is. -/
theorem isVoid_source (f : Fragment) : Text.isVoid f.source = f.isBlank := by
  cases f <;> rfl

theorem isVoid_sources (fragments : List Fragment) :
    Text.isVoid (sources fragments) = fragments.all isBlank := by
  rw [sources, List.flatMap_def, Slots.isVoid_flatten, List.all_map]
  exact congrArg _ (funext isVoid_source)

theorem sources_flatten (parts : List (List Fragment)) :
    sources parts.flatten = (parts.map sources).flatten := by
  induction parts with
  | nil => rfl
  | cons fragments parts ih =>
    rw [List.flatten_cons, sources, List.flatMap_append, ← sources, ← sources, ih]
    rfl

end Fragment

theorem Slots.mem_gather {α : Type} {blank : α → Bool} {pieces : List (Option Text × α)}
    {slot : Text × List α} (h : slot ∈ gather blank pieces) {a : α} (ha : a ∈ slot.2) :
    ∃ label, (label, a) ∈ pieces := by
  have hparts : ∀ label, a ∈ parts pieces label → ∃ l, (l, a) ∈ pieces := by
    intro label hmem
    obtain ⟨⟨l, b⟩, hb, rfl⟩ := List.mem_map.1 hmem
    exact ⟨l, (List.mem_filter.1 hb).1⟩
  rcases List.mem_append.1 h with h | h
  · obtain ⟨label, -, rfl⟩ := List.mem_map.1 h
    exact hparts (some label) ha
  · split at h
    · cases h
    · rw [List.mem_singleton.1 h] at ha
      exact hparts none ha

theorem Slots.mem_number {α : Type} {owner component : Text} {count : Nat}
    {slots : List (Text × α)} {label unit : Text} {a : α}
    (h : (label, unit, a) ∈ number owner component count slots) : (label, a) ∈ slots := by
  simp only [number, List.mem_map, Prod.mk.injEq, Prod.exists] at h
  obtain ⟨l, b, n, hmem, rfl, -, rfl⟩ := h
  have hfst := List.mem_map_of_mem (f := Prod.fst) hmem
  rwa [List.zipIdx_map_fst] at hfst

mutual

/-- The translation of well-formed markup is well-formed, in its fragments and in
its definitions. -/
theorem Markup.isWellFormed_translate {r : Registry} (owner : Text) (count : Nat) :
    ∀ m : Markup, m.isWellFormed r = true →
      (∀ f ∈ (m.translate owner count).1, f.isWellFormed = true) ∧
        ∀ u ∈ (m.translate owner count).2, ∀ f ∈ u.2, f.isWellFormed = true
  | .nil, _ => by simp [Markup.translate]
  | .text s rest, h => by
    simp only [Markup.isWellFormed, Bool.and_eq_true] at h
    obtain ⟨h₁, h₂⟩ := rest.isWellFormed_translate owner count h.2
    exact ⟨by simpa [Markup.translate, Fragment.isWellFormed] using ⟨h.1, h₁⟩, h₂⟩
  | .print x rest, h => by
    simp only [Markup.isWellFormed, Bool.and_eq_true] at h
    obtain ⟨h₁, h₂⟩ := rest.isWellFormed_translate owner count h.2
    exact ⟨by simpa [Markup.translate, Fragment.isWellFormed] using ⟨h.1, h₁⟩, h₂⟩
  | .place n rest, h => by
    obtain ⟨h₁, h₂⟩ := rest.isWellFormed_translate owner count h
    exact ⟨by simpa [Markup.translate, Fragment.isWellFormed] using h₁, h₂⟩
  | .single n attributes rest, h => by
    simp only [Markup.isWellFormed, Bool.and_eq_true] at h
    obtain ⟨h₁, h₂⟩ := rest.isWellFormed_translate owner count h.2
    have hattr := Registry.isTag_attributes h.1
    refine ⟨?_, h₂⟩
    rintro f hf
    rcases List.mem_cons.1 hf with rfl | hf
    · exact hattr
    · exact h₁ f hf
  | .paired n attributes contents rest, h => by
    simp only [Markup.isWellFormed, Bool.and_eq_true] at h
    obtain ⟨⟨htag, hcontents⟩, hrest⟩ := h
    obtain ⟨hpieces, hinner⟩ := contents.isWellFormed_translate owner count hcontents
    refine ⟨?_, ?_⟩
    · intro f hf
      rcases List.mem_cons.1 hf with rfl | hf
      · exact Registry.isTag_attributes htag
      · exact (rest.isWellFormed_translate owner _ hrest).1 f hf
    · intro u hu f hf
      rcases List.mem_append.1 hu with hu | hu
      · rcases List.mem_append.1 hu with hu | hu
        · exact hinner u hu f hf
        · obtain ⟨⟨label, unit, parts⟩, hslot, rfl⟩ := List.mem_map.1 hu
          obtain ⟨fragments, hfragments, hf⟩ := List.mem_flatten.1 hf
          obtain ⟨l, hl⟩ := Slots.mem_gather (Slots.mem_number hslot) hfragments
          exact hpieces _ hl f hf
      · exact (rest.isWellFormed_translate owner _ hrest).2 u hu f hf

theorem Contents.isWellFormed_translate {r : Registry} (owner : Text) (count : Nat) :
    ∀ cs : Contents, cs.isWellFormed r = true →
      (∀ p ∈ (cs.translate owner count).1, ∀ f ∈ p.2, f.isWellFormed = true) ∧
        ∀ u ∈ (cs.translate owner count).2, ∀ f ∈ u.2, f.isWellFormed = true
  | .last m, h => by
    obtain ⟨h₁, h₂⟩ := m.isWellFormed_translate owner count h
    exact ⟨by simpa [Contents.translate] using h₁, h₂⟩
  | .slot before n body rest, h => by
    simp only [Contents.isWellFormed, Bool.and_eq_true] at h
    obtain ⟨⟨⟨hbefore, -⟩, hbody⟩, hrest⟩ := h
    have h₁ := before.isWellFormed_translate owner count hbefore
    have h₂ := body.isWellFormed_translate owner
      (count + (before.translate owner count).2.length) hbody
    have h₃ := rest.isWellFormed_translate owner (count + (before.translate owner count).2.length +
      (body.translate owner (count + (before.translate owner count).2.length)).2.length) hrest
    refine ⟨?_, ?_⟩
    · rintro p hp f hf
      rcases List.mem_cons.1 hp with rfl | hp
      · exact h₁.1 f hf
      rcases List.mem_cons.1 hp with rfl | hp
      · exact h₂.1 f hf
      · exact h₃.1 p hp f hf
    · rintro u hu f hf
      rcases List.mem_append.1 hu with hu | hu
      · rcases List.mem_append.1 hu with hu | hu
        · exact h₁.2 u hu f hf
        · exact h₂.2 u hu f hf
      · exact h₃.2 u hu f hf

end

/-! ## Shells -/

/-- Contents whose invocations have been replaced, with their slot elements. -/
def Contents.shell (owner : Text) (count : Nat) : Contents → Text
  | .last m => Fragment.sources (m.translate owner count).1
  | .slot before name body rest =>
    let (loose, units₁) := before.translate owner count
    let (held, units₂) := body.translate owner (count + units₁.length)
    Fragment.sources loose ++
      (openingTag slotTag (slotAttributes name) ++ Fragment.sources held ++ closingTag slotTag ++
        rest.shell owner (count + units₁.length + units₂.length))

theorem Element.slotLabel?_slotAttributes {name : Option Text} {tail : Text}
    {contents : Option (Text × Text)}
    (h : (slotAttributes name).all Operand.isWellFormed = true) :
    (Element.mk slotTag (attributesSource (slotAttributes name)) tail contents).slotLabel? =
      Slots.ofName name := by
  rw [Element.slotLabel?, Attribute.parse_attributesSource (Operand.all_isReadable h)]
  cases name with
  | none => rfl
  | some name => simp [slotAttributes, Operand.attribute, Attribute.static?, Slots.ofName]

theorem ContentPiece.ofText_done {s : Text} (h : Scan.next (· == slotTag) s = .done) :
    ContentPiece.ofText s = [.loose s] := by
  rw [ContentPiece.ofText]
  split <;> simp_all

/-- Empty contents give no slots. -/
theorem Slots.extract_nil (owner component : Text) (count : Nat) :
    extract owner component count [] = ⟨[], []⟩ := by
  have hnext : Scan.next (· == slotTag) [] = .done := by rw [Scan.next]
  rw [extract, ContentPiece.ofText_done hnext]
  rfl

theorem ContentPiece.ofText_found {s before after : Text} {e : Element}
    (h : Scan.next (· == slotTag) s = .found before e after) :
    ContentPiece.ofText s =
      .loose before :: .slot e.slotLabel? e.body :: ContentPiece.ofText after := by
  rw [ContentPiece.ofText]
  split <;> simp_all

/-- The pieces of a shell are the pieces of the translation. -/
theorem ContentPiece.ofText_shell {r : Registry} (owner : Text) (count : Nat) (cs : Contents)
    (h : cs.isWellFormed r = true) :
    (ContentPiece.ofText (cs.shell owner count)).map Slots.ofPiece =
      (cs.translate owner count).1.map (Prod.map id Fragment.sources) := by
  cases cs with
  | last m =>
    have hskip := Fragment.skips_sources (S := Scan.search (· == slotTag))
      (m.isWellFormed_translate owner count h).1
    have hdone : Scan.next (· == slotTag) (Fragment.sources (m.translate owner count).1) = .done := by
      have hnext := hskip []
      simp only [List.append_nil, Scan.search] at hnext
      rw [hnext, Scan.next]
      rfl
    rw [Contents.shell, ContentPiece.ofText_done hdone]
    rfl
  | slot before name body rest =>
    simp only [Contents.isWellFormed, Bool.and_eq_true] at h
    obtain ⟨⟨⟨hbefore, hattr⟩, hbody⟩, hrest⟩ := h
    have ih := ofText_shell owner (count + (before.translate owner count).2.length +
      (body.translate owner (count + (before.translate owner count).2.length)).2.length) rest hrest
    have hskip := Fragment.skips_sources (S := Scan.search (· == slotTag))
      (before.isWellFormed_translate owner count hbefore).1
    have hpasses : Tag.Passes slotTag (Fragment.sources (body.translate owner
        (count + (before.translate owner count).2.length)).1) := fun _ =>
      Fragment.skips_sources (body.isWellFormed_translate owner _ hbody).1
    have hnext := hskip (openingTag slotTag (slotAttributes name) ++
      Fragment.sources (body.translate owner (count + (before.translate owner count).2.length)).1 ++
      closingTag slotTag ++ rest.shell owner (count + (before.translate owner count).2.length +
      (body.translate owner (count + (before.translate owner count).2.length)).2.length))
    simp only [Scan.search] at hnext
    rw [Scan.next_element isName_slotTag (by decide) hattr hpasses] at hnext
    rw [Contents.shell]
    rw [ContentPiece.ofText_found hnext, Element.slotLabel?_slotAttributes hattr, Contents.translate,
      List.map_cons, List.map_cons, ih]
    simp [Slots.ofPiece, Element.body]
termination_by structural cs

/-- Definitions for slots, with their texts. -/
def slotUnits (units : List (Text × List Fragment)) : List SlotUnit :=
  units.map fun (name, body) => ⟨name, Fragment.sources body⟩

theorem slotUnits_append (units more : List (Text × List Fragment)) :
    slotUnits (units ++ more) = slotUnits units ++ slotUnits more := List.map_append

theorem length_slotUnits (units : List (Text × List Fragment)) :
    (slotUnits units).length = units.length := List.length_map _

/-- **The slots of a shell are the slots of the translation.** -/
theorem Slots.extract_shell {r : Registry} (owner component : Text) (count number : Nat)
    {cs : Contents} (h : cs.isWellFormed r = true) :
    Slots.extract owner component number (cs.shell owner count) =
      let slots := Slots.number owner component number
        (Slots.gather (·.all Fragment.isBlank) (cs.translate owner count).1)
      ⟨slots.map fun (label, unit, _) => (label, unit),
        slotUnits (slots.map fun (_, unit, parts) => (unit, parts.flatten))⟩ := by
  have hcontents : Slots.contents (ContentPiece.ofText (cs.shell owner count)) =
      (Slots.gather (·.all Fragment.isBlank) (cs.translate owner count).1).map
        (Prod.map id fun parts => Fragment.sources parts.flatten) := by
    rw [Slots.contents_eq_gather, ContentPiece.ofText_shell owner count cs h,
      Slots.gather_map Fragment.sources (·.all Fragment.isBlank) Text.isVoid
        (fun p _ => Fragment.isVoid_sources p.2), List.map_map]
    refine List.map_congr_left ?_
    rintro ⟨label, parts⟩ -
    simp [Fragment.sources_flatten]
  simp only [Slots.extract, hcontents, Slots.number, slotUnits, List.zipIdx_map, List.map_map]
  rfl

/-! ## The second pass on markup -/

namespace Expansion

variable {r : Registry}

/-- A text and the definitions found in it, before the expansion of what
follows. -/
def before (text : Text) (units : List (Text × List Fragment)) (rest : Expansion) : Expansion :=
  ⟨text ++ rest.text, slotUnits units ++ rest.units, rest.unmatched⟩

theorem paired_nil (owner : Text) (count offset : Nat) :
    paired r owner count offset [] = ⟨[], [], []⟩ :=
  paired_done (by rw [Scan.next])

theorem under_before (v text : Text) (units : List (Text × List Fragment)) (rest : Expansion) :
    (before text units rest).under v = before (v ++ text) units rest := by
  simp [before, under]

mutual

/-- The second pass gives the translation of markup, whatever follows it. -/
theorem paired_source (owner : Text) (count offset : Nat) (tail : Text) :
    ∀ m : Markup, m.isWellFormed r = true →
      paired r owner count offset (m.source .called ++ tail) =
        before (Fragment.sources (m.translate owner count).1) (m.translate owner count).2
          (paired r owner (count + (m.translate owner count).2.length)
            (offset + Text.byteLength (m.source .called)) tail)
  | .nil, _ => by simp [Markup.source, Markup.translate, before, slotUnits, Fragment.sources]
  | .text s rest, h => by
    simp only [Markup.isWellFormed, Bool.and_eq_true] at h
    rw [Markup.source, List.append_assoc, paired_skips (.text h.1),
      paired_source owner count _ tail rest h.2, under_before, Markup.translate,
      Text.byteLength_append, Nat.add_assoc]
    rfl
  | .print x rest, h => by
    simp only [Markup.isWellFormed, Bool.and_eq_true] at h
    rw [Markup.source, List.append_assoc, paired_skips (.block (closed_print h.1)),
      paired_source owner count _ tail rest h.2, under_before, Markup.translate,
      Text.byteLength_append, Nat.add_assoc]
    rfl
  | .place n rest, h => by
    rw [Markup.source, List.append_assoc,
      paired_skips (.block ((Writer.isSound_called r).closed_place n)),
      paired_source owner count _ tail rest h, under_before, Markup.translate,
      Text.byteLength_append, Nat.add_assoc]
    rfl
  | .single n attributes rest, h => by
    simp only [Markup.isWellFormed, Bool.and_eq_true] at h
    have hwriter : Writer.called.single n attributes = tagCall n attributes := rfl
    rw [Markup.source, List.append_assoc, hwriter,
      paired_skips (.block (closed_tagCall n (Registry.isTag_readable h.1))),
      paired_source owner count _ tail rest h.2, under_before, Markup.translate,
      Text.byteLength_append, Nat.add_assoc]
    simp only [Prod.map, Fragment.sources, List.flatMap_cons, Fragment.source_tag_nil]
    rfl
  | .paired n attributes contents rest, h => by
    simp only [Markup.isWellFormed, Bool.and_eq_true] at h
    obtain ⟨⟨htag, hcontents⟩, hrest⟩ := h
    have hname := Tag.isName_of_isTag htag
    have hpasses := contents.passes_source (Writer.isSound_called r) hname hcontents
    have hnext := Scan.next_element hname (Registry.isTag_invokes htag)
      (Registry.isTag_attributes htag) hpasses (rest.source .called ++ tail)
    have hinner : paired r owner count 0 (contents.source .called) =
        ⟨contents.shell owner count, slotUnits (contents.translate owner count).2, []⟩ := by
      have hc := paired_contents owner count 0 [] contents hcontents
      rw [List.append_nil, paired_nil] at hc
      rw [hc]
      simp [before]
    have hentries : ∀ slots : Slots, (Props.ofText (attributesSource attributes)).withEntries
        slots.propEntries =
        ⟨[], attributes.map Operand.entry ++ Fragment.slotEntries slots.entries⟩ := by
      intro slots
      rw [Props.ofText_attributesSource (Registry.isTag_readable htag)]
      rfl
    rw [Markup.source, List.append_assoc, paired_found hnext rfl]
    simp only [hinner, hentries, length_slotUnits, Slots.extract_shell owner n count _ hcontents,
      ← slotUnits_append]
    rw [paired_source owner _ _ tail rest hrest, Markup.translate]
    simp only [before, slotUnits_append, Fragment.sources, List.flatMap_cons, Fragment.source,
      List.nil_append, List.append_assoc, List.length_append, Nat.add_assoc, Text.byteLength_append,
      Text.byteLength_nil, Nat.zero_add, Element.text, Element.opening, openingTag]

/-- The second pass gives the shell of contents, whatever follows them. -/
theorem paired_contents (owner : Text) (count offset : Nat) (tail : Text) :
    ∀ cs : Contents, cs.isWellFormed r = true →
      paired r owner count offset (cs.source .called ++ tail) =
        before (cs.shell owner count) (cs.translate owner count).2
          (paired r owner (count + (cs.translate owner count).2.length)
            (offset + Text.byteLength (cs.source .called)) tail)
  | .last m, h => paired_source owner count offset tail m h
  | .slot pre n body rest, h => by
    simp only [Contents.isWellFormed, Bool.and_eq_true] at h
    obtain ⟨⟨⟨hpre, hattr⟩, hbody⟩, hrest⟩ := h
    simp only [Contents.source, List.append_assoc]
    rw [paired_source owner count _ _ pre hpre,
      paired_skips (Scan.skips_openingTag isName_slotTag slotTag_not_invoked hattr),
      paired_source owner _ _ _ body hbody, paired_skips (Scan.skips_closingTag isName_slotTag),
      paired_contents owner _ _ tail rest hrest]
    simp only [before, under, Contents.shell, Contents.translate, slotUnits_append,
      List.append_assoc, List.length_append, Nat.add_assoc, Text.byteLength_append]

end

end Expansion

/-! ## Both passes -/

namespace Expansion

variable {r : Registry}

theorem ofText_translate (owner : Text) (count : Nat) {m : Markup}
    (h : m.isWellFormed r = true) :
    ofText r owner count (m.source .placed) =
      ⟨Fragment.sources (m.translate owner count).1, slotUnits (m.translate owner count).2, []⟩ := by
  have hfirst := selfClosing_source [] m h
  have hsecond := paired_source owner count 0 [] m h
  rw [paired_nil] at hsecond
  rw [selfClosing_nil, List.append_nil, List.append_nil] at hfirst
  rw [List.append_nil] at hsecond
  rw [ofText, hfirst, hsecond]
  simp [before]

theorem selfClosing_whole {v : Text} (hv : (Scan.search r.invokes).Skips v) :
    selfClosing r v = v := by
  have hall := selfClosing_skips hv []
  rwa [selfClosing_nil, List.append_nil] at hall

theorem paired_whole {owner v : Text} {count offset : Nat} (hv : (Scan.search r.invokes).Skips v) :
    paired r owner count offset v = ⟨v, [], []⟩ := by
  have hall : paired r owner count offset (v ++ []) = _ := paired_skips hv []
  rw [paired_nil, List.append_nil] at hall
  simpa [under] using hall

/-- Text without tags stays as it is. -/
theorem ofText_skips (owner : Text) (count : Nat) {v : Text} (hv : (Scan.search r.invokes).Skips v) :
    ofText r owner count v = ⟨v, [], []⟩ := by
  rw [ofText, selfClosing_whole hv, paired_whole hv]

/-- A text that is one tag which closes itself is written as an invocation. -/
theorem ofText_singleTag (owner : Text) (count : Nat) {name : Text}
    {attributes : List (Text × Operand)} (hname : Tag.isName name = true)
    (hinvokes : r.invokes name = true) (h : attributes.all Operand.isReadable = true) :
    ofText r owner count (singleTag name attributes) = ⟨tagCall name attributes, [], []⟩ := by
  have hfirst := selfClosing_singleTag hname hinvokes h []
  rw [selfClosing_nil, List.append_nil, List.append_nil] at hfirst
  rw [ofText, hfirst, paired_whole (.block (closed_tagCall name h))]

theorem numbered_translate (owner : Text) (count : Nat) {m : Markup}
    (h : m.isWellFormed r = true) :
    Numbered owner count ((m.translate owner count).2.map Prod.fst) := by
  have hnumbered := numbered_ofText r owner count (m.source .placed)
  rw [ofText_translate owner count h, slotUnits, List.map_map] at hnumbered
  exact hnumbered

/-- **The passes translate trees**: expanding the text of well-formed markup gives
the text of its translation and the definitions for its slots, numbered on from
`count` in the order in which their tags end, and leaves no tag unmatched. -/
theorem ofText_source (r : Registry) (owner : Text) (count : Nat) (m : Markup)
    (h : m.isWellFormed r = true) :
    ofText r owner count (m.source .placed) =
        ⟨Fragment.sources (m.translate owner count).1, slotUnits (m.translate owner count).2, []⟩ ∧
      Numbered owner count ((m.translate owner count).2.map Prod.fst) :=
  ⟨ofText_translate owner count h, numbered_translate owner count h⟩

/-- A box in the slot of a box, with a tag that closes itself and a slot that is
given twice. -/
def boxInBox : Markup :=
  .paired ['B', 'o', 'x'] [(['k'], .text ['>', '/'])]
    (.slot (.text [' '] .nil) (some ['a'])
      (.paired ['B', 'o', 'x'] [] (.last (.single ['D', 'o', 't'] [(['x'], .var ['y'])] .nil)) .nil)
      (.slot (.text ['\n'] .nil) (some ['a']) (.text ['t'] .nil) (.last (.print ['z'] .nil))))
    (.text ['.'] .nil)

theorem ofText_boxInBox :
    boxInBox.isWellFormed ⟨[['B', 'o', 'x'], ['D', 'o', 't']]⟩ = true ∧
      (ofText ⟨[['B', 'o', 'x'], ['D', 'o', 't']]⟩ ['p'] 0 (boxInBox.source .placed) =
          ⟨Fragment.sources (boxInBox.translate ['p'] 0).1,
            slotUnits (boxInBox.translate ['p'] 0).2, []⟩ ∧
        Numbered ['p'] 0 ((boxInBox.translate ['p'] 0).2.map Prod.fst)) ∧
      (boxInBox.translate ['p'] 0).2.map Prod.fst =
        ["p__Box__Slot__0".toList, "p__Box__A__1".toList, "p__Box__Slot__2".toList] :=
  ⟨by decide, ofText_source _ _ _ _ (by decide), by decide⟩

end Expansion

end Componentry
