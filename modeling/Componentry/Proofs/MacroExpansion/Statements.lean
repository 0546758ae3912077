import Componentry.Proofs.MacroExpansion.Translation
import Componentry.Proofs.Template.Code

/-! # The statements of fragments

Fragments are parsed one by one, only that text in a row is one statement
(`Fragment.statements`): a fragment that is no text is an expression block, and its
code is read as the expression `Fragment.value?`.

A template of fragments that does not end in a carriage return parses to these
statements (`Translates.parse`); one at the very end would be dropped.
-/
namespace Componentry

open Template

/-! ## Expressions of fragments -/

/-- The expression of an attribute's value. -/
def Operand.expr : Operand → Expr
  | .text v => .const (.string v) 1
  | .var x => .var x 1

namespace Fragment

/-- The expressions of the entries that hand slots to a component. -/
def slotExprs (slots : List (Text × Text)) : List (Text × Expr) :=
  if slots.isEmpty then []
  else
    slots.map (fun (label, unit) =>
      (label, deferredExpr (deferredInvocation unit) 1)) ++
    [(callerVar, .var Attribute.contextVar 1)]

/-- The expressions of the entries of a tag's props. -/
def entryExprs (attributes : List (Text × Operand)) (slots : List (Text × Text)) :
    List (Text × Expr) :=
  attributes.map (fun a => (a.1, a.2.expr)) ++ slotExprs slots

/-- The expression that a fragment writes out; text has none. -/
def value? : Fragment → Option Expr
  | text _ => none
  | print x => some (.var x 1)
  | place name =>
    some (.ifElse (isGivenExpr (markerLabel name) 1)
      (invokeExpr (markerLabel name) Attribute.contextVar 1) none)
  | tag name attributes slots =>
    some (.call (.var invokeName 1) [(.positional, .const (.string name) 1),
      (.positional, dictExpr (entryExprs attributes slots) 1)])

/-- The statements of fragments behind a text. -/
def statements : (pending : Text) → List Fragment → List Stmt
  | pending, [] => dataStmts pending
  | pending, f :: more =>
    match f.value? with
    | none => statements (pending ++ f.source) more
    | some e => dataStmts pending ++ .emit e :: statements [] more

/-- A fragment is text without blocks and line breaks, or the code of its
expression. -/
def IsRead (f : Fragment) : Prop :=
  match f.value? with
  | none => '{' ∉ f.source ∧ '\n' ∉ f.source
  | some e => ∃ w, f.source = expressionBlock w ∧ Code 1 149 w e

end Fragment

/-! ## Code of fragments -/

theorem isVariable_identifier {x : Text} (h : isVariable x = true) :
    isIdentifier x = true ∧ constant? x = none ∧ x ≠ Keyword.kNot.text := by
  simp only [isVariable, Bool.and_eq_true, Option.isNone_iff_eq_none, bne_iff_ne] at h
  exact ⟨h.1.1.1.1, h.1.1.2, h.1.2⟩

theorem code_variable {x : Text} (h : isVariable x = true) (n : Nat) :
    Code 1 (n + 2) x (.var x 1) := by
  obtain ⟨hx, hconst, hnot⟩ := isVariable_identifier h
  exact (Template.Operand.var hx hconst hnot 1 (n + 1)).code

/-- The value of an attribute is read as its expression. -/
def Operand.IsCode (a : Text × Operand) : Prop := Code 1 147 (Operand.entry a).2 a.2.expr

theorem Operand.isCode_text (key v : Text) : Operand.IsCode (key, .text v) :=
  (Template.Operand.string 1 146 v).code

theorem isCode_textAttributes (attributes : List (Text × Text)) :
    ∀ a ∈ textAttributes attributes, Operand.IsCode a :=
  List.forall_mem_map.2 fun a _ => Operand.isCode_text a.1 a.2

/-- A tag without slots has as many props as attributes. -/
theorem entryCount_textAttributes (attributes : List (Text × Text)) :
    entryCount (textAttributes attributes) ([] : List (Text × Text)) = attributes.length := by
  simp [entryCount, textAttributes]

theorem Operand.isCode_of_isPlain {a : Text × Operand} (h : Operand.isPlain a = true) :
    Operand.IsCode a := by
  obtain ⟨key, value⟩ := a
  cases value with
  | text v => exact isCode_text key v
  | var x =>
    simp only [Operand.isPlain, Bool.and_eq_true] at h
    exact (Template.Operand.group (code_variable h.2 143)).code

namespace Fragment

theorem code_slotEntries (slots : List (Text × Text)) :
    ∃ entries : List (Text × Text × Expr), slotEntries slots = entries.map (fun e => (e.1, e.2.1)) ∧
      slotExprs slots = entries.map (fun e => (e.1, e.2.2)) ∧
      ∀ e ∈ entries, Code 1 147 e.2.1 e.2.2 := by
  unfold slotEntries slotExprs
  split
  · exact ⟨[], rfl, rfl, by simp⟩
  · refine ⟨slots.map (fun (label, unit) => (label,
        Props.call deferredName [Text.quote (deferredInvocation unit)],
        deferredExpr (deferredInvocation unit) 1)) ++
      [(callerVar, Attribute.contextVar, .var Attribute.contextVar 1)], ?_, ?_, ?_⟩
    · simp
    · simp
    · intro e he
      rcases List.mem_append.1 he with he | he
      · obtain ⟨⟨label, unit⟩, -, rfl⟩ := List.mem_map.1 he
        exact (Template.Operand.deferred 1 144 _).code
      · rw [List.mem_singleton.1 he]
        exact (Template.Operand.var (by decide) (by decide) (by decide) 1 146).code

theorem length_slotExprs (attributes : List (Text × Operand)) (slots : List (Text × Text)) :
    attributes.length + (slotExprs slots).length = entryCount attributes slots := by
  unfold slotExprs entryCount
  split <;> simp

/-- The entries of a tag's props, with the code of each and what it is read as. -/
theorem exists_props {attributes : List (Text × Operand)} (slots : List (Text × Text))
    (h : ∀ a ∈ attributes, Operand.IsCode a) :
    ∃ props : List (Text × Text × Expr), (∀ e ∈ props, Code 1 147 e.2.1 e.2.2) ∧
      props.length = entryCount attributes slots ∧
      Props.source ⟨[], attributes.map Operand.entry ++ slotEntries slots⟩ =
        Props.dictSource (props.map fun e => (e.1, e.2.1)) ∧
      props.map (fun e => (e.1, e.2.2)) = entryExprs attributes slots := by
  obtain ⟨entries, hsource, hexpr, hcode⟩ := code_slotEntries slots
  refine ⟨attributes.map (fun a => (a.1, (Operand.entry a).2, a.2.expr)) ++ entries, ?_, ?_, ?_, ?_⟩
  · intro e he
    rcases List.mem_append.1 he with he | he
    · obtain ⟨a, ha, rfl⟩ := List.mem_map.1 he
      exact h a ha
    · exact hcode e he
  · rw [← length_slotExprs, hexpr]
    simp
  · have hkey : ∀ a : Text × Operand, Operand.entry a = (a.1, (Operand.entry a).2) := by
      rintro ⟨key, value⟩
      cases value <;> rfl
    rw [Block.props_source_entries, hsource, List.map_append, List.map_map]
    congr 2
    exact List.map_congr_left fun a _ => hkey a
  · rw [entryExprs, hexpr, List.map_append, List.map_map]
    rfl

/-- The code of a tag's invocation, if it has not too many props. -/
theorem isRead_tag {name : Text} {attributes : List (Text × Operand)} {slots : List (Text × Text)}
    (h : ∀ a ∈ attributes, Operand.IsCode a) (hcount : entryCount attributes slots ≤ 1000) :
    (tag name attributes slots).IsRead := by
  obtain ⟨props, hprops, hlength, hsource, hexprs⟩ := exists_props slots h
  have hdict := Template.Operand.dict hprops (by omega)
  rw [← hsource, hexprs] at hdict
  have hargs : ∀ arg ∈ [(Text.quote name, Expr.const (.string name) 1),
      (Props.source ⟨[], attributes.map Operand.entry ++ slotEntries slots⟩,
        dictExpr (entryExprs attributes slots) 1)], Code 1 148 arg.1 arg.2 := by
    simp only [List.forall_mem_cons]
    exact ⟨(Template.Operand.string 1 147 name).code, hdict.code, by simp⟩
  have hcall := Template.Operand.call (f := invokeName) (by decide) (by decide) (by decide) hargs
    (by simp)
  exact ⟨_, rfl, hcall.code⟩

end Fragment

variable {names : List Text} {units : List (Text × List Fragment)}

theorem isTagOf_attributes {name : Text} {attributes : List (Text × Operand)}
    (h : isTagOf names name attributes = true) : attributes.all Operand.isPlain = true := by
  simp only [isTagOf, Bool.and_eq_true] at h
  exact h.2

theorem isTagOf_isCode {name : Text} {attributes : List (Text × Operand)}
    (h : isTagOf names name attributes = true) : ∀ a ∈ attributes, Operand.IsCode a :=
  fun a ha => Operand.isCode_of_isPlain (List.all_eq_true.1 (isTagOf_attributes h) a ha)

theorem areSlotsOf_count {name : Text} {attributes : List (Text × Operand)}
    {slots : List (Text × List Markup)} (h : areSlotsOf name attributes slots = true) :
    entryCount attributes slots ≤ 1000 := by
  simp only [areSlotsOf, Bool.and_eq_true, decide_eq_true_eq] at h
  exact h.2

theorem entryCount_map {α β : Type} (attributes : List (Text × Operand)) (slots : List α)
    (f : α → β) : entryCount attributes (slots.map f) = entryCount attributes slots := by
  simp [entryCount]

/-- The fragments of plain markup are read. -/
theorem Translates.isRead {m : Markup} {fragments : List Fragment}
    (h : Translates names units m fragments) : ∀ f ∈ fragments, f.IsRead := by
  induction h with
  | nil => simp
  | text hs hline _ ih =>
    exact List.forall_mem_cons.2 ⟨⟨Marker.brace_notMem_text hs, hline⟩, ih⟩
  | print hx _ ih => exact List.forall_mem_cons.2 ⟨⟨_, rfl, code_variable hx 147⟩, ih⟩
  | place _ _ ih => exact List.forall_mem_cons.2 ⟨⟨_, rfl, Code.placeholder 1 146 _⟩, ih⟩
  | single htag hslots _ ih =>
    exact List.forall_mem_cons.2
      ⟨Fragment.isRead_tag (isTagOf_isCode htag) (areSlotsOf_count hslots), ih⟩
  | paired htag hslots hcontents _ _ _ _ ih =>
    refine List.forall_mem_cons.2 ⟨Fragment.isRead_tag (isTagOf_isCode htag) ?_, ih⟩
    have hcount := areSlotsOf_count hslots
    rwa [hcontents, entryCount_map, ← entryCount_map _ _ HeldSlot.entry] at hcount

/-! ## Templates of fragments -/

namespace Fragment

/-- Fragments as parts of a template, behind a text. -/
theorem exists_parts {fragments : List Fragment} (h : ∀ f ∈ fragments, f.IsRead) :
    ∀ pending : Text, '{' ∉ pending → '\n' ∉ pending →
      ∃ (parts : List Part) (last : Text), (∀ p ∈ parts, p.IsRead) ∧ '{' ∉ last ∧ '\n' ∉ last ∧
        pending ++ sources fragments = parts.flatMap Part.source ++ last ∧
        statements pending fragments = parts.flatMap Part.statements ++ dataStmts last := by
  induction fragments with
  | nil =>
    intro pending hbrace hline
    exact ⟨[], pending, by simp, hbrace, hline, by simp [sources], by simp [statements]⟩
  | cons f more ih =>
    intro pending hbrace hline
    rw [List.forall_mem_cons] at h
    have hf := h.1
    rw [IsRead] at hf
    rw [statements]
    cases hvalue : f.value? with
    | none =>
      -- Text joins the text before it.
      rw [hvalue] at hf
      obtain ⟨parts, last, hparts, hlast, hlastLine, hsource, hbody⟩ := ih h.2 (pending ++ f.source)
        (by simp [hbrace, hf.1]) (by simp [hline, hf.2])
      refine ⟨parts, last, hparts, hlast, hlastLine, ?_, hbody⟩
      rw [← hsource, sources, List.flatMap_cons, ← sources, List.append_assoc]
    | some e =>
      rw [hvalue] at hf
      obtain ⟨w, hw, hcode⟩ := hf
      obtain ⟨parts, last, hparts, hlast, hlastLine, hsource, hbody⟩ := ih h.2 [] (by simp) (by simp)
      refine ⟨⟨pending, w, e⟩ :: parts, last, ?_, hlast, hlastLine, ?_, ?_⟩
      · exact List.forall_mem_cons.2 ⟨⟨hbrace, hline, hcode⟩, hparts⟩
      · rw [List.nil_append] at hsource
        rw [sources, List.flatMap_cons, ← sources, hsource, hw, List.flatMap_cons, Part.source,
          List.append_assoc, List.append_assoc]
      · rw [hbody, List.flatMap_cons, Part.statements, List.append_assoc, List.append_assoc]
        rfl

/-- Fragments as parts of a template that does not end in a line break, if it does not end
in a carriage return. -/
theorem exists_ended_parts {fragments : List Fragment} (h : ∀ f ∈ fragments, f.IsRead)
    (hend : (sources fragments).getLast? ≠ some '\r') :
    ∃ (parts : List Part) (last : Text), (∀ p ∈ parts, p.IsRead) ∧ '{' ∉ last ∧
      (∀ c ∈ last.getLast?, c ≠ '\n' ∧ c ≠ '\r') ∧
      sources fragments = parts.flatMap Part.source ++ last ∧
      statements [] fragments = parts.flatMap Part.statements ++ dataStmts last := by
  obtain ⟨parts, last, hparts, hlast, hline, hsource, hbody⟩ := exists_parts h [] (by simp) (by simp)
  rw [List.nil_append] at hsource
  refine ⟨parts, last, hparts, hlast, fun c hc => ⟨?_, ?_⟩, hsource, hbody⟩
  · rintro rfl
    exact hline (List.mem_of_getLast? hc)
  · rintro rfl
    rw [hsource, List.getLast?_append, Option.mem_def.1 hc] at hend
    exact hend rfl

theorem getLast?_sources {fragments : List Fragment} (h : ∀ f ∈ fragments, f.IsRead)
    (hend : (sources fragments).getLast? ≠ some '\r') :
    ∀ c ∈ (sources fragments).getLast?, c ≠ '\n' ∧ c ≠ '\r' := by
  obtain ⟨parts, last, -, -, hlast, hsource, -⟩ := exists_ended_parts h hend
  rw [hsource]
  exact getLast?_parts hlast

/-- **A template of fragments parses to their statements**, if it does not end in a
carriage return. -/
theorem parse_sources {fragments : List Fragment} (h : ∀ f ∈ fragments, f.IsRead)
    (hend : (sources fragments).getLast? ≠ some '\r') :
    parse (sources fragments) = .ok (statements [] fragments) := by
  obtain ⟨parts, last, hparts, hlast, hends, hsource, hbody⟩ := exists_ended_parts h hend
  rw [hsource, hbody]
  exact parse_parts hparts hlast hends

/-- A template that is the invocation of a tag, if it has not too many props. -/
theorem parse_tag (name : Text) {attributes : List (Text × Operand)} {slots : List (Text × Text)}
    (h : ∀ a ∈ attributes, Operand.IsCode a) (hcount : entryCount attributes slots ≤ 1000) :
    parse (tag name attributes slots).source = .ok (statements [] [tag name attributes slots]) := by
  have hread : ∀ f ∈ [tag name attributes slots], f.IsRead := by
    simpa using isRead_tag h hcount
  have hsource : sources [tag name attributes slots] = (tag name attributes slots).source :=
    List.flatMap_singleton ..
  rw [← hsource]
  refine parse_sources hread ?_
  rw [hsource, source, invocation, getLast?_expressionBlock]
  decide

end Fragment

/-! ## Ends of translations -/

/-- Texts of which the second ends in a carriage return only if the first does. -/
def EndsLike (s t : Text) : Prop :=
  (t = [] ↔ s = []) ∧ (t.getLast? = some '\r' → s.getLast? = some '\r')

theorem EndsLike.refl (s : Text) : EndsLike s s := ⟨Iff.rfl, id⟩

theorem EndsLike.append {s s' t t' : Text} (h : EndsLike s t) (h' : EndsLike s' t') :
    EndsLike (s ++ s') (t ++ t') := by
  refine ⟨by simp [h.1, h'.1], ?_⟩
  rw [List.getLast?_append, List.getLast?_append]
  cases ht : t'.getLast? with
  | none =>
    have hs : s' = [] := h'.1.1 (List.getLast?_eq_none_iff.1 ht)
    rw [hs]
    exact h.2
  | some c =>
    intro hc
    rw [h'.2 (ht.trans hc)]
    rfl

theorem EndsLike.of_last {s t : Text} {c d : Char} (hs : s.getLast? = some c)
    (ht : t.getLast? = some d) (hd : d ≠ '\r') : EndsLike s t := by
  refine ⟨⟨?_, ?_⟩, ?_⟩
  · rintro rfl
    cases ht
  · rintro rfl
    cases hs
  · intro hr
    exact absurd (Option.some.inj (ht.symm.trans hr)) hd

theorem getLast?_statementBlock (w : Text) : (statementBlock w).getLast? = some '}' := by
  have hform : statementBlock w = ('{' :: '%' :: ' ' :: (w ++ [' ', '%'])) ++ ['}'] := by
    simp [statementBlock]
  rw [hform, List.getLast?_concat]

theorem Translates.endsLike {m : Markup} {fragments : List Fragment}
    (h : Translates names units m fragments) :
    EndsLike (m.source .author) (Fragment.sources fragments) := by
  induction h with
  | nil => exact .refl []
  | text _ _ _ ih => exact (EndsLike.refl _).append ih
  | print _ _ ih => exact (EndsLike.refl _).append ih
  | @place name rest fragments _ _ ih =>
    have hmarker : (slotMarker name).getLast? = some '}' := by
      cases name <;> exact getLast?_statementBlock _
    exact (EndsLike.of_last hmarker (getLast?_expressionBlock _) (by decide)).append ih
  | single _ _ _ ih =>
    have htag : ∀ name attributes, (singleTag name attributes).getLast? = some '>' := by
      intro name attributes
      rw [singleTag, List.getLast?_append]
      rfl
    exact (EndsLike.of_last (htag _ _) (getLast?_expressionBlock _) (by decide)).append ih
  | @paired name attributes contents rest fragments slots _ _ _ _ _ _ _ ih =>
    have htag : (openingTag name attributes ++ contents.source .author ++ closingTag name).getLast? =
        some '>' := by
      rw [List.getLast?_append, closingTag, List.getLast?_append]
      rfl
    exact (EndsLike.of_last htag (getLast?_expressionBlock _) (by decide)).append ih

section Parts

variable {parts : List (Markup × List Fragment)}
  (h : ∀ part ∈ parts, Translates names units part.1 part.2)

include h

/-- The fragments of several parts are read. -/
theorem isRead_translated : ∀ f ∈ parts.flatMap Prod.snd, f.IsRead := by
  intro f hf
  obtain ⟨part, hpart, hf⟩ := List.mem_flatMap.1 hf
  exact (h part hpart).isRead f hf

/-- The fragments of parts that end well do not end in a carriage return. -/
theorem getLast?_translated (hend : endsWell (parts.map Prod.fst) = true) :
    (Fragment.sources (parts.flatMap Prod.snd)).getLast? ≠ some '\r' := by
  have hends : EndsLike ((parts.map Prod.fst).flatMap (Markup.source .author))
      (Fragment.sources (parts.flatMap Prod.snd)) := by
    clear hend
    induction parts with
    | nil => exact .refl []
    | cons part parts ih =>
      rw [List.forall_mem_cons] at h
      rw [List.map_cons, List.flatMap_cons, List.flatMap_cons, Fragment.sources,
        List.flatMap_append]
      exact h.1.endsLike.append (ih h.2)
  intro hr
  simp only [endsWell, bne_iff_ne] at hend
  exact hend (hends.2 hr)

/-- **The fragments of plain markup parse to their statements**, also those of several
parts in a row. -/
theorem parse_translated (hend : endsWell (parts.map Prod.fst) = true) :
    parse (Fragment.sources (parts.flatMap Prod.snd)) =
      .ok (Fragment.statements [] (parts.flatMap Prod.snd)) :=
  Fragment.parse_sources (isRead_translated h) (getLast?_translated h hend)

end Parts

end Componentry
