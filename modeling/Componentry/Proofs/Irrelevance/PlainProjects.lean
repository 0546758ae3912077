import Componentry.Proofs.Irrelevance.Rendering
import Componentry.Proofs.Provenance.PlainProjects

/-! # Data that plain projects do not mention

In a project of plain trees a definition looks only at the keys that its tree mentions: those
that it prints, those that it gives to a component, and the labels of the slots that it places.
What no tree mentions, no definition looks at (`Compiled.isBlind_of_isProject`).
-/
namespace Componentry

open Template

/-- Whether the value of an attribute is not that of a variable. -/
def Operand.avoids (k : Text) : Operand → Bool
  | .text _ => true
  | .var x => x != k

mutual

/-- Whether markup has no variable of a name, and places no slot under it. -/
def Markup.avoids (k : Text) : Markup → Bool
  | .nil => true
  | .text _ rest => rest.avoids k
  | .print x rest => x != k && rest.avoids k
  | .place name rest => markerLabel name != k && rest.avoids k
  | .single _ attributes rest => (attributes.all fun a => a.2.avoids k) && rest.avoids k
  | .paired _ attributes contents rest =>
    (attributes.all fun a => a.2.avoids k) && contents.avoids k && rest.avoids k

/-- Whether contents have no variable of a name, and place no slot under it. -/
def Contents.avoids (k : Text) : Contents → Bool
  | .last m => m.avoids k
  | .slot before _ body rest => before.avoids k && body.avoids k && rest.avoids k

end

/-- Whether a fragment has no variable of a name, and places no slot under it. -/
def Fragment.avoids (k : Text) : Fragment → Bool
  | .text _ => true
  | .print x => x != k
  | .place name => markerLabel name != k
  | .tag _ attributes _ => attributes.all fun a => a.2.avoids k

variable {k : Text}

/-! ## Translating -/

mutual

/-- The fragments of markup mention what the markup does. -/
theorem Markup.avoids_translate (owner : Text) (count : Nat) :
    ∀ m : Markup, m.avoids k = true →
      (∀ f ∈ (m.translate owner count).1, f.avoids k = true) ∧
        ∀ u ∈ (m.translate owner count).2, ∀ f ∈ u.2, f.avoids k = true
  | .nil, _ => by simp [Markup.translate]
  | .text s rest, h => by
    obtain ⟨h₁, h₂⟩ := rest.avoids_translate owner count h
    exact ⟨List.forall_mem_cons.2 ⟨rfl, h₁⟩, h₂⟩
  | .print x rest, h => by
    simp only [Markup.avoids, Bool.and_eq_true] at h
    obtain ⟨h₁, h₂⟩ := rest.avoids_translate owner count h.2
    exact ⟨List.forall_mem_cons.2 ⟨h.1, h₁⟩, h₂⟩
  | .place name rest, h => by
    simp only [Markup.avoids, Bool.and_eq_true] at h
    obtain ⟨h₁, h₂⟩ := rest.avoids_translate owner count h.2
    exact ⟨List.forall_mem_cons.2 ⟨h.1, h₁⟩, h₂⟩
  | .single name attributes rest, h => by
    simp only [Markup.avoids, Bool.and_eq_true] at h
    obtain ⟨h₁, h₂⟩ := rest.avoids_translate owner count h.2
    exact ⟨List.forall_mem_cons.2 ⟨h.1, h₁⟩, h₂⟩
  | .paired name attributes contents rest, h => by
    simp only [Markup.avoids, Bool.and_eq_true] at h
    obtain ⟨⟨hattributes, hcontents⟩, hrest⟩ := h
    obtain ⟨hpieces, hinner⟩ := contents.avoids_translate owner count hcontents
    refine ⟨?_, ?_⟩
    · exact List.forall_mem_cons.2 ⟨hattributes, (rest.avoids_translate owner _ hrest).1⟩
    · intro u hu f hf
      rcases List.mem_append.1 hu with hu | hu
      · rcases List.mem_append.1 hu with hu | hu
        · exact hinner u hu f hf
        · -- A definition that is made here holds pieces of the contents.
          obtain ⟨⟨label, unit, parts⟩, hslot, rfl⟩ := List.mem_map.1 hu
          obtain ⟨fragments, hfragments, hf⟩ := List.mem_flatten.1 hf
          obtain ⟨l, hl⟩ := Slots.mem_gather (Slots.mem_number hslot) hfragments
          exact hpieces _ hl f hf
      · exact (rest.avoids_translate owner _ hrest).2 u hu f hf

theorem Contents.avoids_translate (owner : Text) (count : Nat) :
    ∀ cs : Contents, cs.avoids k = true →
      (∀ p ∈ (cs.translate owner count).1, ∀ f ∈ p.2, f.avoids k = true) ∧
        ∀ u ∈ (cs.translate owner count).2, ∀ f ∈ u.2, f.avoids k = true
  | .last m, h => by
    obtain ⟨h₁, h₂⟩ := m.avoids_translate owner count h
    exact ⟨List.forall_mem_singleton.2 h₁, h₂⟩
  | .slot before name body rest, h => by
    simp only [Contents.avoids, Bool.and_eq_true] at h
    obtain ⟨⟨hbefore, hbody⟩, hrest⟩ := h
    obtain ⟨hloose, hunits⟩ := before.avoids_translate owner count hbefore
    obtain ⟨hheld, hunits'⟩ := body.avoids_translate owner
      (count + (before.translate owner count).2.length) hbody
    obtain ⟨hmore, hunits''⟩ := rest.avoids_translate owner
      (count + (before.translate owner count).2.length +
        (body.translate owner (count + (before.translate owner count).2.length)).2.length) hrest
    refine ⟨List.forall_mem_cons.2 ⟨hloose, List.forall_mem_cons.2 ⟨hheld, hmore⟩⟩, ?_⟩
    exact List.forall_mem_append.2 ⟨List.forall_mem_append.2 ⟨hunits, hunits'⟩, hunits''⟩

end

/-! ## Statements -/

namespace Fragment

variable {p : Text → Bool}

/-- A fragment is text, or its expression does not look at a key. -/
def IsBlind (k : Text) (p : Text → Bool) (f : Fragment) : Prop :=
  f.value?.all (Expr.isBlind k p false) = true

/-- The statements of fragments that do not look at a key do not look at it. -/
theorem areBlind_statements {fragments : List Fragment} (h : ∀ f ∈ fragments, f.IsBlind k p)
    (pending : Text) : Stmt.areBlind k p false (statements pending fragments) = true := by
  have hdata : ∀ text, Stmt.areBlind k p false (dataStmts text) = true := by
    intro text
    unfold dataStmts
    split <;> rfl
  induction fragments generalizing pending with
  | nil => exact hdata pending
  | cons f more ih =>
    rw [List.forall_mem_cons] at h
    have hfirst := h.1
    rw [statements]
    cases hvalue : f.value? with
    | none => exact ih h.2 _
    | some e =>
      rw [IsBlind, hvalue] at hfirst
      have hmore := ih h.2 []
      simp only [Stmt.areBlind] at hdata hmore ⊢
      simp only [Stmt.allOf_append, Stmt.allOf, Stmt.all, hdata, hmore, Bool.true_and,
        Bool.and_true]
      exact hfirst

/-- Entries whose values do not look at a key, but for the caller's data, are made in place. -/
theorem entriesMade_entries {entries : List (Text × Expr)}
    (h : ∀ e ∈ entries, e.2.isBlind k p false = true ∨
      e = (callerVar, .var Attribute.contextVar 1)) :
    Expr.entriesMade k p false (entries.flatMap fun e =>
      [(.positional, .const (.string e.1) 1), (.positional, e.2)]) = true := by
  induction entries with
  | nil => rfl
  | cons e entries ih =>
    rw [List.forall_mem_cons] at h
    simp only [List.flatMap_cons, List.cons_append, List.nil_append, Expr.entriesMade, ih h.2,
      Expr.isBlind, Bool.true_and, Bool.and_true]
    rcases h.1 with hblind | rfl
    · rw [hblind, Bool.true_or]
    · simp [Expr.isText, Expr.isVar]

theorem isBlind_variable {x : Text} (h : isVariable x = true) (hx : x ≠ k) :
    (Expr.var x 1).isBlind k p false = true := by
  have hcontext : x ≠ Attribute.contextVar := by
    rintro rfl
    exact absurd h (by decide)
  have hcaller : x ≠ callerVar := by
    rintro rfl
    exact absurd h (by decide)
  simp only [isVariable, Bool.and_eq_true] at h
  simp [Expr.isBlind, isVisible, hx, hcontext, hcaller, h.2]

section

variable (hk : Function.named? k = none)

include hk

/-- The functions that generated sources call are visible. -/
theorem isVisible_function (name : Text) (hname : (Function.named? name).isSome = true)
    (hcontext : name ≠ Attribute.contextVar) (hcaller : name ≠ callerVar) :
    isVisible k name = true := by
  have hne : name ≠ k := by
    rintro rfl
    rw [hk] at hname
    cases hname
  simp [isVisible, hne, hcontext, hcaller]

theorem isBlind_deferred {source : Text} (hsource : p source = true) :
    (deferredExpr source 1).isBlind k p false = true := by
  have hvisible := isVisible_function hk deferredName (by decide) (by decide) (by decide)
  have hdebug : deferredName ≠ Function.debug.name := by decide
  simp [deferredExpr, Expr.isBlind, Expr.argumentsBlind, isSourceArgument, hvisible, hsource,
    hdebug]

theorem isBlind_place {name : Option Text} (hname : markerLabel name ≠ k) :
    (place name).IsBlind k p := by
  have hvisible := isVisible_function hk invokeName (by decide) (by decide) (by decide)
  have hdebug : invokeName ≠ Function.debug.name := by decide
  have hgiven : (isGivenExpr (markerLabel name) 1).isBlind k p false = true := by
    have htest : Test.named? ['d', 'e', 'f', 'i', 'n', 'e', 'd'] = some .defined := by decide
    simp [isGivenExpr, Expr.isBlind, Expr.isGivenTest, htest, hname]
  have hinvoke :
      (invokeExpr (markerLabel name) Attribute.contextVar 1).isBlind k p false = true := by
    simp [invokeExpr, Expr.isBlind, Expr.isInvocation, Expr.isVar, hvisible, hdebug]
  simp [IsBlind, value?, Expr.isBlind, Expr.optionBlind, hgiven, hinvoke]

theorem isBlind_tag (name : Text) {attributes : List (Text × Operand)}
    (hattributes : attributes.all Operand.isPlain = true)
    (havoids : (attributes.all fun a => a.2.avoids k) = true) {slots : List (Text × Text)}
    (hslots : ∀ s ∈ slots, p (deferredInvocation s.2) = true) :
    (tag name attributes slots).IsBlind k p := by
  have hentries : ∀ e ∈ entryExprs attributes slots, e.2.isBlind k p false = true ∨
      e = (callerVar, .var Attribute.contextVar 1) := by
    refine List.forall_mem_append.2 ⟨List.forall_mem_map.2 fun a ha => Or.inl ?_, ?_⟩
    · have hplain := List.all_eq_true.1 hattributes a ha
      have hvalue := List.all_eq_true.1 havoids a ha
      obtain ⟨key, value⟩ := a
      cases value with
      | text v => rfl
      | var x =>
        simp only [Operand.isPlain, Bool.and_eq_true] at hplain
        exact isBlind_variable hplain.2 (bne_iff_ne.1 hvalue)
    · unfold slotExprs
      split
      · simp
      · refine List.forall_mem_append.2 ⟨List.forall_mem_map.2 fun s hs => Or.inl ?_, ?_⟩
        · exact isBlind_deferred hk (hslots s hs)
        · exact List.forall_mem_singleton.2 (Or.inr rfl)
  have hinvoke := isVisible_function hk invokeName (by decide) (by decide) (by decide)
  have hdict := isVisible_function hk Props.dictName (by decide) (by decide) (by decide)
  have hdebug : invokeName ≠ Function.debug.name := by decide
  have hprops : (dictExpr (entryExprs attributes slots) 1).isMade k p false = true := by
    simp [dictExpr, Expr.isMade, hdict, entriesMade_entries hentries]
  simp [IsBlind, value?, Expr.isBlind, Expr.isInvocation, hinvoke, hdebug, hprops]

end

end Fragment

/-- **The fragments of plain markup look only at what they mention**, if slot sources may be
made of the definitions of its slots. -/
theorem Translates.isBlind {names : List Text} {definitions : List (Text × List Fragment)}
    {p : Text → Bool} {m : Markup} {fragments : List Fragment}
    (h : Translates names definitions m fragments) (hk : Function.named? k = none)
    (hp : ∀ u ∈ definitions, '_' ∈ u.1 → p (deferredInvocation u.1) = true)
    (havoids : ∀ f ∈ fragments, f.avoids k = true) : ∀ f ∈ fragments, f.IsBlind k p := by
  induction h with
  | nil => simp
  | text _ _ _ ih =>
    rw [List.forall_mem_cons] at havoids ⊢
    exact ⟨rfl, ih havoids.2⟩
  | print hx _ ih =>
    rw [List.forall_mem_cons] at havoids ⊢
    have hblind : (Expr.var _ 1).isBlind k p false = true :=
      Fragment.isBlind_variable hx (bne_iff_ne.1 havoids.1)
    exact ⟨hblind, ih havoids.2⟩
  | place _ _ ih =>
    rw [List.forall_mem_cons] at havoids ⊢
    exact ⟨Fragment.isBlind_place hk (bne_iff_ne.1 havoids.1), ih havoids.2⟩
  | single htag _ _ ih =>
    rw [List.forall_mem_cons] at havoids ⊢
    exact ⟨Fragment.isBlind_tag hk _ (isTagOf_attributes htag) havoids.1 (by simp), ih havoids.2⟩
  | paired htag _ _ hheld _ _ _ ih =>
    rw [List.forall_mem_cons] at havoids ⊢
    refine ⟨Fragment.isBlind_tag hk _ (isTagOf_attributes htag) havoids.1 ?_, ih havoids.2⟩
    intro s hs
    obtain ⟨slot, hslot, rfl⟩ := List.mem_map.1 hs
    exact hp slot.definition (hheld.definition slot hslot) (hheld.unit slot hslot)

/-! ## Projects -/

namespace Compiled

variable {bodies : List (Text × Markup)} {units : List SourceUnit}

/-- **In a project of plain trees no definition looks at a key that no tree mentions.** -/
theorem isBlind_of_isProject (h : isProject bodies = true)
    (hunits : units.map (fun u => (u.name, u.raw)) =
      bodies.map fun body => (body.1, body.2.source .author))
    (hk : Function.named? k = none) (havoids : ∀ body ∈ bodies, body.2.avoids k = true) :
    ∀ d ∈ Compiled.definitions (.ofUnits units) units,
      isBlind k (isGenerated (.ofUnits units) units) d = true := by
  rw [definitions_project h hunits]
  refine List.forall_mem_map.2 fun u hu => ?_
  have hunit : ∀ f ∈ u.2, f.avoids k = true := by
    obtain ⟨body, hbody, hmem⟩ := List.mem_flatMap.1 hu
    obtain ⟨hown, hslots⟩ := body.2.avoids_translate body.1 0 (havoids body hbody)
    rcases List.mem_append.1 hmem with hslot | hbodys
    · exact hslots u hslot
    · rw [List.mem_singleton.1 hbodys]
      exact hown
  have hblind : ∀ f ∈ u.2, f.IsBlind k (isGenerated (.ofUnits units) units) := by
    obtain ⟨parts, hparts, -, htranslates⟩ := isHeld_definition h hu
    intro f hf
    rw [hparts] at hf hunit
    obtain ⟨part, hpart, hf⟩ := List.mem_flatMap.1 hf
    refine (htranslates part hpart).isBlind hk ?_ ?_ f hf
    · exact fun u hu hname => isGenerated_of_isProject h hunits hu hname
    · exact fun g hg => hunit g (List.mem_flatMap.2 ⟨part, hpart, hg⟩)
  rw [isBlind, asDefinition, parse_definition h hu]
  exact Fragment.areBlind_statements hblind []

end Compiled

end Componentry
