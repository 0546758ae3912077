import Componentry.Proofs.Irrelevance.Evaluation
import Componentry.Proofs.Provenance.Invocation

/-! # Data that nothing looks at does not matter

If no definition of a project looks at a key, rendering gives the same result and the
same events whatever the data have under this key, or if they have nothing there
(`Compiled.render_ignores`).  Invocations are followed by induction on the levels that
are left (`Namespace.isBlind_invoke`): the data of a page reach a component only as its
caller's, and from there the slots that the page has given to it.

What a definition must not do for this is shown by pages where the key does matter
(`Compiled.render_shows_key`).
-/
namespace Componentry

open Template

variable {k : Text} {p : Text → Bool} {passed : Bool}

/-- All sources that pass the test are templates that do not look at a key; they may pass on
the caller's data. -/
def BlindSources (k : Text) (p : Text → Bool) : Prop :=
  ∀ source, p source = true → ∀ body, Template.parse source = .ok body →
    Stmt.areBlind k p true body = true

/-- Invocations go alike with props that are alike up to a key. -/
def Template.Invoker.IsBlind (k : Text) (p : Text → Bool) (i : Invoker) : Prop :=
  ∀ name v w, Value.Like k (.blind k p) false v w →
    Couple (.blind k p false) (Same fun _ => True) (i name v) (i name w)

/-- Whether the caller's data are passed on plays no part in how two runs are compared. -/
theorem Template.couple_blind_iff {α β : Type} {R : α → β → Prop} {x : Run α} {y : Run β} :
    Couple (.blind k p passed) R x y ↔ Couple (.blind k p false) R x y :=
  ⟨.transfer rfl (Setting.policy_blind k p passed),
    .transfer rfl (Setting.policy_blind k p passed).symm⟩

namespace Namespace

variable {ns : Namespace} {i : Invoker} {v w : Value}

theorem alike_of_like (library : Library) (hi : i.IsBlind k p)
    (hvw : Value.Like k (.blind k p) passed v w) (levels : Nat) :
    (Host.of library i v.scope levels).Alike k p passed (Host.of library i w.scope levels) := by
  refine ⟨fun x hx => ?_, ?_, fun hpassed => ?_, fun name v w hvw => ?_⟩
  · rw [Host.of_data, Host.of_data]
    simp only [isVisible, Bool.and_eq_true, bne_iff_ne] at hx
    exact hvw.member?_scope hx.1.1 hx.1.2 hx.2
  · rw [Host.of_data, Host.of_data, Value.member?_scope_context, Value.member?_scope_context]
    exact .some hvw.unpassed
  · subst hpassed
    rw [Host.of_data, Host.of_data]
    exact hvw.caller_scope
  · rw [Host.of_invoker, Host.of_invoker]
    exact couple_blind_iff.2 (hi name v w hvw).contained

theorem fits_of_like (hns : ns.Passes (.blind k p passed)) (hi : i.IsBlind k p)
    (hvw : Value.Like k (.blind k p) passed v w) (levels : Nat) :
    (Host.of ns.library i v.scope levels).Fits (.blind k p passed)
      (Host.of ns.library i w.scope levels) := by
  have halike := alike_of_like ns.library hi hvw levels
  refine ⟨by simp, fun name body hbody => ?_, fun name props hprops => ?_, fun x hx => ?_,
    fun hdebug => by cases hdebug⟩
  · rw [Host.of_library] at hbody
    exact All.library hns hbody
  · exact halike.invoke name props props (.same hprops)
  · have hvisible : isVisible k x = true := by
      rcases hx with hx | hx
      · exact (Bool.and_eq_true_iff.1 hx).1
      · exact (Bool.and_eq_true_iff.1 (Bool.and_eq_true_iff.1 hx).1).1
    have hrel := halike.visible x hvisible
    exact ⟨Value.eq_of_optionRel hrel, fun u hu => Value.of_optionRel hrel hu⟩

/-- **Templates that are blind render the same with data that are alike.** -/
theorem couple_render_of_like (hns : ns.Passes (.blind k p passed)) (hi : i.IsBlind k p)
    (name : Text) (hvw : Value.Like k (.blind k p) passed v w) :
    Couple (.blind k p passed) (Same fun _ => True) (ns.render i name v) (ns.render i name w) := by
  unfold Namespace.render
  cases hfind : ns.find? name with
  | none => exact .fail
  | some t =>
    exact Template.couple_render (fits_of_like hns hi hvw)
      (fun levels => (alike_of_like ns.library hi hvw levels).special) name
      (hns t (List.mem_of_find?_eq_some hfind))

/-- **Invocations run props in the same way that are alike**, however deep they nest. -/
theorem isBlind_invoke (hns : ns.Passes (.blind k p false)) (hp : BlindSources k p)
    (levels : Nat) : ((Base.finished ns).invoke levels).IsBlind k p := by
  induction levels with
  | zero => exact fun _ _ _ _ => .fail
  | succ levels ih =>
    intro name v w hvw
    show Couple _ _ (ns.partialRun _ name v) (ns.partialRun _ name w)
    rw [partialRun, partialRun, ← hvw.allSlotSources_eq]
    rcases hvw.passed_or_nil with hpassed | hnone
    · -- Both sides install the same slots, whose templates may pass the caller's data on.
      have hbodies : ns.Passes (.blind k p true) := fun t ht => Stmt.areBlind_of_false (hns t ht)
      have hinstalled := All.couple_install (S := .blind k p true) (fun _ _ => rfl)
        v.allSlotSources hbodies fun s hs => hp s.2 (hvw.allSlotSources s hs)
      exact couple_blind_iff.1 (hinstalled.bindSame fun installed hall =>
        couple_render_of_like hall ih name hpassed)
    · -- Data are not passed on, and nothing is installed for them.
      rw [hnone]
      exact couple_render_of_like hns ih name hvw

end Namespace

namespace Compiled

/-- Whether a definition does not look at what data has under a key. -/
def isBlind (k : Text) (p : Text → Bool) (d : Definition) : Bool :=
  match Template.parse d.body with
  | .ok body => Stmt.areBlind k p false body
  | .error _ => true

theorem like_ofJson (k : Text) (q : Policy) (fields : List (Text × Json)) (v : Json) :
    Value.Like k q false (.ofJson (.object (fields ++ [(k, v)]))) (.ofJson (.object fields)) := by
  have hjson : ∀ fields : List (Text × Json),
      ∀ e ∈ fields.map fun f => (f.1, Value.ofJson f.2), e.2.Plain := by
    intro fields e he
    obtain ⟨f, -, rfl⟩ := List.mem_map.1 he
    exact Value.plain_ofJson f.2
  rw [Value.ofJson_object, Value.ofJson_object]
  refine .data (hjson _) (hjson _) fun x hx => ?_
  rw [List.map_append, Value.last?_append]
  simp [Value.last?, Value.first?, Ne.symm hx]

/-- **Data that no definition looks at do not matter.**  Let slot sources be made only of
texts of a set whose templates do not look at a key, and let no definition of a project
look at it.  Then the project compiles, and rendering a definition with the data of an
object gives the same, as text or failure and in its events, when the key is set to
anything. -/
theorem render_ignores (r : Registry) (units : List SourceUnit) (k : Text) (p : Text → Bool)
    (hp : BlindSources k p) (h : ∀ d ∈ definitions r units, isBlind k p d = true) :
    ∃ c, ofRegistry r units = .ok c ∧ ∀ (name : Text) (fields : List (Text × Json)) (v : Json),
      c.render name (.ofJson (.object (fields ++ [(k, v)]))) =
        c.render name (.ofJson (.object fields)) := by
  obtain ⟨c, hc⟩ := ofRegistry_ok r units
  have hns : c.globals.Passes (.blind k p false) := by
    refine all_ofRegistry hc fun d hd body hbody => ?_
    have hblind := h d hd
    rwa [isBlind, hbody] at hblind
  refine ⟨c, hc, ?_⟩
  intro name fields v
  have hrender : (c.base.render c.globals name (.ofJson (.object (fields ++ [(k, v)])))).result =
      (c.base.render c.globals name (.ofJson (.object fields))).result := by
    rw [base_of_ofRegistry hc]
    exact (Namespace.couple_render_of_like hns (Namespace.isBlind_invoke hns hp invocationLimit)
      name (like_ofJson k _ fields v)).result_eq trivial fun _ _ h => h
  simp only [render, execute, hrender]

/-- The sources that are generated for slots look at nothing but the caller's data. -/
theorem blindSources_isGenerated (r : Registry) (units : List SourceUnit) (hk : k ≠ invokeName) :
    BlindSources k (isGenerated r units) := by
  intro source hsource body hbody
  obtain ⟨unit, hparse⟩ := parse_of_isGenerated hsource
  rw [hparse] at hbody
  cases hbody
  have hvisible : isVisible k invokeName = true := by
    simp only [isVisible, Bool.and_eq_true, bne_iff_ne]
    exact ⟨⟨Ne.symm hk, by decide⟩, by decide⟩
  have hdebug : invokeName ≠ Function.debug.name := by decide
  have hcall : (invokeExpr unit callerVar 1).isBlind k (isGenerated r units) true = true := by
    simp [invokeExpr, Expr.isBlind, Expr.isInvocation, Expr.isVar, hvisible, hdebug]
  simp only [Stmt.areBlind, Stmt.allOf, Stmt.all, Bool.and_true]
  exact hcall

/-- A component that places its slot, and a page that gives a greeting to it. -/
def greeting : List SourceUnit :=
  SourceUnit.ofSources [("Box.html".toList, "[\x7b% slot %\x7d]".toList),
    ("page.html".toList, "<Box size=\"1\">Hello \x7b\x7b name \x7d\x7d</Box>".toList)]

set_option maxRecDepth 100000 in
theorem render_greeting_ignores :
    BlindSources ['k'] (isGenerated (.ofUnits greeting) greeting) ∧
    (∀ d ∈ definitions (.ofUnits greeting) greeting,
      isBlind ['k'] (isGenerated (.ofUnits greeting) greeting) d = true) ∧
    ∃ c, ofRegistry (.ofUnits greeting) greeting = .ok c ∧
      ∀ (name : Text) (fields : List (Text × Json)) (v : Json),
        c.render name (.ofJson (.object (fields ++ [(['k'], v)]))) =
          c.render name (.ofJson (.object fields)) := by
  have hp : BlindSources ['k'] (isGenerated (.ofUnits greeting) greeting) :=
    blindSources_isGenerated _ _ (by decide)
  have h : ∀ d ∈ definitions (.ofUnits greeting) greeting,
      isBlind ['k'] (isGenerated (.ofUnits greeting) greeting) d = true := by decide +kernel
  exact ⟨hp, h, render_ignores _ _ _ _ hp h⟩

/-! ## Pages where a key matters -/

/-- The results of rendering a page, whose project has one component besides, with no data
and with a number under a key. -/
def renderTwice (component : Path × String) (page : String) (k : Text) :
    Option (Option Text × Option Text) :=
  let units := SourceUnit.ofSources [(component.1, component.2.toList),
    ("page.html".toList, page.toList)]
  (ofUnits units).toOption.map fun c =>
    ((c.render "page".toList (.ofJson (.object []))).1.toOption,
      (c.render "page".toList (.ofJson (.object [(k, .int 1)]))).1.toOption)

set_option maxRecDepth 100000 in
/-- **A key that no source mentions can matter**: if a component prints its caller's data;
if the key is the name of the function that runs components; if its name is left where slots
are taken out; if a slot source that is computed prints the caller's data; and if a
component is given a function that takes the place of the one that runs slots. -/
theorem render_shows_key :
    renderTwice ("A.html".toList, "\x7b\x7b __caller \x7d\x7d") "<A>x</A>" ['k'] =
      some (some "\x7b\x7d".toList, some "\x7b&quot;k&quot;: 1\x7d".toList) ∧
    renderTwice ("A.html".toList, "a") "<A/>" invokeName = some (some ['a'], none) ∧
    renderTwice ("Box.html".toList, "\x7b% slot %\x7d")
        ("<Box>\x7b<slot name=\"a\"></slot>\x7b se<slot name=\"a\"></slot>cret \x7d\x7d</Box>")
        "secret".toList = some (some [], some ['1']) ∧
    renderTwice ("Box.html".toList, "\x7b% slot %\x7d")
        ("<Box Slot=\x7bdeferred(\"\x7b\x7b __call\" ~ \"er \x7d\x7d\")\x7d>" ++
          "<slot name=\"x\">y</slot></Box>") ['k'] =
      some (some "\x7b\x7d".toList, some "\x7b&quot;k&quot;: 1\x7d".toList) ∧
    (renderTwice ("Box.html".toList, "\x7b% slot %\x7d") "<Box invoke=\x7bdict\x7d>x</Box>"
        ['k']).map (fun results => results.1 == results.2) = some false := by
  decide +kernel

end Compiled

end Componentry
