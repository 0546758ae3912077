import Componentry.Proofs.Irrelevance.Code
import Componentry.Proofs.Irrelevance.Contexts

/-! # Generated sources and data that differ under one key

Two hosts are **alike** up to a key if their data agree under all other names, but for the
context and the caller's data, which are like each other, and if invocations go alike with
props that are (`Host.Alike`).

Between such hosts the ways in which generated sources use the context go alike: whether
something is given under another name than the key, and invocations, whose props are made
along with it (`Host.Alike.special`).
-/
namespace Componentry.Template

/-- What values may hold in blind code. -/
abbrev Policy.blind (k : Text) (p : Text → Bool) : Policy := (Setting.blind k p false).policy

/-- Hosts whose data are alike up to a key, and in which invocations go alike. -/
structure Host.Alike (k : Text) (p : Text → Bool) (passed : Bool) (h h' : Host) : Prop where
  visible : ∀ x, isVisible k x = true →
    Option.Rel (Same (Value.Trusted (.blind k p))) (h.data.member? x) (h'.data.member? x)
  context : Option.Rel (Value.Like k (.blind k p) false) (h.data.member? Attribute.contextVar)
    (h'.data.member? Attribute.contextVar)
  caller : passed = true → Option.Rel (Value.Like k (.blind k p) false)
    (h.data.member? callerVar) (h'.data.member? callerVar)
  invoke : ∀ name v w, Value.Like k (.blind k p) false v w →
    Couple (.blind k p passed) (Same (Value.Trusted (.blind k p)))
      (Function.contained name (h.invoker name v)) (Function.contained name (h'.invoker name w))

variable {k : Text} {p : Text → Bool} {passed : Bool} {h h' : Host} {s : Scope}

namespace Host.Alike

/-! ## Names -/

/-- A name that both data have alike, and no function has, stands for values that are alike. -/
theorem lookup_like (hs : s.Good (.blind k p passed)) {name : Text}
    (hrel : Option.Rel (Value.Like k (.blind k p) false) (h.data.member? name)
      (h'.data.member? name)) (hnone : Function.named? name = none) :
    Value.Like k (.blind k p) false (s.lookup h.data name) (s.lookup h'.data name) := by
  unfold Scope.lookup Scope.lookup? Scope.inData?
  rw [hnone]
  cases hsight : s.sight name with
  | value v => exact .same (hs.sight hsight).2
  | nothing => exact .same .undefined
  | data enclosed =>
    generalize h.data.member? name = a at hrel ⊢
    generalize h'.data.member? name = b at hrel ⊢
    cases hrel with
    | some hvw => exact hvw
    | none => cases enclosed <;> exact .same .undefined

theorem couple_var (hs : s.Good (.blind k p passed)) {name : Text}
    (hrel : Option.Rel (Value.Like k (.blind k p) false) (h.data.member? name)
      (h'.data.member? name)) (hnone : Function.named? name = none) (line : Nat) :
    Couple (.blind k p passed) (Value.Like k (.blind k p) false) ((Expr.var name line).eval h s)
      ((Expr.var name line).eval h' s) :=
  .refreshed (lookup_like hs hrel hnone) fun _ hcells => (lookup_like hs hrel hnone).update hcells

theorem couple_context (hh : h.Alike k p passed h') (hs : s.Good (.blind k p passed))
    (line : Nat) :
    Couple (.blind k p passed) (Value.Like k (.blind k p) false)
      ((Expr.var Attribute.contextVar line).eval h s)
      ((Expr.var Attribute.contextVar line).eval h' s) :=
  couple_var hs hh.context (by decide) line

theorem couple_caller (hh : h.Alike k p true h') (hs : s.Good (.blind k p true)) (line : Nat) :
    Couple (.blind k p true) (Value.Like k (.blind k p) false) ((Expr.var callerVar line).eval h s)
      ((Expr.var callerVar line).eval h' s) :=
  couple_var hs (hh.caller rfl) (by decide) line

/-! ## Calls -/

/-- Calling a function by a name that is never set goes alike if the function does; what else
may have the name cannot be called. -/
theorem couple_call (hh : h.Alike k p passed h') (hs : s.Good (.blind k p passed)) {f : Function}
    (hf : Function.named? f.name = some f) (hvisible : isVisible k f.name = true)
    (hset : (Tests.blind k p passed).name f.name = false)
    (hsuper : f.name ≠ ['s', 'u', 'p', 'e', 'r']) (hloop : f.name ≠ Keyword.kLoop.text)
    {args args' : Arguments} {R : Value → Value → Prop}
    (hcall : Couple (.blind k p passed) R (f.call h s args) (f.call h' s args')) :
    Couple (.blind k p passed) R (s.call h f.name args) (s.call h' f.name args') := by
  have hrel := hh.visible f.name hvisible
  have hsame : s.callee? h.data f.name = s.callee? h'.data f.name := by
    unfold Scope.callee? Scope.inData?
    rw [Value.eq_of_optionRel hrel]
  unfold Scope.call
  rw [if_neg hsuper, if_neg hloop, if_neg hsuper, if_neg hloop, ← hsame]
  cases hcallee : s.callee? h.data f.name with
  | none => exact .fail
  | some v =>
    rcases hs.callee? hcallee with hvar | ⟨w, hw, rfl⟩ | ⟨g, hg, rfl⟩ | rfl
    · exact absurd hvar.1 (by rw [Setting.blind, hset]; exact Bool.false_ne_true)
    · have htrusted := Value.of_optionRel hrel hw
      cases w with
      | function g => cases htrusted
      | record form entries => cases form <;> exact .fail
      | _ => exact .fail
    · rw [hf] at hg
      cases hg
      exact hcall
    · exact .fail

/-- An invocation goes alike with props that are alike. -/
theorem couple_invoke (hh : h.Alike k p passed h') {v w : Value}
    (hvw : Value.Like k (.blind k p) false v w) (name : Value) :
    Couple (.blind k p passed) (Same (Value.Trusted (.blind k p)))
      (Function.invoke.call h s (.ofValues [name, v]))
      (Function.invoke.call h' s (.ofValues [name, w])) := by
  have harguments : ∀ v, Function.invokeArguments (.ofValues [name, v]) =
      .ok (name.text, if v.isMissing then .undefined else v) := by
    intro v
    cases hv : v.isMissing <;>
      simp [Function.invokeArguments, Arguments.ofValues, Arguments.text, Arguments.value,
        Arguments.value?, Arguments.isNamedAt, Arguments.atMost, Arguments.optional, Option.filter,
        hv, Bind.bind, Except.bind, Pure.pure, Except.pure]
  have hprops : Value.Like k (.blind k p) false (if v.isMissing then .undefined else v)
      (if w.isMissing then .undefined else w) := by
    rw [← hvw.isMissing_eq]
    split
    · exact .same .undefined
    · exact hvw
  simp only [Function.call, harguments, Run.ofExcept, pure_bind]
  exact hh.invoke _ _ _ hprops

end Host.Alike

/-! ## Positional arguments -/

/-- Positional arguments whose values are related. -/
def Positional (R : List Value → List Value → Prop) (as bs : List (ArgumentKind × Value)) : Prop :=
  ∃ vs ws, R vs ws ∧ as = vs.map (ArgumentKind.positional, ·) ∧
    bs = ws.map (ArgumentKind.positional, ·)

namespace Expr

variable {S : Setting}

/-- A call with positional arguments goes alike if the values of its arguments do, and the
function with them. -/
theorem couple_callPositional {name : Text} {line : Nat} {arguments : List (ArgumentKind × Expr)}
    {R : List Value → List Value → Prop} {R' : Value → Value → Prop}
    (hpos : ∀ a ∈ arguments, a.1 = .positional)
    (hargs : Couple S (Positional R) (evalArguments h s false arguments)
      (evalArguments h' s false arguments))
    (hcall : ∀ vs ws, R vs ws →
      Couple S R' (s.call h name (.ofValues vs)) (s.call h' name (.ofValues ws))) :
    Couple S R' ((call (var name line) arguments).eval h s)
      ((call (var name line) arguments).eval h' s) := by
  simp only [eval_call_var, evalArguments_named hpos, pure_bind]
  refine hargs.bind ?_
  rintro _ _ ⟨vs, ws, hvs, rfl, rfl⟩
  simp only [withArguments, Arguments.collect_positional, Run.ofExcept, pure_bind]
  exact (hcall vs ws hvs).atLine

theorem couple_positional {R R' : List Value → List Value → Prop} {T : Value → Value → Prop}
    {e : Expr} {more : List (ArgumentKind × Expr)} (he : Couple S T (e.eval h s) (e.eval h' s))
    (hmore : Couple S (Positional R) (evalArguments h s false more) (evalArguments h' s false more))
    (hR : ∀ v w vs ws, T v w → R vs ws → R' (v :: vs) (w :: ws)) :
    Couple S (Positional R') (evalArguments h s false ((.positional, e) :: more))
      (evalArguments h' s false ((.positional, e) :: more)) := by
  refine he.bind fun v w hvw => hmore.bind ?_
  rintro _ _ ⟨vs, ws, hvs, rfl, rfl⟩
  exact .pure ⟨v :: vs, w :: ws, hR v w vs ws hvw hvs, rfl, rfl⟩

theorem couple_noArguments {R : List Value → List Value → Prop} (hR : R [] []) :
    Couple S (Positional R) (evalArguments h s false []) (evalArguments h' s false []) :=
  .pure ⟨[], [], hR, rfl, rfl⟩

theorem couple_entry {T U : Value → Value → Prop} {key value : Expr}
    {more : List (ArgumentKind × Expr)} {q : Policy}
    (hkey : Couple S T (key.eval h s) (key.eval h' s))
    (hvalue : Couple S U (value.eval h s) (value.eval h' s))
    (hmore : Couple S (Positional (Value.PairsAlike k q)) (evalArguments h s false more)
      (evalArguments h' s false more))
    (hpair : ∀ n n' v w, T n n' → U v w → n = n' ∧
      (Same (Value.Trusted q) v w ∨ n.keyText = callerVar ∧ Value.Like k q false v w)) :
    Couple S (Positional (Value.PairsAlike k q))
      (evalArguments h s false ((.positional, key) :: (.positional, value) :: more))
      (evalArguments h' s false ((.positional, key) :: (.positional, value) :: more)) := by
  have hrest : Couple S (Positional fun vs ws => ∃ v w vs' ws', U v w ∧
      Value.PairsAlike k q vs' ws' ∧ vs = v :: vs' ∧ ws = w :: ws')
      (evalArguments h s false ((.positional, value) :: more))
      (evalArguments h' s false ((.positional, value) :: more)) :=
    couple_positional hvalue hmore fun v w vs ws hvw hvs => ⟨v, w, vs, ws, hvw, hvs, rfl, rfl⟩
  refine couple_positional hkey hrest ?_
  rintro n n' _ _ hn ⟨v, w, vs, ws, hvw, hvs, rfl, rfl⟩
  obtain ⟨rfl, h⟩ := hpair n n' v w hn hvw
  exact .pair h hvs

/-! ## Invocations -/

/-- The values of a name and of props that are alike. -/
def InvocationAlike (k : Text) (q : Policy) (vs ws : List Value) : Prop :=
  ∃ name v w, vs = [name, v] ∧ ws = [name, w] ∧ Value.Like k q false v w

/-- Blind expressions that are not larger than a bound go alike. -/
def BlindBelow (k : Text) (p : Text → Bool) (passed : Bool) (h h' : Host) (bound : Nat) : Prop :=
  ∀ e : Expr, sizeOf e < bound → e.isBlind k p passed = true →
    e.CoupledIn (.blind k p passed) h h'

variable {bound : Nat}

mutual

/-- Props that are made in place are alike. -/
theorem couple_made (hh : h.Alike k p passed h') (hs : s.Good (.blind k p passed))
    (hblind : BlindBelow k p passed h h' bound) : ∀ e : Expr, sizeOf e < bound →
      e.isMade k p passed = true →
        Couple (.blind k p passed) (Value.Like k (.blind k p) true) (e.eval h s) (e.eval h' s)
  | .call (.var name line) arguments, hsize, he => by
    have hless : sizeOf arguments < bound := by
      simp only [call.sizeOf_spec] at hsize
      omega
    have hentries := couple_entries hh hs hblind arguments hless
    have hprops := couple_props hh hs hblind arguments hless
    simp only [isMade, Bool.and_eq_true, Bool.or_eq_true, decide_eq_true_eq] at he
    obtain ⟨hname, ⟨rfl, he⟩ | ⟨rfl, he⟩⟩ := he
    · refine couple_callPositional (positional_of_entriesMade he) (hentries he) fun vs ws hvs => ?_
      exact hh.couple_call hs (f := .dict) rfl hname rfl (by decide) (by decide)
        (.ofExcept hvs.matched_makeDict)
    · refine couple_callPositional (positional_of_propsMade he) (hprops he) fun vs ws hvs => ?_
      exact hh.couple_call hs (f := .merge) rfl hname rfl (by decide) (by decide)
        (.ofExcept (Value.matched_makeMerge hvs))

/-- The keys and values of props that are made in place are alike. -/
theorem couple_entries (hh : h.Alike k p passed h') (hs : s.Good (.blind k p passed))
    (hblind : BlindBelow k p passed h h' bound) : ∀ arguments : List (ArgumentKind × Expr),
      sizeOf arguments < bound → entriesMade k p passed arguments = true →
        Couple (.blind k p passed) (Positional (Value.PairsAlike k (.blind k p)))
          (evalArguments h s false arguments) (evalArguments h' s false arguments)
  | [], _, _ => couple_noArguments .nil
  | [(kind, e)], hsize, he => by
    have hblind := hblind e (by simp at hsize; omega)
    obtain ⟨rfl, hcases⟩ := entriesMade_single he
    have hvalue : Couple (.blind k p passed) (fun _ _ => True) (e.eval h s) (e.eval h' s) := by
      rcases hcases with he | he
      · exact (hblind he s hs).weaken fun _ _ _ => trivial
      · obtain ⟨line, rfl⟩ := isVar_eq he
        exact (hh.couple_context hs line).weaken fun _ _ _ => trivial
    refine couple_positional hvalue (couple_noArguments (R := fun vs ws => vs = [] ∧ ws = [])
      ⟨rfl, rfl⟩) ?_
    rintro v w _ _ - ⟨rfl, rfl⟩
    exact .odd v w
  | (kind, key) :: (kind', value) :: more, hsize, he => by
    have hkey := hblind key (by simp at hsize; omega)
    have hvalue := hblind value (by simp at hsize; omega)
    have hmore := couple_entries hh hs hblind more (by simp at hsize; omega)
    obtain ⟨rfl, rfl, hk, hvalueBlind | ⟨htext, hcontext⟩, hrest⟩ := entriesMade_cons he
    · refine couple_entry (hkey hk s hs) (hvalue hvalueBlind s hs) (hmore hrest) ?_
      rintro n _ v w ⟨rfl, -⟩ hvw
      exact ⟨rfl, Or.inl hvw⟩
    · obtain ⟨line, rfl⟩ := isText_eq htext
      obtain ⟨line', rfl⟩ := isVar_eq hcontext
      have hname : Couple (.blind k p passed) (Same (· = .ofText callerVar))
          ((const (.string callerVar) line).eval h s)
          ((const (.string callerVar) line).eval h' s) := .pure (.of rfl)
      refine couple_entry hname (hh.couple_context hs line') (hmore hrest) ?_
      rintro n _ v w ⟨rfl, rfl⟩ hvw
      exact ⟨rfl, Or.inr ⟨rfl, hvw⟩⟩

/-- Props that are merged are alike. -/
theorem couple_props (hh : h.Alike k p passed h') (hs : s.Good (.blind k p passed))
    (hblind : BlindBelow k p passed h h' bound) : ∀ arguments : List (ArgumentKind × Expr),
      sizeOf arguments < bound → propsMade k p passed arguments = true →
        Couple (.blind k p passed) (Positional (List.Forall₂ (Value.Like k (.blind k p) true)))
          (evalArguments h s false arguments) (evalArguments h' s false arguments)
  | [], _, _ => couple_noArguments .nil
  | (kind, e) :: more, hsize, he => by
    have hless : sizeOf e < bound := by simp at hsize; omega
    have hmade := couple_made hh hs hblind e hless
    have hmore := couple_props hh hs hblind more (by simp at hsize; omega)
    obtain ⟨rfl, hcases, hrest⟩ := propsMade_cons he
    have hvalue : Couple (.blind k p passed) (Value.Like k (.blind k p) true) (e.eval h s)
        (e.eval h' s) := by
      rcases hcases with he | he
      · exact (hblind e hless he s hs).weaken fun v w hvw => hvw.1 ▸ .same hvw.2
      · exact hmade he
    exact couple_positional hvalue (hmore hrest) fun _ _ _ _ hvw hvs => .cons hvw hvs

end

/-- The arguments of an invocation are the same name and props that are alike. -/
theorem couple_invocation (hh : h.Alike k p passed h') (hs : s.Good (.blind k p passed))
    (hblind : BlindBelow k p passed h h' bound) :
    ∀ arguments : List (ArgumentKind × Expr), sizeOf arguments < bound →
      isInvocation k p passed arguments = true →
        Couple (.blind k p passed) (Positional (InvocationAlike k (.blind k p)))
          (evalArguments h s false arguments) (evalArguments h' s false arguments)
  | [(.positional, name), (.positional, props)], hsize, he => by
    simp only [isInvocation, Bool.and_eq_true, Bool.or_eq_true] at he
    have hprops : Couple (.blind k p passed) (Value.Like k (.blind k p) false) (props.eval h s)
        (props.eval h' s) := by
      rcases he.2 with (hcontext | ⟨rfl, hcaller⟩) | hmade
      · obtain ⟨line, rfl⟩ := isVar_eq hcontext
        exact hh.couple_context hs line
      · obtain ⟨line, rfl⟩ := isVar_eq hcaller
        exact hh.couple_caller hs line
      · exact (couple_made hh hs hblind props (by simp at hsize; omega) hmade).weaken
          fun _ _ hvw => hvw.unpassed
    have hrest : Couple (.blind k p passed) (Positional fun vs ws => ∃ v w, vs = [v] ∧ ws = [w] ∧
        Value.Like k (.blind k p) false v w) (evalArguments h s false [(.positional, props)])
        (evalArguments h' s false [(.positional, props)]) := by
      refine couple_positional hprops (couple_noArguments (R := fun vs ws => vs = [] ∧ ws = [])
        ⟨rfl, rfl⟩) ?_
      rintro v w _ _ hvw ⟨rfl, rfl⟩
      exact ⟨v, w, rfl, rfl, hvw⟩
    have hname := hblind name (by simp at hsize; omega) he.1 s hs
    refine couple_positional hname hrest ?_
    rintro n _ _ _ ⟨rfl, -⟩ ⟨v, w, rfl, rfl, hvw⟩
    exact ⟨n, v, w, rfl, rfl, hvw⟩

/-! ## The other ways of generated sources -/

/-- The test whether something is given under another name than the key. -/
theorem couple_givenTest (hh : h.Alike k p passed h') (hs : s.Good (.blind k p passed))
    {name : Text} {e : Expr} {arguments : List (ArgumentKind × Expr)}
    (hgiven : isGivenTest k name e arguments = true) :
    Couple (.blind k p passed) (Same (Value.Trusted (.blind k p)))
      ((test name e arguments).eval h s) ((test name e arguments).eval h' s) := by
  obtain ⟨label, line, line', hlabel, hname, rfl, rfl⟩ := isGivenTest_eq hgiven
  have heval : ∀ h : Host, (test name (item (var Attribute.contextVar line)
      (const (.string label) line')) []).eval h s = (do
        let c ← (var Attribute.contextVar line).eval h s
        let v ← Run.atLine line' (Run.ofExcept (c.item (.ofText label)))
        Run.atLine (argumentsLine line' []) (pure (.bool !v.isUndefined))) := by
    intro h
    have happly (v : Value) : applyTest name ((Arguments.ofValues []).cons v) =
        pure (.bool !v.isUndefined) := by
      rw [applyTest, hname]
      rfl
    simp only [← happly]
    rfl
  rw [heval, heval]
  refine (hh.couple_context hs line).bind fun c d hcd => ?_
  refine (Couple.ofExcept (hcd.matched_item hlabel)).atLine.bind fun v w hvw => ?_
  rw [hvw.isUndefined_eq]
  exact Couple.atLine (.pure (.of (.bool _)))

/-- A slot source that is made of a text that passes the test. -/
theorem couple_source (hh : h.Alike k p passed h') (hs : s.Good (.blind k p passed))
    (hvisible : isVisible k deferredName = true) {line : Nat}
    {arguments : List (ArgumentKind × Expr)} (hsource : isSourceArgument p arguments = true) :
    Couple (.blind k p passed) (Same (Value.Trusted (.blind k p)))
      ((call (var deferredName line) arguments).eval h s)
      ((call (var deferredName line) arguments).eval h' s) := by
  obtain ⟨source, line', hpass, rfl⟩ := exists_of_isSourceArgument hsource
  have hargs : Couple (.blind k p passed)
      (Positional fun vs ws => vs = [.ofText source] ∧ ws = [.ofText source])
      (evalArguments h s false [(.positional, const (.string source) line')])
      (evalArguments h' s false [(.positional, const (.string source) line')]) :=
    .pure ⟨_, _, ⟨rfl, rfl⟩, rfl, rfl⟩
  refine couple_callPositional (by simp) hargs ?_
  rintro _ _ ⟨rfl, rfl⟩
  exact hh.couple_call hs (f := .deferred) rfl hvisible rfl (by decide) (by decide)
    (.pure (.of (Value.Trusted.deferred_iff.2 hpass)))

end Expr

/-- **The ways of generated sources go alike** in hosts that are alike. -/
theorem Host.Alike.special (hh : h.Alike k p passed h') : h.Special (.blind k p passed) h' := by
  intro e hspecial _ ih s hs
  cases e with
  | test name a arguments => exact Expr.couple_givenTest hh hs hspecial
  | call f arguments =>
    cases f with
    | var name line =>
      have hcases : isVisible k name = true ∧
          (name = invokeName ∧ Expr.isInvocation k p passed arguments = true ∨
            name = deferredName ∧ isSourceArgument p arguments = true) := by
        simpa [Setting.blind, Expr.isGeneratedUse] using hspecial
      obtain ⟨hvisible, ⟨rfl, hinvocation⟩ | ⟨rfl, hsource⟩⟩ := hcases
      · -- The props of an invocation may differ; its result does not.
        have hpositional := Expr.positional_of_isInvocation hinvocation
        refine Expr.couple_callPositional hpositional
          (Expr.couple_invocation hh hs ih arguments (by simp +arith) hinvocation) ?_
        rintro _ _ ⟨n, v, w, rfl, rfl, hvw⟩
        exact hh.couple_call hs (f := .invoke) rfl hvisible rfl (by decide) (by decide)
          (hh.couple_invoke hvw n)
      · exact Expr.couple_source hh hs hvisible hsource
    | _ => cases hspecial
  | _ => cases hspecial

end Componentry.Template
