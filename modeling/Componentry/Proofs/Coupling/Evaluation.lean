import Componentry.Proofs.Coupling.Calls

/-! # Expressions that go alike

In coupled hosts an expression that passes the tests goes alike: it has the same trusted value
in both (`Expr.coupledIn`).  The induction is on the size of the expression, since a special
expression may be compared by any of its parts; what lists of expressions give follows from
their members.
-/
namespace Componentry.Template

variable {S : Setting} {h h' : Host} {s : Scope}

theorem couple_withArguments {line : Nat} {positional named : List (ArgumentKind × Value)}
    {f g : Arguments → Run Value} (hp : ∀ a ∈ positional, a.2.Trusted S.policy)
    (hn : ∀ a ∈ named, a.2.Trusted S.policy)
    (hfg : ∀ args, args.Trusted S.policy →
      Couple S (Same (Value.Trusted S.policy)) (f args) (g args)) :
    Couple S (Same (Value.Trusted S.policy)) (withArguments line positional named f)
      (withArguments line positional named g) :=
  Couple.atLine ((Couple.returned (Arguments.returns_collect hp hn)).bindSame hfg)

theorem couple_applyFilter (name : Text) {args : Arguments} (ha : args.Trusted S.policy) :
    Couple S (Same (Value.Trusted S.policy)) (applyFilter name args) (applyFilter name args) := by
  unfold applyFilter
  split
  · exact .returned (Filter.returns_apply _ ha)
  · exact .fail

theorem couple_applyTest (name : Text) (args : Arguments) :
    Couple S (Same (Value.Trusted S.policy)) (applyTest name args) (applyTest name args) := by
  unfold applyTest
  split
  · exact .returned (Test.returns_apply _ _ _)
  · exact .fail

/-- What is called by a trusted value, or by a name that may be used. -/
def Callee.Good (S : Setting) : Callee → Prop
  | name x => S.isVar x = true ∨ S.isCallee x = true
  | member v _ | value v => v.Trusted S.policy

theorem Callee.Good.couple_call {c : Callee} (hc : c.Good S) (hh : h.Coupled S h')
    (hs : s.Good S) {args : Arguments} (ha : args.Trusted S.policy) :
    Couple S (Same (Value.Trusted S.policy)) (c.call h s args) (c.call h' s args) := by
  cases c with
  | name x => exact hh.call hs hc ha
  | member v name => exact Value.couple_callMember hh hs hc name ha
  | value v => exact Value.couple_call hh hs hc ha

namespace Expr

/-! ## Lists of expressions -/

theorem couple_evalItems (hs : s.Good S) {items : List Expr}
    (hitems : ∀ e ∈ items, e.CoupledIn S h h') :
    Couple S (Same fun vs : List Value => ∀ v ∈ vs, v.Trusted S.policy) (evalItems h s items)
      (evalItems h' s items) := by
  induction items with
  | nil => exact .pure (.of (by simp))
  | cons e items ih =>
    rw [List.forall_mem_cons] at hitems
    refine (hitems.1 s hs).bindSame fun v hv => (ih hitems.2).bindSame fun vs hvs => ?_
    exact .pure (.of (List.forall_mem_cons.2 ⟨hv, hvs⟩))

theorem couple_evalPairs (hs : s.Good S) {pairs : List (Expr × Expr)}
    (hpairs : ∀ e ∈ pairs, e.1.CoupledIn S h h' ∧ e.2.CoupledIn S h h') :
    Couple S (Same fun es : List (Value × Value) => ∀ e ∈ es, Value.TrustedEntry S.policy e)
      (evalPairs h s pairs) (evalPairs h' s pairs) := by
  induction pairs with
  | nil => exact .pure (.of (by simp))
  | cons e pairs ih =>
    rw [List.forall_mem_cons] at hpairs
    refine (hpairs.1.1 s hs).bindSame fun k hk => (hpairs.1.2 s hs).bindSame fun v hv => ?_
    refine (ih hpairs.2).bindSame fun es hes => ?_
    exact .pure (.of (List.forall_mem_cons.2 ⟨⟨hk, hv⟩, hes⟩))

theorem couple_evalOption (hs : s.Good S) {default : Value} (hdefault : default.Trusted S.policy)
    {e : Option Expr} (he : ∀ e' ∈ e, e'.CoupledIn S h h') :
    Couple S (Same (Value.Trusted S.policy)) (evalOption h s default e)
      (evalOption h' s default e) := by
  cases e with
  | none => exact .pure (.of hdefault)
  | some e => exact he e rfl s hs

theorem couple_evalCompare (hs : s.Good S) {rest : List (CompareOp × Expr)}
    (hrest : ∀ e ∈ rest, e.2.CoupledIn S h h') (v : Value) :
    Couple S (Same fun _ => True) (evalCompare h s v rest) (evalCompare h' s v rest) := by
  induction rest generalizing v with
  | nil => exact .pure (.of trivial)
  | cons e rest ih =>
    rw [List.forall_mem_cons] at hrest
    refine (hrest.1 s hs).bindSame fun w _ => ?_
    refine (Couple.atLine (.returned .any)).bindSame fun holds _ => ?_
    exact .ite (fun _ => ih hrest.2 w) fun _ => .pure (.of trivial)

theorem couple_evalArguments (hs : s.Good S) {arguments : List (ArgumentKind × Expr)}
    (harguments : ∀ a ∈ arguments, a.2.CoupledIn S h h') (named : Bool) :
    Couple S (Same fun vs : List (ArgumentKind × Value) => ∀ a ∈ vs, a.2.Trusted S.policy)
      (evalArguments h s named arguments) (evalArguments h' s named arguments) := by
  induction arguments with
  | nil => exact .pure (.of (by simp))
  | cons a arguments ih =>
    rw [List.forall_mem_cons] at harguments
    refine .ite (fun _ => ?_) fun _ => ih harguments.2
    refine (harguments.1 s hs).bindSame fun v hv => (ih harguments.2).bindSame fun vs hvs => ?_
    exact .pure (.of (List.forall_mem_cons.2 ⟨hv, hvs⟩))

/-! ## Calls -/

/-- An expression goes alike when it is called. -/
def CalledIn (S : Setting) (h h' : Host) : Expr → Prop
  | var x _ => S.isVar x = true ∨ S.isCallee x = true
  | member a _ => a.CoupledIn S h h'
  | f => f.CoupledIn S h h'

theorem couple_evalCallee (hs : s.Good S) {f : Expr} (hf : f.CalledIn S h h') :
    Couple S (Same (Callee.Good S)) (evalCallee h s (f.eval h s) f)
      (evalCallee h' s (f.eval h' s) f) := by
  have hvalue (hf : f.CoupledIn S h h') :
      Couple S (Same (Callee.Good S)) (do return Callee.value (← f.eval h s))
        (do return Callee.value (← f.eval h' s)) :=
    (hf s hs).bindSame fun v hv => .pure (.of hv)
  cases f with
  | var x line => exact .pure (.of hf)
  | member a x => exact (hf s hs).bindSame fun v hv => .pure (.of hv)
  | _ => exact hvalue hf

/-- Calls go alike if what is called and the arguments do. -/
theorem couple_evalCall (hh : h.Coupled S h') (hs : s.Good S) {f : Expr}
    {arguments : List (ArgumentKind × Expr)} {more : List (ArgumentKind × Value)}
    (hf : f.CalledIn S h h') (harguments : ∀ a ∈ arguments, a.2.CoupledIn S h h')
    (hmore : ∀ a ∈ more, a.2.Trusted S.policy) :
    Couple S (Same (Value.Trusted S.policy)) (evalCall h s more (call f arguments))
      (evalCall h' s more (call f arguments)) := by
  simp only [evalCall]
  cases f.block? with
  | some name => exact Couple.atLine (Scope.couple_callBlock hh hs name)
  | none =>
    refine (couple_evalCallee hs hf).bindSame fun c hc => ?_
    refine (couple_evalArguments hs harguments false).bindSame fun positional hp => ?_
    refine (couple_evalArguments hs harguments true).bindSame fun named hn => ?_
    refine couple_withArguments hp (fun a ha => ?_) fun args ha => hc.couple_call hh hs ha
    exact (List.mem_append.1 ha).elim (hn a) (hmore a)

/-! ## All expressions -/

theorem sizeOf_snd_lt {α : Type} [SizeOf α] {a : α × Expr} {l : List (α × Expr)} (h : a ∈ l) :
    sizeOf a.2 < sizeOf l := by
  have hlt := List.sizeOf_lt_of_mem h
  have heq : sizeOf a = 1 + sizeOf a.1 + sizeOf a.2 := rfl
  omega

/-- An expression goes alike if its parts do. -/
theorem coupledIn_of_parts (hh : h.Coupled S h') {e : Expr}
    (he : e.parts S.tests.expr S.isVar S.isCallee = true)
    (ih : ∀ e', sizeOf e' < sizeOf e → S.tests.expr e' = true → e'.CoupledIn S h h') :
    e.CoupledIn S h h' := by
  have harguments {arguments : List (ArgumentKind × Expr)}
      (hsize : sizeOf arguments < sizeOf e)
      (hall : (arguments.all fun a => S.tests.expr a.2) = true) :
      ∀ a ∈ arguments, a.2.CoupledIn S h h' := fun a ha =>
    ih a.2 (Nat.lt_trans (sizeOf_snd_lt ha) hsize) (List.all_eq_true.1 hall a ha)
  intro s hs
  cases e with
  | var x line =>
    obtain ⟨heq, htrusted⟩ := hh.lookup hs he
    show Couple S _ (Run.refresh (s.lookup h.data x)) (Run.refresh (s.lookup h'.data x))
    rw [← heq]
    exact .refresh htrusted
  | const literal line => exact .pure (.of (Value.Trusted.literal literal))
  | list items line =>
    have hitems : ∀ e ∈ items, e.CoupledIn S h h' := by
      intro e hmem
      have hlt := List.sizeOf_lt_of_mem hmem
      have hsize := list.sizeOf_spec items line
      exact ih e (by omega) (List.all_eq_true.1 he e hmem)
    exact (couple_evalItems hs hitems).bindSame fun vs hvs =>
      .pure (.of (Value.Trusted.list_iff.2 hvs))
  | map pairs line =>
    have hpairs : ∀ e ∈ pairs, e.1.CoupledIn S h h' ∧ e.2.CoupledIn S h h' := by
      intro e hmem
      have hpass := List.all_eq_true.1 he e hmem
      rw [Bool.and_eq_true] at hpass
      have hlt := List.sizeOf_lt_of_mem hmem
      have heq : sizeOf e = 1 + sizeOf e.1 + sizeOf e.2 := rfl
      have hsize := map.sizeOf_spec pairs line
      exact ⟨ih e.1 (by omega) hpass.1, ih e.2 (by omega) hpass.2⟩
    exact (couple_evalPairs hs hpairs).bindSame fun es hes => .pure (.of (.ofEntries hes))
  | unary op a line =>
    exact (ih a (by simp +arith) he s hs).bindSame fun v _ =>
      .atLine (.returned (Operation.returns_unary op v))
  | binary op a b line =>
    simp only [parts, Bool.and_eq_true] at he
    have ha := ih a (by simp +arith) he.1 s hs
    have hb := ih b (by simp +arith) he.2 s hs
    refine ha.bindSame fun v hv => ?_
    cases op with
    | or => exact .ite (fun _ => .pure (.of hv)) fun _ => hb
    | and =>
      refine .ite (fun _ => hb.bindSame fun w hw => .pure (.of (.conjunction hw))) fun _ => ?_
      exact .ite (fun _ => hb) fun _ => .pure (.of hv)
    | _ => exact hb.bindSame fun w hw => .atLine (.returned (Operation.returns_binary _ hv hw))
  | compare a rest line =>
    simp only [parts, Bool.and_eq_true] at he
    have hrest : ∀ e ∈ rest, e.2.CoupledIn S h h' := fun e hmem =>
      ih e.2 (by have := sizeOf_snd_lt hmem; simp; omega) (List.all_eq_true.1 he.2 e hmem)
    refine (ih a (by simp +arith) he.1 s hs).bindSame fun v _ => ?_
    exact (couple_evalCompare hs hrest v).bindSame fun holds _ => .pure (.of (.bool _))
  | ifElse condition yes no =>
    simp only [parts, Bool.and_eq_true] at he
    obtain ⟨⟨hcondition, hyes⟩, hno⟩ := he
    have hno : ∀ e ∈ no, e.CoupledIn S h h' := by
      rintro e rfl
      exact ih e (by simp +arith) hno
    refine (ih condition (by simp +arith) hcondition s hs).bindSame fun v _ => ?_
    exact .ite (fun _ => ih yes (by simp +arith) hyes s hs) fun _ =>
      couple_evalOption hs .undefined hno
  | filter name a arguments =>
    simp only [parts, Bool.and_eq_true] at he
    have harguments := harguments (by simp +arith) he.2
    refine (ih a (by simp +arith) he.1 s hs).bindSame fun v hv => ?_
    refine (couple_evalArguments hs harguments false).bindSame fun positional hp => ?_
    refine (couple_evalArguments hs harguments true).bindSame fun named hn => ?_
    exact couple_withArguments hp hn fun args hargs => couple_applyFilter name (hargs.cons hv)
  | test name a arguments =>
    simp only [parts, Bool.and_eq_true] at he
    have harguments := harguments (by simp +arith) he.2
    refine (ih a (by simp +arith) he.1 s hs).bindSame fun v hv => ?_
    refine (couple_evalArguments hs harguments false).bindSame fun positional hp => ?_
    refine (couple_evalArguments hs harguments true).bindSame fun named hn => ?_
    exact couple_withArguments hp hn fun args hargs => couple_applyTest name (args.cons v)
  | member a x =>
    exact (ih a (by simp +arith) he s hs).bindSame fun v hv =>
      .atLine (.returned (Value.returns_member hv x))
  | item a key =>
    simp only [parts, Bool.and_eq_true] at he
    refine (ih a (by simp +arith) he.1 s hs).bindSame fun v hv => ?_
    refine (ih key (by simp +arith) he.2 s hs).bindSame fun k _ => ?_
    exact .atLine (.returned (Value.returns_item hv k))
  | slice a start stop step =>
    simp only [parts, Bool.and_eq_true] at he
    obtain ⟨⟨⟨ha, hstart⟩, hstop⟩, hstep⟩ := he
    have hbound {e : Option Expr} (hsize : sizeOf e < sizeOf (slice a start stop step))
        (hpass : e.all S.tests.expr = true) : ∀ e' ∈ e, e'.CoupledIn S h h' := by
      rintro e' rfl
      exact ih e' (Nat.lt_trans (by simp) hsize) hpass
    refine (ih a (by simp +arith) ha s hs).bindSame fun v hv => ?_
    refine (couple_evalOption hs .none (hbound (by simp +arith) hstart)).bindSame fun low _ => ?_
    refine (couple_evalOption hs .none (hbound (by simp +arith) hstop)).bindSame fun high _ => ?_
    refine (couple_evalOption hs .none (hbound (by simp +arith) hstep)).bindSame fun stride _ => ?_
    exact .atLine (.returned (Operation.returns_slice hv low high stride))
  | call f arguments =>
    rw [eval_call, eval_call]
    cases f with
    | var x line =>
      simp only [parts, Bool.and_eq_true] at he
      exact couple_evalCall hh hs (Or.inr he.1) (harguments (by simp +arith) he.2) (by simp)
    | member a x =>
      simp only [parts, called, Bool.and_eq_true] at he
      exact couple_evalCall hh hs (f := member a x) (ih a (by simp +arith) he.1)
        (harguments (by simp +arith) he.2) (by simp)
    | _ =>
      simp only [parts, called, Bool.and_eq_true] at he
      exact couple_evalCall hh hs (ih _ (by simp +arith) he.1) (harguments (by simp +arith) he.2)
        (by simp)

/-- **Expressions that pass the tests go alike.** -/
theorem coupledIn (hh : h.Coupled S h') (e : Expr) (he : S.tests.expr e = true) :
    e.CoupledIn S h h' := by
  rcases S.parts he with hspecial | hparts
  · exact hh.special e hspecial he fun e' hlt he' => coupledIn hh e' he'
  · exact coupledIn_of_parts hh hparts fun e' hlt he' => coupledIn hh e' he'
termination_by sizeOf e

/-- A call that passes on more arguments goes alike. -/
theorem couple_evalCall_of_callParts (hh : h.Coupled S h') (hs : s.Good S) {e : Expr}
    (he : e.callParts S.tests.expr = true) {more : List (ArgumentKind × Value)}
    (hmore : ∀ a ∈ more, a.2.Trusted S.policy) :
    Couple S (Same (Value.Trusted S.policy)) (evalCall h s more e) (evalCall h' s more e) := by
  cases e with
  | call f arguments =>
    rw [callParts, Bool.and_eq_true] at he
    have harguments : ∀ a ∈ arguments, a.2.CoupledIn S h h' := fun a ha =>
      coupledIn hh a.2 (List.all_eq_true.1 he.2 a ha)
    refine couple_evalCall hh hs ?_ harguments hmore
    cases f with
    | var x line => exact Or.inl (S.isVar_of_expr he.1)
    | _ => exact coupledIn hh _ he.1
  | _ => exact coupledIn hh _ he s hs

end Expr

end Componentry.Template
