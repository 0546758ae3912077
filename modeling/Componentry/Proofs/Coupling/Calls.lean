import Componentry.Proofs.Coupling.Scopes

/-! # Calls that go alike

Two hosts **fit** if they have the same library, whose code passes the tests, and invocations
go alike; their data may differ under names that no code that passes uses (`Host.Fits`).  They
are **coupled** if special expressions and jumps go alike too (`Host.Coupled`).  Then calls
go alike: of functions, macros and blocks, and of loops for other items.
-/
namespace Componentry.Template

variable {S : Setting}

/-- A jump to code that passes the tests, with trusted values. -/
def Jump.Passes (S : Setting) : Jump → Prop
  | body ss => Stmt.allOf S.tests ss = true
  | rounds loop items => loop.passes S.tests = true ∧ items.Trusted S.policy
  | routine code values => S.policy.code code = true ∧ ∀ v ∈ values, v.Trusted S.policy

/-- An expression goes alike in two hosts, from every good scope. -/
def Expr.CoupledIn (S : Setting) (h h' : Host) (e : Expr) : Prop :=
  ∀ s : Scope, s.Good S → Couple S (Same (Value.Trusted S.policy)) (e.eval h s) (e.eval h' s)

/-- Two hosts with the same templates, in which invocations and names go alike. -/
structure Host.Fits (S : Setting) (h h' : Host) : Prop where
  library : h.library = h'.library
  bodies : ∀ name body, h.library.find? name = some body → Stmt.allOf S.tests body = true
  invoke : ∀ name props, props.Trusted S.policy → Couple S (Same (Value.Trusted S.policy))
    (Function.contained name (h.invoker name props)) (Function.contained name (h'.invoker name props))
  members : ∀ x, S.isVar x = true ∨ S.isCallee x = true →
    h.data.member? x = h'.data.member? x ∧
      ∀ v, h.data.member? x = some v → v.Trusted S.policy
  debug : S.callable .debug = true → h.data = h'.data

/-- Special expressions go alike in two hosts if their parts do. -/
def Host.Special (S : Setting) (h h' : Host) : Prop :=
  ∀ e, S.special e = true → S.tests.expr e = true →
    (∀ e', sizeOf e' < sizeOf e → S.tests.expr e' = true → e'.CoupledIn S h h') →
      e.CoupledIn S h h'

/-- Two hosts in which code that passes the tests goes alike. -/
structure Host.Coupled (S : Setting) (h h' : Host) : Prop extends Host.Fits S h h' where
  special : Host.Special S h h'
  run : ∀ j, j.Passes S → CoupleIn S (fun _ => True) (h.run j) (h'.run j)

variable {h h' : Host} {s : Scope} {args : Arguments}

/-! ## Functions -/

theorem Function.couple_call (hh : h.Fits S h') {f : Function} (hf : S.callable f = true)
    (ha : args.Trusted S.policy) :
    Couple S (Same (Value.Trusted S.policy)) (f.call h s args) (f.call h' s args) := by
  cases f with
  | dict => exact .returned (returns_makeDict ha)
  | merge => exact .returned (returns_makeMerge ha)
  | cat => exact .pure (.of (.ofMarkup _))
  | deferred =>
    exact .returned (.bind .any fun source _ => .bind .any fun _ _ =>
      .ok (S.callable_deferred hf source))
  | invoke =>
    exact (Couple.returned (returns_invokeArguments ha)).bindSame fun a hprops =>
      hh.invoke a.1 a.2 hprops
  | range => exact .returned (returns_makeRange args)
  | debug =>
    refine .pure ⟨by rw [hh.debug hf], ?_⟩
    unfold makeDebug
    split <;> exact .ofText _
  | space =>
    refine (Couple.returned (returns_spaceEntries ha)).bindSame fun entries he => ?_
    exact (Couple.newCell he).bindSame fun cell _ => .pure (.of (Value.Trusted.record_iff.2 he))

/-! ## Macros -/

namespace Macro

theorem trusted_splitArguments (ha : args.Trusted S.policy) :
    (∀ v ∈ (splitArguments args).1, v.Trusted S.policy) ∧
      (splitArguments args).2.Trusted S.policy := by
  unfold splitArguments
  split
  · exact ⟨fun v hv => ha v (List.dropLast_subset _ hv),
      Value.Trusted.getD (fun v hv => ha v (List.mem_of_getLast? hv)) .undefined⟩
  · exact ⟨ha, .undefined⟩

theorem returns_parameterValue {positional : List Value} {named : Value}
    (hp : ∀ v ∈ positional, v.Trusted S.policy) (hn : named.Trusted S.policy) (name : Text)
    (i : Nat) : Returns (Value.Trusted S.policy) (parameterValue positional named name i) := by
  unfold parameterValue
  split
  · exact .error
  · rename_i v hv _
    exact .ok (hp v (List.mem_of_getElem? hv))
  · rename_i v _ hv
    exact .ok (hn.member? hv)
  · exact .ok .undefined

theorem returns_bindArguments (code : Macro) (ha : args.Trusted S.policy) :
    Returns (fun r : List Value × Option Value => (∀ v ∈ r.1, v.Trusted S.policy) ∧
      ∀ v, r.2 = some v → v.Trusted S.policy) (code.bindArguments args) := by
  obtain ⟨hp, hn⟩ := trusted_splitArguments ha
  unfold bindArguments
  generalize splitArguments args = split at hp hn
  dsimp only
  split
  · exact .error
  · refine .bind (.mapM fun x _ => returns_parameterValue hp hn x.1 x.2) fun values hvalues => ?_
    split
    · refine .ok ⟨hvalues, fun v hv => ?_⟩
      obtain ⟨-, hv⟩ := Option.ite_none_right_eq_some.1 hv
      cases hv
      exact Value.Trusted.getD (fun w hw => hn.member? hw) .undefined
    · exact .error

theorem couple_call (hh : h.Coupled S h') (hs : s.Good S) {code : Macro}
    (hcode : S.policy.code code = true) (closure : Nat) (ha : args.Trusted S.policy) :
    Couple S (Same (Value.Trusted S.policy)) (code.call h s closure args)
      (code.call h' s closure args) := by
  refine (Couple.returned (returns_bindArguments code ha)).bindSame fun r hr => ?_
  have hjump : Jump.Passes S (.routine code r.1) := ⟨hcode, hr.1⟩
  exact CoupleIn.captured (.bind (.guardNesting 0) fun _ _ => hh.run _ hjump)
    (hs.inMacro closure hr.2)

/-- Both runs make the same macro. -/
theorem couple_define {code : Macro} (hcode : S.policy.code code = true) :
    CoupleIn S (Value.Trusted S.policy) code.define code.define := by
  have hclosure : CoupleIn S (fun _ => True) code.closure code.closure := by
    refine .bind .get fun s _ => ?_
    split
    · exact .pure trivial
    · refine .bind (.lift .newClosure) fun number _ => ?_
      refine .bind (.modify fun s hs => (hs.addClosure number).modifyFrame fun f hf => ?_)
        fun _ _ => .pure trivial
      split
      · exact hf
      · exact ⟨hf.vars, hf.loop⟩
  exact .bind hclosure fun number _ => .bind (.modify fun s hs => hs.encloseAll number _)
    fun _ _ => .pure (Value.Trusted.routine_iff.2 hcode)

end Macro

/-! ## Values -/

namespace Value

theorem couple_call (hh : h.Coupled S h') (hs : s.Good S) {v : Value} (hv : v.Trusted S.policy)
    (ha : args.Trusted S.policy) :
    Couple S (Same (Value.Trusted S.policy)) (v.call h s args) (v.call h' s args) := by
  cases v with
  | function f => exact Function.couple_call hh.toFits (S.functions_callable hv) ha
  | routine code closure =>
    exact .ite (fun _ => Macro.couple_call hh hs hv closure ha) fun _ => .fail
  | record form entries => cases form <;> exact .fail
  | _ => exact .fail

theorem Trusted.asCallee {p : Policy} {v : Value} (hv : v.Trusted p) : v.asCallee.Trusted p := by
  cases v with
  | routine code closure => exact .undefined
  | _ => exact hv

theorem couple_changed (cell : Nat) {values : List Value}
    (hvalues : ∀ v ∈ values, v.Trusted S.policy) :
    Couple S (Same (Value.Trusted S.policy)) (changed cell values) (changed cell values) := by
  refine (Couple.readCell cell).bindSame fun entries _ => ?_
  refine .ite (fun _ => .pure (.of (.bool _))) fun _ => ?_
  exact (Couple.setCell cell .none (Trusted.list_iff.2 hvalues)).bindSame fun _ _ =>
    .pure (.of (.bool _))

theorem couple_callMember (hh : h.Coupled S h') (hs : s.Good S) {v : Value}
    (hv : v.Trusted S.policy) (name : Text) (ha : args.Trusted S.policy) :
    Couple S (Same (Value.Trusted S.policy)) (v.callMember h s name args)
      (v.callMember h' s name args) := by
  unfold callMember
  split
  · refine .ite (fun _ => couple_changed _ ha) fun _ => ?_
    split
    · exact .pure (.of (Trusted.getD (fun w hw => Arguments.Trusted.value? ha hw) .undefined))
    · exact .fail
  · split
    · rename_i f hf
      exact couple_call hh hs (hv.member? hf) ha
    · exact .fail

end Value

/-! ## Loops and blocks -/

theorem Scope.couple_recurse (hh : h.Coupled S h') (hs : s.Good S) (ha : args.Trusted S.policy) :
    Couple S (Same (Value.Trusted S.policy)) (s.recurse h args) (s.recurse h' args) := by
  unfold Scope.recurse
  split
  · rename_i items loop hvalues hloop
    obtain ⟨l, hl, hcode⟩ := Option.bind_eq_some_iff.1 hloop
    have hitems : items.Trusted S.policy := ha items (by simp [hvalues])
    have hjump : Jump.Passes S (.rounds loop items) :=
      ⟨(hs.innermostLoop? hl).code loop hcode, hitems⟩
    exact CoupleIn.captured (hh.run _ hjump) hs
  · exact .fail

theorem BlockStack.couple_run (hh : h.Coupled S h') {b : BlockStack}
    (hb : ∀ l ∈ b.layers, Stmt.allOf S.tests l.body = true) :
    CoupleIn S (fun _ => True) (b.run h) (b.run h') := by
  unfold BlockStack.run
  split
  · exact .lift .fail
  · rename_i layer hlayer
    refine .ite .fail ?_
    refine .bind .get fun _ _ => .bind (.modify fun s hs => hs.withOthers ..) fun _ _ => ?_
    refine .bind (.inFrame Frame.good_empty (hh.run _ (hb layer (List.mem_of_getElem? hlayer))))
      fun text _ => ?_
    exact .bind (.modify fun s hs => hs.withOthers ..) fun _ _ => .pure trivial

theorem Scope.couple_callSuper (hh : h.Coupled S h') (hs : s.Good S) (args : Arguments) :
    Couple S (Same (Value.Trusted S.policy)) (s.callSuper h args) (s.callSuper h' args) := by
  unfold Scope.callSuper
  split
  · rename_i b _ hb
    obtain ⟨name, -, hname⟩ := Option.bind_eq_some_iff.1 hb
    have hlayers := hs.block? hname
    let next := { b with depth := b.depth + 1 }
    exact CoupleIn.captured (BlockStack.couple_run (b := next) hh hlayers)
      (hs.setBlock (b := next) hlayers)
  · exact .fail

theorem Scope.couple_callBlock (hh : h.Coupled S h') (hs : s.Good S) (name : Text) :
    Couple S (Same (Value.Trusted S.policy)) (s.callBlock h name) (s.callBlock h' name) := by
  refine .ite (fun _ => .pure (.of (.string [] _))) fun _ => ?_
  split
  · rename_i b hb
    exact CoupleIn.captured (BlockStack.couple_run hh (hs.block? hb)) hs
  · exact .fail

/-! ## Names -/

namespace Host.Coupled

/-- What the data have under a name that may be used, or the function of the name. -/
theorem inData? (hh : h.Coupled S h') {x : Text} (hx : S.isVar x = true ∨ S.isCallee x = true) :
    Scope.inData? h.data x = Scope.inData? h'.data x ∧
      ∀ v, Scope.inData? h.data x = some v → v.Trusted S.policy ∨
        ∃ f, Function.named? x = some f ∧ v = .function f := by
  obtain ⟨heq, htrusted⟩ := hh.members x hx
  refine ⟨by rw [Scope.inData?, Scope.inData?, heq], fun v hv => ?_⟩
  rcases Option.or_eq_some_iff.1 hv with hmember | ⟨-, hnamed⟩
  · exact Or.inl (htrusted v hmember)
  · obtain ⟨f, hf, rfl⟩ := Option.map_eq_some_iff.1 hnamed
    exact Or.inr ⟨f, hf, rfl⟩

/-- **A variable has the same trusted value in both hosts.** -/
theorem lookup (hh : h.Coupled S h') (hs : s.Good S) {x : Text} (hx : S.isVar x = true) :
    Same (Value.Trusted S.policy) (s.lookup h.data x) (s.lookup h'.data x) := by
  obtain ⟨heq, htrusted⟩ := hh.inData? (Or.inl hx)
  have hfunction : ∀ f, Function.named? x = some f → (Value.function f).Trusted S.policy :=
    fun f hf => S.functions_of_isVar hx hf
  unfold Scope.lookup Scope.lookup?
  cases hsight : s.sight x with
  | value v => exact .of (hs.sight hsight).2
  | data enclosed =>
    refine ⟨by rw [heq], Value.Trusted.getD (fun v hv => ?_) .undefined⟩
    rcases Option.or_eq_some_iff.1 hv with hdata | ⟨-, hundefined⟩
    · rcases htrusted v hdata with hv | ⟨f, hf, rfl⟩
      · exact hv
      · exact hfunction f hf
    · obtain ⟨-, hundefined⟩ := Option.ite_none_right_eq_some.1 hundefined
      cases hundefined
      exact .undefined
  | nothing =>
    refine .of (Value.Trusted.getD (fun v hv => ?_) .undefined)
    obtain ⟨f, hf, rfl⟩ := Option.map_eq_some_iff.1 hv
    exact hfunction f hf

/-- What a name calls is the same in both hosts, a trusted value or a function that may be
called. -/
theorem callee? (hh : h.Coupled S h') (hs : s.Good S) {x : Text}
    (hx : S.isVar x = true ∨ S.isCallee x = true) :
    s.callee? h.data x = s.callee? h'.data x ∧
      ∀ v, s.callee? h.data x = some v → v.Trusted S.policy ∨
        ∃ f, S.callable f = true ∧ v = .function f := by
  refine ⟨by rw [Scope.callee?, Scope.callee?, (hh.inData? hx).1], fun v hv => ?_⟩
  rcases hs.callee? hv with hvar | ⟨w, hw, rfl⟩ | ⟨f, hf, rfl⟩ | rfl
  · exact Or.inl hvar.2
  · exact Or.inl ((hh.members x hx).2 w hw).asCallee
  · exact Or.inr ⟨f, hx.elim (fun hx => S.functions_callable (S.functions_of_isVar hx hf))
      fun hx => S.callable_of_isCallee hx hf, rfl⟩
  · exact Or.inl .undefined

/-- **Calls of names go alike.** -/
theorem call (hh : h.Coupled S h') (hs : s.Good S) {x : Text}
    (hx : S.isVar x = true ∨ S.isCallee x = true) (ha : args.Trusted S.policy) :
    Couple S (Same (Value.Trusted S.policy)) (s.call h x args) (s.call h' x args) := by
  obtain ⟨heq, hcases⟩ := hh.callee? hs hx
  unfold Scope.call
  refine .ite (fun _ => Scope.couple_callSuper hh hs args) fun _ => ?_
  refine .ite (fun _ => Scope.couple_recurse hh hs ha) fun _ => ?_
  rw [← heq]
  cases hcallee : s.callee? h.data x with
  | none => exact .fail
  | some v =>
    rcases hcases v hcallee with hv | ⟨f, hf, rfl⟩
    · exact Value.couple_call hh hs hv ha
    · exact Function.couple_call hh.toFits hf ha

end Host.Coupled

end Componentry.Template
