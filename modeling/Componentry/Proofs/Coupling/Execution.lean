import Componentry.Proofs.Coupling.Evaluation

/-! # Statements that go alike

In coupled hosts statements that pass the tests go alike (`Stmt.couple_exec`), and so do jumps
to code that passes them (`Jump.couple_exec`).  So hosts whose jumps are run are coupled, level
by level (`Host.coupled_of`), and whole templates go alike (`couple_render`).
-/
namespace Componentry.Template

variable {S : Setting} {h h' : Host}

/-! ## Assignments -/

theorem Exec.couple_eval (hh : h.Coupled S h') {e : Expr} (he : S.tests.expr e = true) :
    CoupleIn S (Value.Trusted S.policy) (Exec.eval h e) (Exec.eval h' e) :=
  .bind .get fun s hs => .lift (Expr.coupledIn hh e he s hs)

namespace Target

mutual

theorem couple_assign (hh : h.Coupled S h') : ∀ {t : Target} {v : Value},
    t.all S.tests = true → v.Trusted S.policy →
      CoupleIn S (fun _ => True) (t.assign h v) (t.assign h' v)
  | .var name, v, ht, hv => .modify fun s hs => hs.set ⟨ht, hv⟩
  | .member object name, v, ht, hv => by
    refine .bind (Exec.couple_eval hh ht) fun w _ => ?_
    split
    · exact .lift (.setCell _ (.ofText name) hv)
    · exact .fail
  | .list targets line, v, ht, hv => by
    simp only [assign]
    split
    · rename_i parts hparts
      exact .ite (couple_assignAll hh ht (hv.parts? hparts)) .fail
    · exact .fail

theorem couple_assignAll (hh : h.Coupled S h') : ∀ {ts : List Target} {vs : List Value},
    allOf S.tests ts = true → (∀ v ∈ vs, v.Trusted S.policy) →
      CoupleIn S (fun _ => True) (assignAll h vs ts) (assignAll h' vs ts)
  | [], [], _, _ | [], _ :: _, _, _ | _ :: _, [], _, _ => .pure trivial
  | t :: ts, v :: vs, ht, hv => by
    rw [allOf, Bool.and_eq_true] at ht
    rw [List.forall_mem_cons] at hv
    exact .bind (couple_assign hh ht.1 hv.1) fun _ _ => couple_assignAll hh ht.2 hv.2

end

end Target

/-! ## Loops -/

/-- Rounds over trusted items. -/
def Rounds.Trusted (p : Policy) (r : Rounds) : Prop := ∀ v ∈ r.items, v.Trusted p

namespace Rounds

theorem trusted_of? {v : Value} (hv : v.Trusted S.policy) {r : Rounds} (hr : of? v = some r) :
    r.Trusted S.policy := by
  obtain ⟨items, hitems, rfl⟩ := Option.map_eq_some_iff.1 hr
  exact hv.items? hitems

theorem trusted_ofCount (r : Rounds) {f : Nat → Value} (hf : ∀ n, (f n).Trusted S.policy) :
    (r.ofCount f).Trusted S.policy := by
  unfold ofCount
  split
  · exact hf _
  · exact .undefined

theorem trusted_loopValue {r : Rounds} (hr : r.Trusted S.policy) (depth cell i : Nat) :
    (r.loopValue depth cell i).Trusted S.policy := by
  have hitem (j : Nat) : (r.items[j]?.getD .undefined).Trusted S.policy :=
    Value.Trusted.getD (fun v hv => hr v (List.mem_of_getElem? hv)) .undefined
  have hcount {f : Nat → Value} (hf : ∀ n, (f n).Trusted S.policy) := trusted_ofCount r hf
  have hprevious : (if i = 0 then .undefined else r.items[i - 1]?.getD .undefined).Trusted
      S.policy := by
    split
    · exact .undefined
    · exact hitem _
  refine Value.Trusted.record_iff.2 ?_
  simp only [List.forall_mem_cons]
  exact ⟨⟨.ofText _, .int _⟩, ⟨.ofText _, .int _⟩, ⟨.ofText _, hcount fun _ => .int _⟩,
    ⟨.ofText _, hcount fun _ => .int _⟩, ⟨.ofText _, hcount fun _ => .int _⟩,
    ⟨.ofText _, .bool _⟩, ⟨.ofText _, hcount fun _ => .bool _⟩, ⟨.ofText _, .int _⟩,
    ⟨.ofText _, .int _⟩, ⟨.ofText _, hprevious⟩, ⟨.ofText _, hitem _⟩, by simp⟩

end Rounds

theorem couple_selectRounds (hh : h.Coupled S h') {target : Target} {condition : Option Expr}
    (ht : target.all S.tests = true) (hc : condition.all S.tests.expr = true) {r : Rounds}
    (hr : r.Trusted S.policy) :
    CoupleIn S (Rounds.Trusted S.policy) (selectRounds h target condition r)
      (selectRounds h' target condition r) := by
  cases condition with
  | none => exact .pure hr
  | some test =>
    refine .bind .get fun s hs => .inFrame (Frame.good_ofLoop ⟨by simp, by simp⟩) ?_
    refine .bind (.filterM (fun v hv => ?_) hr) fun items hitems => .pure hitems
    exact .bind (Target.couple_assign hh ht (hr v hv)) fun _ _ =>
      .bind (Exec.couple_eval hh hc) fun _ _ => .pure trivial

/-- The rounds of a loop go alike if its body does. -/
theorem couple_loopOver (hh : h.Coupled S h') {target : Target} (ht : target.all S.tests = true)
    {value : Nat → Value} (hvalue : ∀ i, (value i).Trusted S.policy) {body body' : Exec Text}
    (hbody : CoupleIn S (fun _ => True) body body') {items : List (Value × Nat)}
    (hitems : ∀ v ∈ items, v.1.Trusted S.policy) :
    CoupleIn S (fun _ => True) (loopOver h target value body items)
      (loopOver h' target value body' items) := by
  induction items with
  | nil => exact .pure trivial
  | cons item items ih =>
    rw [List.forall_mem_cons] at hitems
    refine .bind (.modify fun s hs => hs.setLoop (hvalue item.2)) fun _ _ => ?_
    refine .bind (Target.couple_assign hh ht hitems.1) fun _ _ => .bind hbody fun text _ => ?_
    exact .bind (ih hitems.2) fun more _ => .pure trivial

theorem couple_runRounds (hh : h.Coupled S h') {target : Target} (ht : target.all S.tests = true)
    {code : Option LoopCode} (hcode : ∀ loop, code = some loop → loop.passes S.tests = true)
    {r : Rounds} (hr : r.Trusted S.policy) {body body' : Exec Text}
    (hbody : CoupleIn S (fun _ => True) body body') :
    CoupleIn S (fun _ => True) (runRounds h target code r body)
      (runRounds h' target code r body') := by
  refine .bind .get fun s hs => .bind (.lift (.newCell (by simp))) fun cell _ => ?_
  refine .inFrame (Frame.good_ofLoop ⟨by simp, hcode⟩) ?_
  refine couple_loopOver hh ht (fun i => Rounds.trusted_loopValue hr _ _ i) hbody fun v hv => ?_
  obtain ⟨-, -, hmem⟩ := List.mem_zipIdx hv
  rw [hmem]
  exact hr _ (List.getElem_mem _)

/-! ## Filters of blocks -/

theorem couple_applyFilters (hh : h.Coupled S h') {filters : List FilterCall}
    (hf : allFilters S.tests.expr filters = true) (line : Nat) {v : Value}
    (hv : v.Trusted S.policy) :
    CoupleIn S (Value.Trusted S.policy) (applyFilters h line v filters)
      (applyFilters h' line v filters) := by
  induction filters generalizing line v with
  | nil => exact .pure hv
  | cons f filters ih =>
    rw [allFilters, List.all_cons, Bool.and_eq_true] at hf
    have harguments : ∀ a ∈ f.arguments, a.2.CoupledIn S h h' := fun a ha =>
      Expr.coupledIn hh a.2 (List.all_eq_true.1 hf.1 a ha)
    refine .bind .get fun s hs => ?_
    refine .bind (.lift (Expr.couple_evalArguments hs harguments false)) fun positional hp => ?_
    refine .bind (.lift (Expr.couple_evalArguments hs harguments true)) fun named hn => ?_
    refine .bind (.lift (couple_withArguments hp hn fun args hargs =>
      couple_applyFilter f.name (hargs.cons hv))) fun w hw => ih hf.2 _ hw

theorem couple_filtered (hh : h.Coupled S h') {filters : List FilterCall}
    (hf : allFilters S.tests.expr filters = true) {v : Value} (hv : v.Trusted S.policy) :
    CoupleIn S (Value.Trusted S.policy) (filtered h v filters) (filtered h' v filters) := by
  cases filters with
  | nil => exact .pure hv
  | cons f filters => exact couple_applyFilters hh hf f.line hv

/-! ## Other templates -/

/-- The body of a template that is there passes the tests. -/
theorem Host.Coupled.returns_first? (hh : h.Coupled S h') (names : List Value) :
    Returns (fun o => ∀ body, o = some body → Stmt.allOf S.tests body = true)
      (h.library.first? names) := by
  induction names with
  | nil => exact .ok (by simp)
  | cons v names ih =>
    unfold Library.first?
    split
    · exact .error
    · split
      · rename_i body hbody
        refine .ok fun body' heq => ?_
        cases heq
        exact hh.bodies _ body hbody
      · exact ih

theorem couple_includeFirst (hh : h.Coupled S h') (v : Value) (ignoreMissing : Bool)
    (line : Nat) :
    CoupleIn S (fun _ => True) (includeFirst h v ignoreMissing line)
      (includeFirst h' v ignoreMissing line) := by
  unfold includeFirst
  rw [← hh.library]
  refine .bind (.lift (Couple.returned (hh.returns_first? _)).atLine) fun o ho => ?_
  split
  · rename_i body
    refine .bind .get fun before hbefore => .bind (.guardNesting _) fun _ _ => ?_
    refine .bind (.modify fun s hs => hs.included (ho body rfl)) fun _ _ => ?_
    refine .bind (hh.run _ (ho body rfl)) fun text _ => ?_
    exact .bind (.modify fun s hs => hs.behindIncluded hbefore) fun _ _ => .pure trivial
  · exact .ite (.pure trivial) .fail

theorem couple_extendFrom (hh : h.Coupled S h') (v : Value) (line : Nat) :
    CoupleIn S (fun _ => True) (extendFrom h v line) (extendFrom h' v line) := by
  unfold extendFrom
  rw [← hh.library]
  refine .bind .get fun s hs => ?_
  split
  · rename_i name _ _
    refine .bind .get fun s hs => .ite .fail ?_
    split
    · exact .fail
    · rename_i body hbody
      exact .bind (.modify fun s hs => hs.extend name (hh.bodies name body hbody)) fun _ _ =>
        .pure trivial
  · exact .fail

theorem couple_importModule (hh : h.Coupled S h') {e : Expr} (he : S.tests.expr e = true) :
    CoupleIn S (Value.Trusted S.policy) (importModule h e) (importModule h' e) := by
  refine .inFrame Frame.good_empty ?_
  refine .bind (.capture (.bind (Exec.couple_eval hh he) fun v _ =>
    couple_includeFirst hh v false e.line)) fun text _ => ?_
  refine .bind .get fun s hs => .pure (Value.Trusted.record_iff.2 ?_)
  have hvars : ∀ x ∈ s.frameVars.reverse, x.2.Trusted S.policy := fun x hx =>
    (hs.frameVars x (List.mem_reverse.1 hx)).2
  have hmodule := Value.Trusted.ofNamed hvars
  cases hentries : (Value.ofNamed s.frameVars.reverse).entries? with
  | none => simp
  | some entries => exact hmodule.entries? hentries

theorem couple_importValues (hh : h.Coupled S h') {e : Expr} (he : S.tests.expr e = true)
    {names : List Text} (hnames : ∀ x ∈ names, S.isVar x = true) :
    CoupleIn S (fun vs : List Value => ∀ v ∈ vs, v.Trusted S.policy) (importValues h e names)
      (importValues h' e names) := by
  refine .inFrame Frame.good_empty ?_
  refine .bind .get fun before _ => .bind (.modify fun s hs => hs.withOthers ..) fun _ _ => ?_
  refine .bind (Exec.couple_eval hh he) fun v _ => ?_
  refine .bind (couple_includeFirst hh v false e.line) fun _ _ => .bind .get fun after hafter => ?_
  refine .bind (.mapM fun name hname => .lift ?_) fun vs hvs =>
    .bind (.modify fun s hs => hs.withOthers ..) fun _ _ => .pure hvs
  obtain ⟨heq, htrusted⟩ := hh.lookup hafter (hnames name hname)
  rw [← heq]
  exact .refresh htrusted

/-! ## Statements -/

namespace Stmt

mutual

/-- **Statements that pass the tests go alike.** -/
theorem couple_exec (hh : h.Coupled S h') : ∀ {s : Stmt}, s.all S.tests = true →
    CoupleIn S (fun _ => True) (s.exec h) (s.exec h')
  | .data text, _ => .write text
  | .emit e, hs => .bind (Exec.couple_eval hh hs) fun v _ => .writeValue v
  | .ifElse test yes no, hs => by
    simp only [all, Bool.and_eq_true] at hs
    obtain ⟨⟨htest, hyes⟩, hno⟩ := hs
    exact .bind (Exec.couple_eval hh htest) fun v _ =>
      .ite (couple_execAll hh hyes) (couple_execAll hh hno)
  | .forEach target e condition recursive body otherwise, hs => by
    simp only [all, Bool.and_eq_true] at hs
    obtain ⟨⟨⟨⟨ht, he⟩, hc⟩, hbody⟩, hother⟩ := hs
    refine .bind (Exec.couple_eval hh he) fun v hv => ?_
    split
    · exact .fail
    · rename_i rounds hrounds
      refine .bind (couple_selectRounds hh ht hc (Rounds.trusted_of? hv hrounds)) fun r hr => ?_
      refine .ite (couple_execAll hh hother) ?_
      refine couple_runRounds hh ht (fun loop hloop => ?_) hr (couple_execAll hh hbody)
      obtain ⟨-, hloop⟩ := Option.ite_none_right_eq_some.1 hloop
      cases hloop
      exact Bool.and_eq_true_iff.2 ⟨ht, hbody⟩
  | .set target e, hs => by
    simp only [all, Bool.and_eq_true] at hs
    exact .bind (Exec.couple_eval hh hs.2) fun v hv =>
      .bind (Target.couple_assign hh hs.1 hv) fun _ _ => .pure trivial
  | .setBlock target filters body, hs => by
    simp only [all, Bool.and_eq_true] at hs
    obtain ⟨⟨ht, hf⟩, hbody⟩ := hs
    refine .bind (.capture (couple_execAll hh hbody)) fun v hv => ?_
    refine .bind (couple_filtered hh hf hv) fun w hw => ?_
    exact .bind (Target.couple_assign hh ht hw) fun _ _ => .pure trivial
  | .withVars assignments body, hs => by
    simp only [all, Bool.and_eq_true] at hs
    refine .inFrame Frame.good_empty (.bind (.forM fun a ha => ?_) fun _ _ =>
      couple_execAll hh hs.2)
    have hassignment := List.all_eq_true.1 hs.1 a ha
    rw [Bool.and_eq_true] at hassignment
    exact .bind (Exec.couple_eval hh hassignment.2) fun v hv =>
      Target.couple_assign hh hassignment.1 hv
  | .autoescape e body, hs => by
    simp only [all, Bool.and_eq_true] at hs
    refine .bind (Exec.couple_eval hh hs.1) fun v _ => ?_
    split
    · refine .bind .get fun s _ => .bind (.modify fun s hs => hs.withOthers ..) fun _ _ => ?_
      refine .bind (couple_execAll hh hs.2) fun text _ => ?_
      exact .bind (.modify fun s hs => hs.withOthers ..) fun _ _ => .pure trivial
    · exact .fail
  | .filterBlock filters body, hs => by
    simp only [all, Bool.and_eq_true] at hs
    refine .bind (.capture (couple_execAll hh hs.2)) fun v hv => ?_
    exact .bind (couple_filtered hh hs.1 hv) fun w _ => .writeValue w
  | .block name _ _ _, _ => by
    refine .bind .get fun s hs => .ite (.pure trivial) ?_
    split
    · rename_i b hb
      exact BlockStack.couple_run hh (hs.block? hb)
    · exact .lift .fail
  | .doCall e, hs => .bind (Exec.couple_eval hh hs) fun _ _ => .pure trivial
  | .extendsFrom e, hs => .bind (Exec.couple_eval hh hs) fun v _ => couple_extendFrom hh v e.line
  | .includeFrom e ignoreMissing, hs =>
    .bind (Exec.couple_eval hh hs) fun v _ => couple_includeFirst hh v ignoreMissing e.line
  | .importAs e target, hs => by
    simp only [all, Bool.and_eq_true] at hs
    refine .bind (couple_importModule hh hs.1) fun v hv => ?_
    cases htarget : target.target? with
    | none => exact .fail
    | some t =>
      have ht : t.all S.tests = true := by simpa [htarget] using hs.2
      exact .bind (Target.couple_assign hh ht hv) fun _ _ => .pure trivial
  | .importNames e names, hs => by
    simp only [all, Bool.and_eq_true] at hs
    have hnames : ∀ n ∈ names, S.isVar n.1 = true ∧ S.tests.name (n.2.getD n.1) = true := by
      intro n hn
      have hpass := List.all_eq_true.1 hs.2 n hn
      rw [Bool.and_eq_true] at hpass
      exact ⟨S.isVar_of_expr hpass.1, hpass.2⟩
    have hvars : ∀ x ∈ names.map Prod.fst, S.isVar x = true := by
      intro x hx
      obtain ⟨n, hn, rfl⟩ := List.mem_map.1 hx
      exact (hnames n hn).1
    refine .bind (couple_importValues hh hs.1 hvars) fun vs hvs => ?_
    refine .bind (.forM fun r hr => .modify fun s hs => hs.set ?_) fun _ _ => .pure trivial
    obtain ⟨hv, hn⟩ := List.of_mem_zip (List.mem_reverse.1 hr)
    exact ⟨(hnames _ hn).2, hvs _ hv⟩
  | .macroDef name parameters defaults body, hs => by
    simp only [all, Bool.and_eq_true] at hs
    obtain ⟨⟨⟨hname, hparameters⟩, hdefaults⟩, hbody⟩ := hs
    have hcode : S.policy.code ⟨name, parameters, defaults, body⟩ = true := by
      simp [Setting.policy, Macro.passes, hparameters, hdefaults, hbody]
    exact .bind (Macro.couple_define hcode) fun v hv =>
      .bind (.modify fun s hs => hs.set ⟨hname, hv⟩) fun _ _ => .pure trivial
  | .callBlock e parameters defaults body, hs => by
    simp only [all, Bool.and_eq_true] at hs
    obtain ⟨⟨⟨hcall, hparameters⟩, hdefaults⟩, hbody⟩ := hs
    have hcode : S.policy.code ⟨Macro.callerName, parameters, defaults, body⟩ = true := by
      simp [Setting.policy, Macro.passes, hparameters, hdefaults, hbody]
    refine .bind (Macro.couple_define hcode) fun v hv => .bind .get fun s hs => ?_
    exact .bind (.lift (Expr.couple_evalCall_of_callParts hh hs hcall
      (List.forall_mem_singleton.2 hv))) fun w _ => .writeValue w

theorem couple_execAll (hh : h.Coupled S h') : ∀ {ss : List Stmt}, allOf S.tests ss = true →
    CoupleIn S (fun _ => True) (execAll h ss) (execAll h' ss)
  | [], _ => .pure trivial
  | s :: ss, hs => by
    rw [allOf, Bool.and_eq_true] at hs
    exact .bind (couple_exec hh hs.1) fun _ _ => .bind (couple_execAll hh hs.2) fun _ _ =>
      .pure trivial

end

theorem couple_runParent (hh : h.Coupled S h') (discarding : Bool) :
    CoupleIn S (fun _ => True) (runParent h discarding) (runParent h' discarding) := by
  refine .bind .get fun s hs => ?_
  split
  · exact .pure trivial
  · rename_i body hbody
    exact .bind (.modify fun s hs => hs.withOthers ..) fun _ _ => hh.run _ (hs.parent body hbody)

/-- A whole body goes alike, and the one that it extends. -/
theorem couple_runBody (hh : h.Coupled S h') {ss : List Stmt}
    (hs : allOf S.tests ss = true) :
    CoupleIn S (fun _ => True) (runBody h ss) (runBody h' ss) := by
  refine .bind .get fun before hbefore => ?_
  refine .bind (.modify fun s hs => hs.withParent (by simp)) fun _ _ => ?_
  refine .bind (couple_execAll hh hs) fun text _ => ?_
  refine .bind (couple_runParent hh _) fun rest _ => ?_
  exact .bind (.modify fun s hs => hs.withParent hbefore.parent) fun _ _ => .pure trivial

end Stmt

/-! ## Jumps -/

theorem Macro.couple_givenOr (hh : h.Coupled S h') {v : Value} (hv : v.Trusted S.policy)
    {default : Option Expr} (hdefault : default.all S.tests.expr = true) :
    CoupleIn S (Value.Trusted S.policy) (givenOr h v default) (givenOr h' v default) := by
  cases default with
  | none => exact .pure hv
  | some e => exact .ite (Exec.couple_eval hh hdefault) (.pure hv)

theorem Macro.couple_setParameters (hh : h.Coupled S h')
    {bindings : List (Text × Value × Option Expr)}
    (hb : ∀ b ∈ bindings, S.Variable (b.1, b.2.1) ∧ b.2.2.all S.tests.expr = true) :
    CoupleIn S (fun _ => True) (setParameters h bindings) (setParameters h' bindings) := by
  induction bindings with
  | nil => exact .pure trivial
  | cons b bindings ih =>
    rw [List.forall_mem_cons] at hb
    obtain ⟨⟨⟨hname, hv⟩, hdefault⟩, hmore⟩ := hb
    exact .bind (couple_givenOr hh hv hdefault) fun w hw =>
      .bind (.modify fun s hs => hs.set (v := w) ⟨hname, hw⟩) fun _ _ => ih hmore

theorem Macro.bindings_pass {code : Macro} (hcode : S.policy.code code = true)
    {values : List Value} (hvalues : ∀ v ∈ values, v.Trusted S.policy) :
    ∀ b ∈ code.bindings values, S.Variable (b.1, b.2.1) ∧ b.2.2.all S.tests.expr = true := by
  simp only [Setting.policy, Macro.passes, Bool.and_eq_true, List.all_eq_true] at hcode
  intro b hb
  obtain ⟨⟨⟨name, v⟩, i⟩, hmem, rfl⟩ := List.mem_map.1 hb
  obtain ⟨-, -, heq⟩ := List.mem_zipIdx hmem
  have hzip : (name, v) ∈ code.parameters.zip values :=
    List.mem_reverse.1 (heq ▸ List.getElem_mem _)
  obtain ⟨hname, hv⟩ := List.of_mem_zip hzip
  refine ⟨⟨hcode.1.1 name hname, hvalues v hv⟩, ?_⟩
  cases hdefault : code.defaults.reverse[i]? with
  | none => simp [hdefault]
  | some e =>
    have he := S.inMacro (hcode.1.2 e (List.mem_reverse.1 (List.mem_of_getElem? hdefault)))
    simpa [hdefault] using he

/-- **Jumps to code that passes the tests go alike.** -/
theorem Jump.couple_exec (hh : h.Coupled S h') {j : Jump} (hj : j.Passes S) :
    CoupleIn S (fun _ => True) (j.exec h) (j.exec h') := by
  cases j with
  | body ss => exact Stmt.couple_runBody hh hj
  | rounds loop items =>
    obtain ⟨hloop, hitems⟩ := hj
    have hcode := hloop
    rw [LoopCode.passes, Bool.and_eq_true] at hcode
    simp only [Jump.exec]
    split
    · exact .fail
    · rename_i r hr
      refine couple_runRounds hh hcode.1 (fun loop' heq => ?_) (Rounds.trusted_of? hitems hr)
        (Stmt.couple_execAll hh hcode.2)
      cases heq
      exact hloop
  | routine code values =>
    obtain ⟨hcode, hvalues⟩ := hj
    have hbody := hcode
    simp only [Setting.policy, Macro.passes, Bool.and_eq_true] at hbody
    exact .bind (Macro.couple_setParameters hh (Macro.bindings_pass hcode hvalues)) fun _ _ =>
      Stmt.couple_execAll hh (S.imply_within.stmts hbody.2)

/-! ## Templates -/

section

variable {library : Library} {invoker invoker' : Invoker} {data data' : Value}

/-- Hosts whose jumps are run are coupled if they fit and special expressions go alike. -/
theorem Host.coupled_of (hfits : ∀ levels, (Host.of library invoker data levels).Fits S
      (Host.of library invoker' data' levels))
    (hspecial : ∀ levels, (Host.of library invoker data levels).Special S
      (Host.of library invoker' data' levels)) : ∀ levels,
      (Host.of library invoker data levels).Coupled S (Host.of library invoker' data' levels)
  | 0 => ⟨hfits 0, hspecial 0, fun _ _ => .lift .fail⟩
  | levels + 1 => ⟨hfits (levels + 1), hspecial (levels + 1), fun _ hj =>
      Jump.couple_exec (coupled_of hfits hspecial levels) hj⟩

/-- **Templates that pass the tests are rendered alike.** -/
theorem couple_render (hfits : ∀ levels, (Host.of library invoker data levels).Fits S
      (Host.of library invoker' data' levels))
    (hspecial : ∀ levels, (Host.of library invoker data levels).Special S
      (Host.of library invoker' data' levels)) (name : Text) {body : List Stmt}
    (hbody : Stmt.allOf S.tests body = true) :
    Couple S (Same fun _ => True) (render library invoker name body data)
      (render library invoker' name body data') := by
  have hstart := Scope.good_start (S := S) name (Stmt.all_of_mem_allBlocks hbody)
  refine Couple.toEnd ?_
  exact (Stmt.couple_runBody (Host.coupled_of hfits hspecial _) hbody _ hstart).bindSame
    fun _ _ => .pure (.of trivial)

end

end Componentry.Template
