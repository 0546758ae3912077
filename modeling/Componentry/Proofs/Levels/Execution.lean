import Componentry.Proofs.Levels.Evaluation

/-! # Levels are enough

Jumps are run by a host of so many levels, and below these anything may stand
(`Host.above`).  Two such hosts agree on all levels that both have, by induction on them: what
statements do is the same in hosts that agree (`Stmt.steps_exec`), so a jump that runs in the
one runs alike in the other, one level up.  The scope at the start of a template needs fewer
levels than the library has (`Library.levels`).  So what stands below is never reached: a
template is rendered the same on every larger number of levels, with anything below them
(`renderAbove_eq`), which is to say that its run ends by itself.
-/
namespace Componentry.Template

open Exec

variable {names : List Text} {levels : Nat} {h h' : Host} {s : Scope}

/-! ## Assignments -/

theorem steps_eval (hh : h.Agree names levels h') (e : Expr) :
    Steps names levels (Exec.eval h e) (Exec.eval h' e) :=
  fun s hs => .get_bind (.lift (Expr.eval_congr hh hs e) (.refl s))

mutual

theorem Target.steps_assign (hh : h.Agree names levels h') (v : Value) :
    ∀ t : Target, Steps names levels (t.assign h v) (t.assign h' v)
  | .var name => .change fun _ hs => Scope.leads_set hs name v
  | .member object name => by
    refine .bind (steps_eval hh object) fun w => ?_
    split
    · exact .lift rfl
    · exact .fail
  | .list targets line => by
    unfold assign
    split
    · exact .ite (Target.steps_assignAll hh _ targets) .fail
    · exact .fail
termination_by structural t => t

theorem Target.steps_assignAll (hh : h.Agree names levels h') :
    ∀ (values : List Value) (targets : List Target),
      Steps names levels (assignAll h values targets) (assignAll h' values targets)
  | v :: values, t :: targets =>
    .bind (Target.steps_assign hh v t) fun _ => Target.steps_assignAll hh values targets
  | [], targets => by cases targets <;> exact .pure ()
  | _ :: _, [] => .pure ()
termination_by structural _ ts => ts

end

section Parts

variable (hh : h.Agree names levels h')

include hh

/-! ## Loops -/

theorem steps_selectRounds (target : Target) (condition : Option Expr) (rounds : Rounds) :
    Steps names levels (selectRounds h target condition rounds)
      (selectRounds h' target condition rounds) := by
  cases condition with
  | none => exact .pure rounds
  | some test =>
    refine .bind .get fun s => .inFrame (.bind (.filterM fun v _ => ?_) fun items => .pure _)
    exact .bind (target.steps_assign hh v) fun _ => .bind (steps_eval hh test) fun w => .pure _

theorem steps_loopOver {target : Target} {value : Nat → Value} {body body' : Exec Text}
    (hbody : Steps names levels body body') (items : List (Value × Nat)) :
    Steps names levels (loopOver h target value body items)
      (loopOver h' target value body' items) := by
  induction items with
  | nil => exact .pure []
  | cons item items ih =>
    obtain ⟨v, i⟩ := item
    refine .bind (.change fun s hs => Scope.leads_modifyFrame hs _) fun _ => ?_
    refine .bind (target.steps_assign hh v) fun _ => .bind hbody fun text => ?_
    exact .bind ih fun rest => .pure _

theorem steps_runRounds (target : Target) (code : Option LoopCode) (rounds : Rounds)
    {body body' : Exec Text} (hbody : Steps names levels body body') :
    Steps names levels (runRounds h target code rounds body)
      (runRounds h' target code rounds body') :=
  .bind .get fun _ => .bind (.lift rfl) fun _ => .inFrame (steps_loopOver hh hbody _)

theorem steps_applyFilters (filters : List FilterCall) : ∀ (line : Nat) (v : Value),
    Steps names levels (applyFilters h line v filters) (applyFilters h' line v filters) := by
  induction filters with
  | nil => exact fun line v => .pure v
  | cons f filters ih =>
    intro line v s hs
    refine .get_bind ?_
    dsimp only
    refine .lift_bind (Expr.evalArguments_congr hh hs _ _) fun positional => ?_
    refine .lift_bind (Expr.evalArguments_congr hh hs _ _) fun named => ?_
    exact .lift_bind rfl fun w => ih _ w s hs

theorem steps_filtered (v : Value) (filters : List FilterCall) :
    Steps names levels (filtered h v filters) (filtered h' v filters) := by
  cases filters with
  | nil => exact .pure v
  | cons f filters => exact steps_applyFilters hh _ _ v

/-! ## Other templates -/

theorem steps_includeFirst (v : Value) (ignoreMissing : Bool) (line : Nat) :
    Steps names levels (includeFirst h v ignoreMissing line)
      (includeFirst h' v ignoreMissing line) := by
  intro s hs
  refine .lift_bind (by rw [hh.library]) fun found => ?_
  cases found with
  | none => exact .ite (fun _ => .pure (.refl s)) fun _ => .fail rfl rfl
  | some body =>
    refine .get_bind (.guardNesting_bind fun hlimit => .modify_bind ?_)
    have hlength : (s.included body).frames.length = s.frames.length :=
      Scope.length_modifyFrame hs.frames _
    have hframes : (s.included body).frames ≠ [] := by
      rw [← List.length_pos_iff, hlength]
      exact List.length_pos_iff.2 hs.frames
    have hparent : (s.included body).parent = s.parent := Scope.modifyFrame_parent ..
    have hdeeper : s.nesting < (s.included body).nesting := by
      rw [Scope.nesting, Scope.nesting, hlength, Scope.included]
      simp [includeDepth]
    refine (hh.body body _ hframes (hs.body (by omega) hdeeper)).bind fun text t ht => ?_
    refine .modify_bind (.pure (Scope.leads_behindIncluded hs.frames ht.1 ?_))
    rw [ht.2, hparent]

theorem steps_extendFrom (v : Value) (line : Nat) :
    Steps names levels (extendFrom h v line) (extendFrom h' v line) := by
  intro s hs
  refine .get_bind ?_
  split
  · rename_i name hparent _
    refine .get_bind ?_
    cases hloaded : s.loaded.contains name with
    | true => exact .fail rfl rfl
    | false =>
      rw [hh.find? name]
      cases hfind : h'.library.find? name with
      | none => exact .fail rfl rfl
      | some body =>
        have hname : name ∈ names := hh.listed name body ((hh.find? name).trans hfind)
        exact .modify_bind (.pure (Scope.leads_extend hname hloaded hparent body))
  · exact .fail rfl rfl

theorem steps_importModule (e : Expr) :
    Steps names levels (importModule h e) (importModule h' e) := by
  refine .inFrame (.bind (.capture ?_) fun text => .bind .get fun s => .pure _)
  exact .bind (steps_eval hh e) fun v => steps_includeFirst hh v false e.line

theorem steps_importValues (e : Expr) (ns : List Text) :
    Steps names levels (importValues h e ns) (importValues h' e ns) := by
  refine .inFrame (.bind .get fun before => .bind (.setDiscarding true) fun _ => ?_)
  refine .bind (steps_eval hh e) fun v => .bind (steps_includeFirst hh v false e.line) fun _ => ?_
  refine .bind .get fun after => .bind (.mapM fun name _ => .lift ?_) fun values => ?_
  · rw [hh.data]
  · exact .bind (.setDiscarding _) fun _ => .pure _

end Parts

/-! ## Macros -/

theorem Macro.steps_closure (code : Macro) : Steps names levels code.closure code.closure := by
  intro s hs
  refine .get_bind ?_
  split
  · exact .pure (.refl s)
  · refine .lift_bind rfl fun number => .modify_bind (.pure ?_)
    have hadded : s.Leads names (s.addClosure number) := ⟨rfl, rfl, Nat.le_refl _⟩
    exact hadded.trans (Scope.leads_modifyFrame (hadded.frames_ne_nil hs.frames) _)

theorem Macro.steps_define (code : Macro) : Steps names levels code.define code.define :=
  .bind code.steps_closure fun number =>
    .bind (.change fun s _ => Scope.leads_encloseAll number _ s) fun _ => .pure _

theorem Macro.steps_setParameters (hh : h.Agree names levels h')
    (bindings : List (Text × Value × Option Expr)) :
    Steps names levels (setParameters h bindings) (setParameters h' bindings) := by
  induction bindings with
  | nil => exact .pure ()
  | cons binding bindings ih =>
    obtain ⟨name, v, default⟩ := binding
    have hgiven : Steps names levels (givenOr h v default) (givenOr h' v default) := by
      cases default with
      | none => exact .pure v
      | some e => exact .ite (steps_eval hh e) (.pure v)
    refine .bind hgiven fun w => .bind (.change fun s hs => ?_) fun _ => ih
    exact Scope.leads_set hs name w

/-! ## Statements -/

namespace Stmt

mutual

/-- **A statement does the same in both hosts.** -/
theorem steps_exec (hh : h.Agree names levels h') :
    ∀ s : Stmt, Steps names levels (exec h s) (exec h' s)
  | data text => .write text
  | emit e => .bind (steps_eval hh e) .writeValue
  | ifElse test yes no =>
    .bind (steps_eval hh test) fun _ => .ite (steps_execAll hh yes) (steps_execAll hh no)
  | forEach target e condition recursive body otherwise => by
    refine .bind (steps_eval hh e) fun v => ?_
    split
    · exact .fail
    · refine .bind (steps_selectRounds hh target condition _) fun selected => ?_
      exact .ite (steps_execAll hh otherwise)
        (steps_runRounds hh target _ selected (steps_execAll hh body))
  | set target e =>
    .bind (steps_eval hh e) fun v => .bind (target.steps_assign hh v) fun _ => .pure _
  | setBlock target filters body =>
    .bind (.capture (steps_execAll hh body)) fun v => .bind (steps_filtered hh v filters) fun w =>
      .bind (target.steps_assign hh w) fun _ => .pure _
  | withVars assignments body => by
    refine .inFrame (.bind (.forM fun a _ => ?_) fun _ => steps_execAll hh body)
    exact .bind (steps_eval hh a.2) fun v => a.1.steps_assign hh v
  | autoescape enabled body => by
    refine .bind (steps_eval hh enabled) fun v => ?_
    split
    · refine .bind .get fun before => .bind (.setEscaping _) fun _ => ?_
      exact .bind (steps_execAll hh body) fun text => .bind (.setEscaping _) fun _ => .pure _
    · exact .fail
  | filterBlock filters body =>
    .bind (.capture (steps_execAll hh body)) fun v =>
      .bind (steps_filtered hh v filters) .writeValue
  | block name _ _ _ => by
    refine .bind .get fun s => .ite (.pure _) ?_
    split
    · exact hh.steps_block _
    · exact .lift rfl
  | doCall e => .bind (steps_eval hh e) fun _ => .pure _
  | extendsFrom e => .bind (steps_eval hh e) fun v => steps_extendFrom hh v e.line
  | includeFrom e ignoreMissing =>
    .bind (steps_eval hh e) fun v => steps_includeFirst hh v ignoreMissing e.line
  | importAs e target => by
    refine .bind (steps_importModule hh e) fun v => ?_
    split
    · exact .bind (Target.steps_assign hh v _) fun _ => .pure _
    · exact .fail
  | importNames e ns => by
    refine .bind (steps_importValues hh e _) fun values => ?_
    refine .bind (.forM fun a _ => ?_) fun _ => .pure _
    exact .change fun s hs => Scope.leads_set hs _ _
  | macroDef name parameters defaults body =>
    .bind (Macro.steps_define _) fun v =>
      .bind (.change fun s hs => Scope.leads_set hs name v) fun _ => .pure _
  | callBlock e parameters defaults body => by
    refine .bind (Macro.steps_define _) fun v => fun s hs => .get_bind ?_
    exact .lift_bind (Expr.evalCall_congr hh hs e _) fun w => Steps.writeValue w s hs
termination_by structural s => s

theorem steps_execAll (hh : h.Agree names levels h') :
    ∀ ss : List Stmt, Steps names levels (execAll h ss) (execAll h' ss)
  | [] => .pure []
  | s :: more =>
    .bind (steps_exec hh s) fun _ => .bind (steps_execAll hh more) fun _ => .pure _
termination_by structural ss => ss

end

/-- A body that has been extended is one less to be run. -/
theorem same_runParent (hh : h.Agree names levels h') (hs : s.Fits names levels)
    (discarding : Bool) :
    Same (runParent h discarding) (runParent h' discarding) s fun t =>
      s.Leads names t ∧ t.parent = s.parent := by
  refine .get_bind ?_
  split
  · exact .pure ⟨.refl s, rfl⟩
  · rename_i body hparent
    have hbefore : s.need names = s.needOfBody names + 1 := by
      rw [Scope.needOfBody, Scope.need, Scope.need, Scope.left, Scope.left, hparent]
      rfl
    have hneed := hs.need
    rw [hbefore] at hneed
    have hjump := hh.body body { s with discarding } hs.frames hneed
    exact .modify_bind (hjump.weaken fun t ht => ⟨⟨ht.1.depth, ht.1.frames, ht.1.left⟩, ht.2⟩)

/-- **So does a whole body**, whose parent is run one level deeper. -/
theorem same_runBody (hh : h.Agree names levels h') (ss : List Stmt) (hframes : s.frames ≠ [])
    (hneed : s.needOfBody names < levels) :
    Same (runBody h ss) (runBody h' ss) s fun t => s.Leads names t ∧ t.parent = s.parent := by
  refine .get_bind (.modify_bind ?_)
  have hfits : Scope.Fits names levels { s with parent := none } := ⟨hframes, hneed⟩
  refine (steps_execAll hh ss _ hfits).bind fun text t ht => ?_
  refine (same_runParent hh (hfits.leads ht) _).bind fun rest u hu => .modify_bind (.pure ?_)
  have htu := ht.trans hu.1
  refine ⟨⟨htu.depth, htu.frames, ?_⟩, rfl⟩
  have hleft := htu.left
  unfold Scope.left at hleft ⊢
  dsimp only at hleft ⊢
  split <;> simp_all <;> omega

end Stmt

/-! ## Jumps -/

/-- Jumps run alike one level up. -/
theorem Host.Agree.succ (hh : h.Agree names levels h') :
    Host.Agree names (levels + 1) ⟨h.invoker, h.library, h.data, fun j => j.exec h⟩
      ⟨h'.invoker, h'.library, h'.data, fun j => j.exec h'⟩ where
  invoker := hh.invoker
  library := hh.library
  data := hh.data
  listed := hh.listed
  body ss s hframes hneed := Stmt.same_runBody hh ss hframes (by omega)
  rounds loop items s hs := by
    have hrun : Same (Jump.exec h (.rounds loop items)) (Jump.exec h' (.rounds loop items)) s
        (s.Leads names) := by
      unfold Jump.exec
      dsimp only
      split
      · exact .fail rfl rfl
      · refine .get_bind (.lift_bind rfl fun cell => .inFrame fun hlimit => ?_)
        refine steps_loopOver hh (Stmt.steps_execAll hh loop.body) _ _ ⟨by simp [Scope.push], ?_⟩
        exact Nat.lt_of_lt_of_le (Scope.need_push_lt hlimit _) (Nat.le_of_lt_succ hs.need)
    exact hrun.eq
  routine code values s hframes hneed := by
    have hfits : s.Fits names levels := ⟨hframes, by omega⟩
    have hsteps : Steps names levels (Jump.exec h (.routine code values))
        (Jump.exec h' (.routine code values)) :=
      .bind (Macro.steps_setParameters hh _) fun _ => Stmt.steps_execAll hh code.body
    exact (hsteps s hfits).eq

/-! ## Levels -/

/-- The host of so many levels, below which anything runs the jumps. -/
def Host.above (bottom : Jump → Exec Text) (library : Library) (invoker : Invoker) (data : Value) :
    (levels : Nat) → Host
  | 0 => ⟨invoker, library, data, bottom⟩
  | levels + 1 =>
    ⟨invoker, library, data, fun j => j.exec (above bottom library invoker data levels)⟩

namespace Host

variable (bottom : Jump → Exec Text) (library : Library) (invoker : Invoker) (data : Value)

@[simp] theorem above_invoker (levels : Nat) :
    (above bottom library invoker data levels).invoker = invoker := by
  cases levels <;> rfl

@[simp] theorem above_library (levels : Nat) :
    (above bottom library invoker data levels).library = library := by
  cases levels <;> rfl

@[simp] theorem above_data (levels : Nat) :
    (above bottom library invoker data levels).data = data := by
  cases levels <;> rfl

theorem of_eq_above (levels : Nat) : of library invoker data levels =
    above (fun _ => Run.fail .invalidOperation) library invoker data levels := by
  induction levels with
  | zero => rfl
  | succ levels ih => rw [of, above, ih]

variable {library} in
/-- Hosts agree on the levels that both have. -/
theorem agree_above (hlisted : ∀ name body, library.find? name = some body → name ∈ names)
    (bottom' : Jump → Exec Text) (levels more : Nat) :
    Agree names levels (above bottom library invoker data levels)
      (above bottom' library invoker data (levels + more)) := by
  induction levels with
  | zero =>
    refine ⟨by simp, by simp, by simp, by simpa using hlisted, ?_, ?_, ?_⟩
    · exact fun _ _ _ hneed => absurd hneed (Nat.not_lt_zero _)
    · exact fun _ _ _ hs => absurd hs.need (Nat.not_lt_zero _)
    · exact fun _ _ _ _ hneed => absurd hneed (Nat.not_lt_zero _)
  | succ levels ih =>
    have hsucc := ih.succ
    rw [Nat.succ_add]
    simpa only [above, above_invoker, above_library, above_data] using hsucc

end Host

/-- Renders a template on so many levels, below which anything runs the jumps. -/
def renderAbove (bottom : Jump → Exec Text) (levels : Nat) (library : Library) (invoker : Invoker)
    (name : Text) (body : List Stmt) (data : Value) : Run Text := Run.toEnd do
  let h := Host.above bottom library invoker data levels
  let (text, _) ← (Stmt.runBody h body).run (.start name (Stmt.allBlocks body))
  return text

/-- At the start of a template fewer levels are needed than the library has. -/
theorem Library.needOfBody_start {library : Library} (hlength : names.length = library.size)
    (name : Text) (blocks : List BlockStack) :
    (Scope.start name blocks).needOfBody names < library.levels := by
  have hleft := Scope.left_le names (.start name blocks)
  have hneed : (Scope.start name blocks).needOfBody names =
      recursionLimit * (names.length + 2) + (Scope.start name blocks).left names := rfl
  rw [hneed, Library.levels, ← hlength, Nat.succ_mul]
  omega

/-- **A template is rendered the same on every larger number of levels**, with anything below
them. -/
theorem renderAbove_eq (bottom : Jump → Exec Text) {levels : Nat} {library : Library}
    (hlevels : library.levels ≤ levels) (invoker : Invoker) (name : Text) (body : List Stmt)
    (data : Value) :
    renderAbove bottom levels library invoker name body data =
      render library invoker name body data := by
  obtain ⟨names, hlength, hnames⟩ := library.bounded
  obtain ⟨more, rfl⟩ := Nat.exists_eq_add_of_le hlevels
  have hlisted : ∀ name body, library.find? name = some body → name ∈ names :=
    fun name body hfind => hnames name (by rw [hfind]; rfl)
  have hagree := Host.agree_above (fun _ => Run.fail .invalidOperation) invoker data hlisted bottom
    library.levels more
  have hsame := Stmt.same_runBody hagree body (s := .start name (Stmt.allBlocks body))
    (List.cons_ne_nil _ _) (Library.needOfBody_start hlength _ _)
  unfold renderAbove render
  dsimp only
  rw [Host.of_eq_above, hsame.eq]

end Componentry.Template
