import Componentry.Template.Exec

/-! # Code that passes tests

What is asked of a piece of template: of its expressions, of the expressions in the macros
that it defines, and of the names that it sets (`Tests`).  Statements pass if all that they
may run does (`Stmt.all`); what an expression is made of is tested by `Expr.parts`.
-/
namespace Componentry.Template

/-- What is asked of code. -/
structure Tests where
  /-- Of expressions. -/
  expr : Expr → Bool
  /-- Of the expressions in macros. -/
  inMacro : Expr → Bool
  /-- Of the names that are set. -/
  name : Text → Bool

/-- What is asked of the code of a macro. -/
def Tests.within (t : Tests) : Tests := { t with expr := t.inMacro }

/-- The expression that is computed when another is called. -/
def Expr.called : Expr → Expr
  | member a _ => a
  | f => f

/-- Whether the parts of an expression pass a test, and the names in it: those of variables
and those that are called. -/
def Expr.parts (q : Expr → Bool) (isVar isCallee : Text → Bool) : Expr → Bool
  | var name _ => isVar name
  | const .. => true
  | list items _ => items.all q
  | map pairs _ => pairs.all fun e => q e.1 && q e.2
  | unary _ a _ => q a
  | binary _ a b _ => q a && q b
  | compare a rest _ => q a && rest.all fun e => q e.2
  | ifElse condition yes no => q condition && q yes && no.all q
  | filter _ a arguments | test _ a arguments => q a && arguments.all fun e => q e.2
  | member a _ => q a
  | item a key => q a && q key
  | slice a start stop step => q a && start.all q && stop.all q && step.all q
  | call (var name _) arguments => isCallee name && arguments.all fun e => q e.2
  | call f arguments => q f.called && arguments.all fun e => q e.2

/-- Whether the parts of a call pass a test. -/
def Expr.callParts (q : Expr → Bool) : Expr → Bool
  | call f arguments => q f.called && arguments.all fun e => q e.2
  | e => q e

namespace Target

mutual

/-- Whether a target passes tests. -/
def all (t : Tests) : Target → Bool
  | var name => t.name name
  | member object _ => t.expr object
  | list targets _ => allOf t targets
termination_by structural target => target

/-- Whether all targets pass tests. -/
def allOf (t : Tests) : List Target → Bool
  | [] => true
  | target :: more => all t target && allOf t more
termination_by structural targets => targets

end

end Target

/-- Whether the arguments of filters pass a test. -/
def allFilters (q : Expr → Bool) (filters : List FilterCall) : Bool :=
  filters.all fun f => f.arguments.all fun a => q a.2

namespace Stmt

mutual

/-- Whether all that running a statement may run passes tests. -/
def all (t : Tests) : Stmt → Bool
  | data _ => true
  | emit e | doCall e => t.expr e
  | ifElse test yes no => t.expr test && allOf t yes && allOf t no
  | forEach target e condition _ body otherwise =>
    target.all t && t.expr e && condition.all t.expr && allOf t body && allOf t otherwise
  | set target e => target.all t && t.expr e
  | setBlock target filters body => target.all t && allFilters t.expr filters && allOf t body
  | withVars assignments body =>
    (assignments.all fun a => a.1.all t && t.expr a.2) && allOf t body
  | autoescape e body => t.expr e && allOf t body
  | filterBlock filters body => allFilters t.expr filters && allOf t body
  | block _ _ _ body => allOf t body
  | extendsFrom e | includeFrom e _ => t.expr e
  | importAs e target => t.expr e && target.target?.all fun target => target.all t
  | importNames e names =>
    t.expr e && names.all fun n => t.expr (.var n.1 0) && t.name (n.2.getD n.1)
  | macroDef name parameters defaults body =>
    t.name name && parameters.all t.name && defaults.all t.inMacro && allOf t.within body
  | callBlock e parameters defaults body =>
    e.callParts t.expr && parameters.all t.name && defaults.all t.inMacro && allOf t.within body
termination_by structural s => s

/-- Whether all that running statements may run passes tests. -/
def allOf (t : Tests) : List Stmt → Bool
  | [] => true
  | s :: more => all t s && allOf t more
termination_by structural ss => ss

end

end Stmt

/-- Whether the code of a macro passes tests. -/
def Macro.passes (t : Tests) (code : Macro) : Bool :=
  code.parameters.all t.name && code.defaults.all t.inMacro && Stmt.allOf t.within code.body

/-- Whether the code of a loop passes tests. -/
def LoopCode.passes (t : Tests) (loop : LoopCode) : Bool :=
  loop.target.all t && Stmt.allOf t loop.body

/-! ## Tests that everything passes -/

/-- The tests that ask nothing. -/
def Tests.none : Tests := ⟨fun _ => true, fun _ => true, fun _ => true⟩

namespace Tests

@[simp] theorem none_expr : none.expr = fun _ => true := rfl
@[simp] theorem none_inMacro : none.inMacro = fun _ => true := rfl
@[simp] theorem none_name : none.name = fun _ => true := rfl
@[simp] theorem none_within : none.within = none := rfl

end Tests

@[simp] theorem Expr.parts_of_all (e : Expr) :
    e.parts (fun _ => true) (fun _ => true) (fun _ => true) = true := by
  unfold Expr.parts
  split <;> simp

@[simp] theorem Expr.callParts_of_all (e : Expr) : e.callParts (fun _ => true) = true := by
  cases e <;> simp [callParts]

@[simp] theorem allFilters_of_all (filters : List FilterCall) :
    allFilters (fun _ => true) filters = true := by
  simp [allFilters]

namespace Target

mutual

@[simp] theorem all_none : ∀ target : Target, target.all .none = true
  | var _ | member .. => rfl
  | list targets _ => allOf_none targets

theorem allOf_none : ∀ targets : List Target, allOf .none targets = true
  | [] => rfl
  | t :: ts => by simp [allOf, all_none t, allOf_none ts]

end

end Target

namespace Stmt

mutual

theorem all_none : ∀ s : Stmt, s.all .none = true
  | data _ | emit _ | doCall _ | extendsFrom _ | includeFrom .. => rfl
  | ifElse test yes no => by simp [all, allOf_none yes, allOf_none no]
  | forEach target e condition recursive body otherwise => by
    cases condition <;> simp [all, allOf_none body, allOf_none otherwise]
  | set target e => by simp [all]
  | setBlock target filters body | withVars assignments body | autoescape e body
  | filterBlock filters body => by simp [all, allOf_none body]
  | block _ _ _ body => allOf_none body
  | importAs e target => by cases h : target.target? <;> simp [all, h]
  | importNames e names => by simp [all]
  | macroDef name parameters defaults body | callBlock e parameters defaults body => by
    simp [all, allOf_none body]

/-- **All statements pass tests that ask nothing.** -/
@[simp] theorem allOf_none : ∀ ss : List Stmt, allOf .none ss = true
  | [] => rfl
  | s :: ss => by simp [allOf, all_none s, allOf_none ss]

end

end Stmt

/-! ## Weaker tests -/

/-- Tests that let through what others do. -/
structure Tests.Imply (t u : Tests) : Prop where
  expr : ∀ e, t.expr e = true → u.expr e = true
  inMacro : ∀ e, t.inMacro e = true → u.inMacro e = true
  name : ∀ x, t.name x = true → u.name x = true

namespace Tests.Imply

variable {t u : Tests}

theorem within (h : t.Imply u) : t.within.Imply u.within := ⟨h.inMacro, h.inMacro, h.name⟩

theorem all {α : Type} {f g : α → Bool} (h : ∀ a, f a = true → g a = true) {l : List α}
    (hl : l.all f = true) : l.all g = true :=
  List.all_eq_true.2 fun a ha => h a (List.all_eq_true.1 hl a ha)

theorem option {α : Type} {f g : α → Bool} (h : ∀ a, f a = true → g a = true) {o : Option α}
    (ho : o.all f = true) : o.all g = true := by
  cases o with
  | none => rfl
  | some a => exact h a ho

theorem filters (h : t.Imply u) {filters : List FilterCall}
    (hf : allFilters t.expr filters = true) : allFilters u.expr filters = true := by
  rw [allFilters, List.all_eq_true] at hf ⊢
  exact fun f hmem => all (fun (a : ArgumentKind × Expr) => h.expr a.2) (hf f hmem)

theorem callParts (h : t.Imply u) {e : Expr} (he : e.callParts t.expr = true) :
    e.callParts u.expr = true := by
  cases e with
  | call f arguments =>
    simp only [Expr.callParts, Bool.and_eq_true] at he ⊢
    exact ⟨h.expr f.called he.1, all (fun (a : ArgumentKind × Expr) => h.expr a.2) he.2⟩
  | _ => exact h.expr _ he

mutual

theorem target (h : t.Imply u) : ∀ {target : Target}, target.all t = true → target.all u = true
  | .var name, hname => h.name name hname
  | .member object _, hobject => h.expr object hobject
  | .list _ _, htargets => targets h htargets

theorem targets (h : t.Imply u) :
    ∀ {ts : List Target}, Target.allOf t ts = true → Target.allOf u ts = true
  | [], _ => rfl
  | _ :: _, hts => by
    simp only [Target.allOf, Bool.and_eq_true] at hts ⊢
    exact ⟨target h hts.1, targets h hts.2⟩

end

mutual

/-- **What passes tests passes weaker ones.** -/
theorem stmt : ∀ {t u : Tests}, t.Imply u → ∀ {s : Stmt}, s.all t = true → s.all u = true
  | _, _, _, .data _, _ => rfl
  | _, _, h, .emit e, hs | _, _, h, .doCall e, hs | _, _, h, .extendsFrom e, hs
  | _, _, h, .includeFrom e _, hs => h.expr e hs
  | _, _, h, .ifElse test yes no, hs => by
    simp only [Stmt.all, Bool.and_eq_true] at hs ⊢
    exact ⟨⟨h.expr test hs.1.1, stmts h hs.1.2⟩, stmts h hs.2⟩
  | _, _, h, .forEach target e condition _ body otherwise, hs => by
    simp only [Stmt.all, Bool.and_eq_true] at hs ⊢
    obtain ⟨⟨⟨⟨ht, he⟩, hc⟩, hbody⟩, hother⟩ := hs
    exact ⟨⟨⟨⟨h.target ht, h.expr e he⟩, option h.expr hc⟩, stmts h hbody⟩, stmts h hother⟩
  | _, _, h, .set target e, hs => by
    simp only [Stmt.all, Bool.and_eq_true] at hs ⊢
    exact ⟨h.target hs.1, h.expr e hs.2⟩
  | _, _, h, .setBlock target filters body, hs => by
    simp only [Stmt.all, Bool.and_eq_true] at hs ⊢
    exact ⟨⟨h.target hs.1.1, h.filters hs.1.2⟩, stmts h hs.2⟩
  | _, _, h, .withVars assignments body, hs => by
    simp only [Stmt.all, Bool.and_eq_true] at hs ⊢
    refine ⟨all (fun a ha => ?_) hs.1, stmts h hs.2⟩
    simp only [Bool.and_eq_true] at ha ⊢
    exact ⟨h.target ha.1, h.expr a.2 ha.2⟩
  | _, _, h, .autoescape e body, hs => by
    simp only [Stmt.all, Bool.and_eq_true] at hs ⊢
    exact ⟨h.expr e hs.1, stmts h hs.2⟩
  | _, _, h, .filterBlock filters body, hs => by
    simp only [Stmt.all, Bool.and_eq_true] at hs ⊢
    exact ⟨h.filters hs.1, stmts h hs.2⟩
  | _, u, h, .block _ _ _ body, hs => by
    have hbody : Stmt.allOf u body = true := stmts h hs
    exact hbody
  | _, _, h, .importAs e target, hs => by
    simp only [Stmt.all, Bool.and_eq_true] at hs ⊢
    exact ⟨h.expr e hs.1, option (fun _ => h.target) hs.2⟩
  | _, _, h, .importNames e names, hs => by
    simp only [Stmt.all, Bool.and_eq_true] at hs ⊢
    refine ⟨h.expr e hs.1, all (fun n hn => ?_) hs.2⟩
    simp only [Bool.and_eq_true] at hn ⊢
    exact ⟨h.expr _ hn.1, h.name _ hn.2⟩
  | _, _, h, .macroDef name parameters defaults body, hs => by
    simp only [Stmt.all, Bool.and_eq_true] at hs ⊢
    obtain ⟨⟨⟨hname, hparameters⟩, hdefaults⟩, hbody⟩ := hs
    exact ⟨⟨⟨h.name name hname, all h.name hparameters⟩, all h.inMacro hdefaults⟩,
      stmts h.within hbody⟩
  | _, _, h, .callBlock e parameters defaults body, hs => by
    simp only [Stmt.all, Bool.and_eq_true] at hs ⊢
    obtain ⟨⟨⟨hcall, hparameters⟩, hdefaults⟩, hbody⟩ := hs
    exact ⟨⟨⟨h.callParts hcall, all h.name hparameters⟩, all h.inMacro hdefaults⟩,
      stmts h.within hbody⟩

theorem stmts : ∀ {t u : Tests}, t.Imply u → ∀ {ss : List Stmt},
    Stmt.allOf t ss = true → Stmt.allOf u ss = true
  | _, _, _, [], _ => rfl
  | _, _, h, s :: ss, hs => by
    simp only [Stmt.allOf, Bool.and_eq_true] at hs ⊢
    exact ⟨stmt h hs.1, stmts h hs.2⟩

end

end Tests.Imply

/-! ## Blocks -/

namespace Stmt

mutual

/-- The blocks in statements that pass tests pass them. -/
theorem all_of_mem_blocks {t : Tests} : ∀ {s : Stmt}, s.all t = true →
    ∀ b ∈ s.blocks, ∀ l ∈ b.layers, allOf t l.body = true
  | .block name required line body, hs => by
    have hbody : allOf t body = true := hs
    exact List.forall_mem_cons.2 ⟨List.forall_mem_singleton.2 hbody, all_of_mem_allBlocks hbody⟩
  | .ifElse test yes no, hs => by
    simp only [all, Bool.and_eq_true] at hs
    intro b hb
    rcases List.mem_append.1 hb with hb | hb
    · exact all_of_mem_allBlocks hs.1.2 b hb
    · exact all_of_mem_allBlocks hs.2 b hb
  | .forEach target e condition _ body otherwise, hs => by
    simp only [all, Bool.and_eq_true] at hs
    intro b hb
    rcases List.mem_append.1 hb with hb | hb
    · exact all_of_mem_allBlocks hs.1.2 b hb
    · exact all_of_mem_allBlocks hs.2 b hb
  | .setBlock target filters body, hs | .withVars assignments body, hs | .autoescape e body, hs
  | .filterBlock filters body, hs => by
    simp only [all, Bool.and_eq_true] at hs
    have hbody : allOf t body = true := hs.2
    exact all_of_mem_allBlocks hbody
  | .data _, _ | .emit _, _ | .set .., _ | .extendsFrom _, _ | .includeFrom .., _
  | .importAs .., _ | .importNames .., _ | .macroDef .., _ | .callBlock .., _ | .doCall _, _ => by
    simp [blocks]

theorem all_of_mem_allBlocks {t : Tests} : ∀ {ss : List Stmt}, allOf t ss = true →
    ∀ b ∈ allBlocks ss, ∀ l ∈ b.layers, allOf t l.body = true
  | [], _ => by simp [allBlocks]
  | s :: ss, hs => by
    simp only [allOf, Bool.and_eq_true] at hs
    intro b hb
    rcases List.mem_append.1 hb with hb | hb
    · exact all_of_mem_blocks hs.1 b hb
    · exact all_of_mem_allBlocks hs.2 b hb

end

end Stmt

end Componentry.Template
