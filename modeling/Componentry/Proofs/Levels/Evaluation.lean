import Componentry.Proofs.Levels.Runs

/-! # Calls and expressions on levels that are enough

Two hosts **agree** on a number of levels if they run those jumps alike whose scope needs fewer
(`Host.Agree`).  A call opens a frame, or runs a loop for other items in one, so what it jumps
to needs fewer levels than the scope of the call: if this scope fits, the call is the same in
both hosts.  So is the value of an expression (`Expr.eval_congr`), by recursion on it.
-/
namespace Componentry.Template

open Exec

variable {names : List Text} {levels : Nat} {h h' : Host} {s : Scope}

/-! ## Hosts that agree -/

/-- The levels that a body needs, which does not yet extend another when it starts. -/
def Scope.needOfBody (names : List Text) (s : Scope) : Nat := { s with parent := none }.need names

/-- Two hosts of so many levels, which run the jumps alike that these levels are enough for. -/
structure Host.Agree (names : List Text) (levels : Nat) (h h' : Host) : Prop where
  invoker : h.invoker = h'.invoker
  library : h.library = h'.library
  data : h.data = h'.data
  listed : ∀ name body, h.library.find? name = some body → name ∈ names
  body : ∀ ss s, s.frames ≠ [] → s.needOfBody names + 1 < levels →
    Same (h.run (.body ss)) (h'.run (.body ss)) s fun t => s.Leads names t ∧ t.parent = s.parent
  rounds : ∀ loop items s, s.Fits names levels →
    (h.run (.rounds loop items)).run s = (h'.run (.rounds loop items)).run s
  routine : ∀ code values s, s.frames ≠ [] → s.need names + 1 < levels →
    (h.run (.routine code values)).run s = (h'.run (.routine code values)).run s

namespace Scope

theorem needOfBody_le (s : Scope) : s.needOfBody names ≤ s.need names := by
  unfold needOfBody need left
  exact Nat.add_le_add_left (Nat.le_add_right _ _) _

/-- One frame deeper a body needs less. -/
theorem Fits.body {t : Scope} (hs : s.Fits names levels) (hlimit : s.nesting ≤ recursionLimit)
    (hdeeper : s.nesting < t.nesting) : t.needOfBody names + 1 < levels := by
  have hless : t.need names < s.need names := need_lt hlimit hdeeper
  have hbody : t.needOfBody names ≤ t.need names := needOfBody_le t
  have hneed := hs.need
  omega

end Scope

/-! ## Calls -/

namespace Host.Agree

variable (hh : h.Agree names levels h')

include hh

theorem find? (name : Text) : h.library.find? name = h'.library.find? name := by rw [hh.library]

theorem function_call (f : Function) (args : Arguments) : f.call h s args = f.call h' s args := by
  cases f with
  | invoke =>
    rw [Function.call, Function.call, hh.invoker]
  | debug =>
    rw [Function.call, Function.call, hh.data]
  | _ => rfl

/-- A macro runs in a deeper frame. -/
theorem macro_call (hs : s.Fits names levels) (code : Macro) (closure : Nat) (args : Arguments) :
    code.call h s closure args = code.call h' s closure args := by
  unfold Macro.call
  refine congrArg (_ >>= ·) (funext fun r => ?_)
  refine Same.captured (q := fun _ => True) (Same.guardNesting_bind fun hlimit => ?_)
  have hdeeper : s.nesting < (s.inMacro closure r.2).nesting := by
    show s.nesting < s.nesting + 4 + 1
    omega
  refine ⟨hh.routine _ _ _ (by simp [Scope.inMacro]) ?_, fun _ _ _ _ => trivial⟩
  have hnesting : s.nesting ≤ recursionLimit := by
    have hmacro : (s.inMacro closure r.2).nesting ≤ recursionLimit := hlimit
    omega
  have hless : (s.inMacro closure r.2).need names < s.need names := Scope.need_lt hnesting hdeeper
  have hneed := hs.need
  exact Nat.lt_of_le_of_lt (Nat.succ_le_of_lt hless) hneed

theorem value_call (hs : s.Fits names levels) (v : Value) (args : Arguments) :
    v.call h s args = v.call h' s args := by
  cases v with
  | function f => exact hh.function_call f args
  | routine code closure =>
    rw [Value.call, Value.call, hh.macro_call hs]
  | record form entries => cases form <;> rfl
  | _ => rfl

theorem callMember (hs : s.Fits names levels) (v : Value) (name : Text) (args : Arguments) :
    v.callMember h s name args = v.callMember h' s name args := by
  unfold Value.callMember
  split
  · rfl
  · split
    · exact hh.value_call hs _ args
    · rfl

theorem recurse (hs : s.Fits names levels) (args : Arguments) :
    s.recurse h args = s.recurse h' args := by
  have hfits : Scope.Fits names levels { s with discarding := false } := ⟨hs.frames, hs.need⟩
  unfold Scope.recurse
  split
  · exact Same.captured (q := fun _ => True) ⟨hh.rounds _ _ _ hfits, fun _ _ _ _ => trivial⟩
  · rfl

/-- A block runs in a frame of its own. -/
theorem steps_block (b : BlockStack) : Steps names levels (b.run h) (b.run h') := by
  intro s hs
  unfold BlockStack.run
  split
  · exact .lift rfl (.refl s)
  · rename_i layer _
    refine .ite (fun _ => .fail rfl rfl) fun _ => .get_bind (.modify_bind ?_)
    have hframe : Same (Exec.inFrame .empty (h.run (.body layer.body)))
        (Exec.inFrame .empty (h'.run (.body layer.body))) { s with block := some b.name }
        (Scope.Leads names { s with block := some b.name }) := by
      refine .inFrame fun hlimit => (hh.body _ _ (by simp [Scope.push]) ?_).weaken fun _ ht => ht.1
      exact hs.body hlimit (by simp [Scope.nesting, Scope.push])
    exact hframe.bind fun text t ht => .modify_bind (.pure ⟨ht.depth, ht.frames, ht.left⟩)

theorem captured_block (hs : s.Fits names levels) (b : BlockStack) :
    s.captured (b.run h) = s.captured (b.run h') :=
  Same.captured (hh.steps_block b _ ⟨hs.frames, hs.need⟩)

theorem callSuper (hs : s.Fits names levels) (args : Arguments) :
    s.callSuper h args = s.callSuper h' args := by
  unfold Scope.callSuper
  split
  · rename_i b _ _
    have hfits : (s.setBlock { b with depth := b.depth + 1 }).Fits names levels :=
      ⟨hs.frames, hs.need⟩
    exact hh.captured_block hfits _
  · rfl

theorem callBlock (hs : s.Fits names levels) (name : Text) :
    s.callBlock h name = s.callBlock h' name := by
  unfold Scope.callBlock
  split
  · rfl
  · split
    · exact hh.captured_block hs _
    · rfl

theorem callee_call (hs : s.Fits names levels) (c : Callee) (args : Arguments) :
    c.call h s args = c.call h' s args := by
  cases c with
  | name x =>
    rw [Callee.call, Callee.call, Scope.call, Scope.call, hh.callSuper hs, hh.recurse hs, hh.data]
    congr 2
    split
    · exact hh.value_call hs _ args
    · rfl
  | member v x => exact hh.callMember hs v x args
  | value v => exact hh.value_call hs v args

end Host.Agree

/-! ## Expressions -/

namespace Expr

mutual

/-- **An expression has the same value in both hosts.** -/
theorem eval_congr (hh : h.Agree names levels h') (hs : s.Fits names levels) :
    ∀ e : Expr, eval h s e = eval h' s e
  | var name line => by
    show Run.refresh (s.lookup h.data name) = Run.refresh (s.lookup h'.data name)
    rw [hh.data]
  | const literal line => rfl
  | list items line => by simp only [eval, evalItems_congr hh hs items]
  | map pairs line => by simp only [eval, evalPairs_congr hh hs pairs]
  | unary op a line => by simp only [eval, eval_congr hh hs a]
  | binary op a b line => by simp only [eval, eval_congr hh hs a, eval_congr hh hs b]
  | compare a rest line => by simp only [eval, eval_congr hh hs a, evalCompare_congr hh hs rest]
  | ifElse condition yes no => by
    simp only [eval, eval_congr hh hs condition, eval_congr hh hs yes, evalOption_congr hh hs no]
  | filter name a arguments => by
    simp only [eval, eval_congr hh hs a, evalArguments_congr hh hs arguments]
  | test name a arguments => by
    simp only [eval, eval_congr hh hs a, evalArguments_congr hh hs arguments]
  | member a name => by simp only [eval, eval_congr hh hs a]
  | item a key => by simp only [eval, eval_congr hh hs a, eval_congr hh hs key]
  | slice a start stop step => by
    simp only [eval, eval_congr hh hs a, evalOption_congr hh hs start, evalOption_congr hh hs stop,
      evalOption_congr hh hs step]
  | call f arguments => by
    have hcall : ∀ c : Callee, c.call h s = c.call h' s := fun c => funext (hh.callee_call hs c)
    simp only [eval, eval_congr hh hs f, evalCallee_congr hh hs f,
      evalArguments_congr hh hs arguments, hcall, hh.callBlock hs]
termination_by structural e => e

theorem evalCallee_congr (hh : h.Agree names levels h') (hs : s.Fits names levels) :
    ∀ (f : Expr) (value : Run Value), evalCallee h s value f = evalCallee h' s value f
  | member a name, value => by simp only [evalCallee, eval_congr hh hs a]
  | var .., _ | const .., _ | list .., _ | map .., _ | unary .., _ | binary .., _ | compare .., _
  | ifElse .., _ | filter .., _ | test .., _ | item .., _ | slice .., _ | call .., _ => rfl
termination_by structural f => f

theorem evalItems_congr (hh : h.Agree names levels h') (hs : s.Fits names levels) :
    ∀ items : List Expr, evalItems h s items = evalItems h' s items
  | [] => rfl
  | e :: more => by simp only [evalItems, eval_congr hh hs e, evalItems_congr hh hs more]
termination_by structural items => items

theorem evalPairs_congr (hh : h.Agree names levels h') (hs : s.Fits names levels) :
    ∀ pairs : List (Expr × Expr), evalPairs h s pairs = evalPairs h' s pairs
  | [] => rfl
  | (key, value) :: more => by
    simp only [evalPairs, eval_congr hh hs key, eval_congr hh hs value, evalPairs_congr hh hs more]
termination_by structural pairs => pairs

theorem evalOption_congr (hh : h.Agree names levels h') (hs : s.Fits names levels) :
    ∀ (e : Option Expr) (default : Value), evalOption h s default e = evalOption h' s default e
  | none, default => rfl
  | some e, default => by simp only [evalOption, eval_congr hh hs e]
termination_by structural e => e

theorem evalCompare_congr (hh : h.Agree names levels h') (hs : s.Fits names levels) :
    ∀ (rest : List (CompareOp × Expr)) (v : Value),
      evalCompare h s v rest = evalCompare h' s v rest
  | [], v => rfl
  | (op, e) :: more, v => by
    simp only [evalCompare, eval_congr hh hs e, evalCompare_congr hh hs more]
termination_by structural rest => rest

theorem evalArguments_congr (hh : h.Agree names levels h') (hs : s.Fits names levels) :
    ∀ (arguments : List (ArgumentKind × Expr)) (named : Bool),
      evalArguments h s named arguments = evalArguments h' s named arguments
  | [], named => rfl
  | (kind, e) :: more, named => by
    simp only [evalArguments, eval_congr hh hs e, evalArguments_congr hh hs more]
termination_by structural arguments => arguments

end

theorem evalCall_congr (hh : h.Agree names levels h') (hs : s.Fits names levels) (e : Expr)
    (more : List (ArgumentKind × Value)) : evalCall h s more e = evalCall h' s more e := by
  cases e with
  | call f arguments =>
    have hcall : ∀ c : Callee, c.call h s = c.call h' s := fun c => funext (hh.callee_call hs c)
    simp only [evalCall, eval_congr hh hs f, evalCallee_congr hh hs f,
      evalArguments_congr hh hs arguments, hcall, hh.callBlock hs]
  | _ => exact eval_congr hh hs _

end Expr

end Componentry.Template
