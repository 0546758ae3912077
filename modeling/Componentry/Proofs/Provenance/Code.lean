import Componentry.Proofs.Coupling.Definitions
import Componentry.Slot.Basic

/-! # Code that makes no slot sources of its own

An expression is **trusted** if it uses the function that makes slot sources only to call it
with one text that is written out and passes the test (`Expr.isTrusted`).  Code is trusted if
all expressions in it are, and it sets no variable of the function's name
(`Tests.trusted`).

In trusted code, over trusted data, such a call gives a source that passes the test, or calls
what the data have in place of the function (`Setting.special_trusting`).  So all values stay
trusted: no other source is ever made.
-/
namespace Componentry.Template

/-- Whether arguments are one text that is written out and passes a test. -/
def isSourceArgument (p : Text → Bool) : List (ArgumentKind × Expr) → Bool
  | [(.positional, .const (.string source) _)] => p source
  | _ => false

namespace Expr

mutual

/-- Whether an expression uses the function that makes slot sources only with a
text that passes a test. -/
def isTrusted (p : Text → Bool) : Expr → Bool
  | var name _ => name != deferredName
  | const .. => true
  | list items _ => itemsTrusted p items
  | map pairs _ => pairsTrusted p pairs
  | unary _ a _ => isTrusted p a
  | binary _ a b _ => isTrusted p a && isTrusted p b
  | compare a rest _ => isTrusted p a && restTrusted p rest
  | ifElse condition yes no => isTrusted p condition && isTrusted p yes && optionTrusted p no
  | filter _ a arguments => isTrusted p a && argumentsTrusted p arguments
  | test _ a arguments => isTrusted p a && argumentsTrusted p arguments
  | member a _ => isTrusted p a
  | item a key => isTrusted p a && isTrusted p key
  | slice a start stop step =>
    isTrusted p a && optionTrusted p start && optionTrusted p stop && optionTrusted p step
  | call (var name _) arguments =>
    argumentsTrusted p arguments && (name != deferredName || isSourceArgument p arguments)
  | call f arguments => isTrusted p f && argumentsTrusted p arguments
termination_by structural e => e

/-- Whether all items are trusted. -/
def itemsTrusted (p : Text → Bool) : List Expr → Bool
  | [] => true
  | e :: more => isTrusted p e && itemsTrusted p more
termination_by structural es => es

/-- Whether all keys and values are trusted. -/
def pairsTrusted (p : Text → Bool) : List (Expr × Expr) → Bool
  | [] => true
  | (key, value) :: more => isTrusted p key && isTrusted p value && pairsTrusted p more
termination_by structural ps => ps

/-- Whether all operands of comparisons are trusted. -/
def restTrusted (p : Text → Bool) : List (CompareOp × Expr) → Bool
  | [] => true
  | (_, e) :: more => isTrusted p e && restTrusted p more
termination_by structural es => es

/-- Whether an expression that may be left out is trusted. -/
def optionTrusted (p : Text → Bool) : Option Expr → Bool
  | none => true
  | some e => isTrusted p e
termination_by structural e => e

/-- Whether all arguments are trusted. -/
def argumentsTrusted (p : Text → Bool) : List (ArgumentKind × Expr) → Bool
  | [] => true
  | (_, e) :: more => isTrusted p e && argumentsTrusted p more
termination_by structural args => args

end

end Expr

namespace Expr

variable {p : Text → Bool}

theorem itemsTrusted_eq (items : List Expr) : itemsTrusted p items = items.all (isTrusted p) := by
  induction items with
  | nil => rfl
  | cons e items ih => rw [itemsTrusted, ih, List.all_cons]

theorem pairsTrusted_eq (pairs : List (Expr × Expr)) :
    pairsTrusted p pairs = pairs.all fun e => isTrusted p e.1 && isTrusted p e.2 := by
  induction pairs with
  | nil => rfl
  | cons e pairs ih => rw [pairsTrusted, ih, List.all_cons]

theorem restTrusted_eq (rest : List (CompareOp × Expr)) :
    restTrusted p rest = rest.all fun e => isTrusted p e.2 := by
  induction rest with
  | nil => rfl
  | cons e rest ih => rw [restTrusted, ih, List.all_cons]

theorem optionTrusted_eq (e : Option Expr) : optionTrusted p e = e.all (isTrusted p) := by
  cases e <;> rfl

theorem argumentsTrusted_eq (arguments : List (ArgumentKind × Expr)) :
    argumentsTrusted p arguments = arguments.all fun e => isTrusted p e.2 := by
  induction arguments with
  | nil => rfl
  | cons e arguments ih => rw [argumentsTrusted, ih, List.all_cons]

/-- Whether an expression is the call that makes a slot source of a text that passes a test. -/
def isSource (p : Text → Bool) : Expr → Bool
  | call (var name _) arguments => name = deferredName && isSourceArgument p arguments
  | _ => false

/-- A trusted expression makes a slot source, or its parts are trusted. -/
theorem parts_of_isTrusted {e : Expr} (he : e.isTrusted p = true) :
    e.isSource p = true ∨
      e.parts (isTrusted p) (fun x => x != deferredName) (fun x => x != deferredName) = true := by
  cases e with
  | const value line => exact Or.inr rfl
  | call f arguments =>
    cases f with
    | var name line =>
      simp only [isTrusted, Bool.and_eq_true, Bool.or_eq_true, argumentsTrusted_eq] at he
      by_cases hname : name = deferredName
      · subst hname
        exact Or.inl (by simpa [isSource] using he.2)
      · exact Or.inr (by simpa [parts, hname] using he.1)
    | member a x => exact Or.inr (by simpa [isTrusted, parts, called, argumentsTrusted_eq] using he)
    | _ => exact Or.inr (by simpa [parts, called, isTrusted, argumentsTrusted_eq] using he)
  | _ =>
    exact Or.inr (by simpa [isTrusted, parts, itemsTrusted_eq, pairsTrusted_eq, restTrusted_eq,
      optionTrusted_eq, argumentsTrusted_eq] using he)

theorem exists_of_isSourceArgument {arguments : List (ArgumentKind × Expr)}
    (h : isSourceArgument p arguments = true) :
    ∃ source line, p source = true ∧ arguments = [(.positional, const (.string source) line)] := by
  unfold isSourceArgument at h
  split at h
  · exact ⟨_, _, h, rfl⟩
  · cases h

theorem exists_of_isSource {e : Expr} (h : e.isSource p = true) :
    ∃ source line argumentLine, p source = true ∧
      e = call (var deferredName line) [(.positional, const (.string source) argumentLine)] := by
  unfold isSource at h
  split at h
  · rename_i name line arguments
    rw [Bool.and_eq_true, decide_eq_true_eq] at h
    obtain ⟨rfl, harguments⟩ := h
    obtain ⟨source, argumentLine, hsource, rfl⟩ := exists_of_isSourceArgument harguments
    exact ⟨source, line, argumentLine, hsource, rfl⟩
  · cases h

end Expr

/-! ## The setting of trusted code -/

/-- What is asked of trusted code. -/
def Tests.trusted (p : Text → Bool) : Tests :=
  ⟨Expr.isTrusted p, Expr.isTrusted p, fun x => x != deferredName⟩

theorem Function.named?_deferred {x : Text} (h : named? x = some .deferred) : x = deferredName := by
  have hname := List.find?_some (p := fun f : Function => decide (f.name = x)) h
  exact (of_decide_eq_true hname).symm

theorem Function.ne_deferred_of_named? {x : Text} {f : Function} (hx : (x != deferredName) = true)
    (h : named? x = some f) : (f != .deferred) = true := by
  refine bne_iff_ne.2 fun heq => ?_
  rw [heq] at h
  exact bne_iff_ne.1 hx (named?_deferred h)

namespace Setting

/-- The setting of trusted code: values hold no source that does not pass the test, and not
the function that makes them. -/
def trusting (p : Text → Bool) : Setting where
  events := .same
  sources := p
  functions f := f != .deferred
  callable f := f != .deferred
  tests := .trusted p
  isVar x := x != deferredName
  isCallee x := x != deferredName
  special := Expr.isSource p
  inMacro h := h
  parts := Expr.parts_of_isTrusted
  special_var := rfl
  functions_callable h := h
  callable_deferred h := by cases h
  functions_of_isVar := Function.ne_deferred_of_named?
  callable_of_isCallee := Function.ne_deferred_of_named?
  named_of_name h := by
    rw [bne_eq_false_iff_eq.1 h]
    decide

variable {p : Text → Bool} {h h' : Host}

/-- **In trusted code a call of the function that makes slot sources goes alike**: of the
function itself, since the source passes the test, and of what the data have in its place. -/
theorem special_trusting (hh : h.Fits (trusting p) h') (hdata : h.data = h'.data)
    (htrusted : h.data.Trusted (trusting p).policy) : h.Special (trusting p) h' := by
  intro e hspecial _ _ s hs
  obtain ⟨source, line, argumentLine, hsource, rfl⟩ := Expr.exists_of_isSource hspecial
  have hargs : (Arguments.ofValues [.ofText source]).Trusted (trusting p).policy :=
    List.forall_mem_singleton.2 (.ofText source)
  have hcall : Couple (trusting p) (Same (Value.Trusted (trusting p).policy))
      (s.call h deferredName (.ofValues [.ofText source]))
      (s.call h' deferredName (.ofValues [.ofText source])) := by
    have hfunction {f : Function} (hf : f = .deferred ∨ (trusting p).callable f = true) :
        Couple (trusting p) (Same (Value.Trusted (trusting p).policy))
          (f.call h s (.ofValues [.ofText source])) (f.call h' s (.ofValues [.ofText source])) := by
      rcases hf with rfl | hf
      · exact .pure (.of hsource)
      · exact Function.couple_call hh hf hargs
    unfold Scope.call
    rw [if_neg (by decide), if_neg (by decide), if_neg (by decide), if_neg (by decide), ← hdata]
    cases hcallee : s.callee? h.data deferredName with
    | none => exact .fail
    | some v =>
      rcases hs.callee? hcallee with hvar | ⟨w, hw, rfl⟩ | ⟨f, hf, rfl⟩ | rfl
      · cases hvar.1
      · have hw := htrusted.member? hw
        cases w with
        | function f => exact hfunction (Or.inr hw)
        | record form entries => cases form <;> exact .fail
        | _ => exact .fail
      · cases hf
        exact hfunction (Or.inl rfl)
      · exact .fail
  exact hcall.atLine

/-- Trusted code goes alike over the same trusted data, if the sources that pass the test are
trusted code themselves. -/
theorem forSameData_trusting (hp : ∀ source, p source = true → ∀ body,
      Template.parse source = .ok body → Stmt.allOf (.trusted p) body = true) :
    (trusting p).ForSameData :=
  ⟨fun _ _ => special_trusting, fun _ _ => rfl, hp⟩

end Setting

end Componentry.Template
