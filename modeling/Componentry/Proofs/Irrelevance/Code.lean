import Componentry.Proofs.Provenance.Code

/-! # Code that does not look at a key

An expression is **blind** to a key if it does not use the key as a variable, calls
functions but does not use them as values, makes slot sources only of one text that
passes a test, and uses the context and the caller's data in the ways of generated
sources alone: as the props of an invocation, as the caller's data of props that are
made in place, or to test whether something is given under another name than the key
(`Expr.isBlind`).

Code is blind if all expressions in it are, it sets no variable of the name of a function that
generated sources call, and its macros pass no data of a caller on (`Tests.blind`).
-/
namespace Componentry.Template

/-- Whether a name is that of a variable which is the same in contexts that are alike up
to a key. -/
def isVisible (k name : Text) : Bool :=
  name != k && name != Attribute.contextVar && name != callerVar

namespace Expr

/-- Whether an expression is the variable of a name. -/
def isVar (name : Text) : Expr → Bool
  | var x _ => x = name
  | _ => false

/-- Whether an expression is a text that is written out. -/
def isText (s : Text) : Expr → Bool
  | const (.string s') _ => s' = s
  | _ => false

/-- Whether a test is whether the context has something under another name than a
key. -/
def isGivenTest (k name : Text) : Expr → List (ArgumentKind × Expr) → Bool
  | item (var x _) (const (.string label) _), [] =>
    Test.named? name = some .defined && x = Attribute.contextVar && label != k
  | _, _ => false

mutual

/-- Whether an expression does not depend on what data has under the key `k`.  Slot
sources are made of texts that pass a test.  Props that are `passed` on hold the caller's
data, which may be passed on again. -/
def isBlind (k : Text) (p : Text → Bool) (passed : Bool) : Expr → Bool
  | var name _ => isVisible k name && (Function.named? name).isNone
  | const .. => true
  | list items _ => itemsBlind k p passed items
  | map pairs _ => pairsBlind k p passed pairs
  | unary _ a _ => isBlind k p passed a
  | binary _ a b _ => isBlind k p passed a && isBlind k p passed b
  | compare a rest _ => isBlind k p passed a && restBlind k p passed rest
  | ifElse condition yes no =>
    isBlind k p passed condition && isBlind k p passed yes && optionBlind k p passed no
  | filter _ a arguments => isBlind k p passed a && argumentsBlind k p passed arguments
  | test name a arguments =>
    isGivenTest k name a arguments || isBlind k p passed a && argumentsBlind k p passed arguments
  | member a _ => isBlind k p passed a
  | item a key => isBlind k p passed a && isBlind k p passed key
  | slice a start stop step =>
    isBlind k p passed a && optionBlind k p passed start && optionBlind k p passed stop &&
      optionBlind k p passed step
  | call (var name _) arguments =>
    isVisible k name && name != Function.debug.name &&
      (name = invokeName && isInvocation k p passed arguments ||
        argumentsBlind k p passed arguments &&
          (name != deferredName || isSourceArgument p arguments))
  | call f arguments => isBlind k p passed f && argumentsBlind k p passed arguments
termination_by structural e => e

/-- Whether all items are blind. -/
def itemsBlind (k : Text) (p : Text → Bool) (passed : Bool) : List Expr → Bool
  | [] => true
  | e :: more => isBlind k p passed e && itemsBlind k p passed more
termination_by structural es => es

/-- Whether all keys and values are blind. -/
def pairsBlind (k : Text) (p : Text → Bool) (passed : Bool) : List (Expr × Expr) → Bool
  | [] => true
  | (key, value) :: more =>
    isBlind k p passed key && isBlind k p passed value && pairsBlind k p passed more
termination_by structural ps => ps

/-- Whether all operands of comparisons are blind. -/
def restBlind (k : Text) (p : Text → Bool) (passed : Bool) : List (CompareOp × Expr) → Bool
  | [] => true
  | (_, e) :: more => isBlind k p passed e && restBlind k p passed more
termination_by structural es => es

/-- Whether an expression that may be left out is blind. -/
def optionBlind (k : Text) (p : Text → Bool) (passed : Bool) : Option Expr → Bool
  | none => true
  | some e => isBlind k p passed e
termination_by structural e => e

/-- Whether all arguments are blind. -/
def argumentsBlind (k : Text) (p : Text → Bool) (passed : Bool) :
    List (ArgumentKind × Expr) → Bool
  | [] => true
  | (_, e) :: more => isBlind k p passed e && argumentsBlind k p passed more
termination_by structural args => args

/-- Whether arguments are a name and props: the context, the caller's data, or props that
are made in place. -/
def isInvocation (k : Text) (p : Text → Bool) (passed : Bool) :
    List (ArgumentKind × Expr) → Bool
  | [(.positional, name), (.positional, props)] =>
    isBlind k p passed name &&
      (props.isVar Attribute.contextVar || passed && props.isVar callerVar ||
        isMade k p passed props)
  | _ => false
termination_by structural args => args

/-- Whether an expression makes props in place: by `dict`, or by `merge` of such props
and others. -/
def isMade (k : Text) (p : Text → Bool) (passed : Bool) : Expr → Bool
  | call (var name _) arguments =>
    isVisible k name &&
      (name = Props.dictName && entriesMade k p passed arguments ||
        name = Props.mergeName && propsMade k p passed arguments)
  | _ => false
termination_by structural e => e

/-- Whether arguments are keys and values, one of which may be the context as the caller's
data. -/
def entriesMade (k : Text) (p : Text → Bool) (passed : Bool) :
    List (ArgumentKind × Expr) → Bool
  | [] => true
  | [(.positional, e)] => isBlind k p passed e || e.isVar Attribute.contextVar
  | (.positional, key) :: (.positional, value) :: more =>
    isBlind k p passed key &&
      (isBlind k p passed value || key.isText callerVar && value.isVar Attribute.contextVar) &&
      entriesMade k p passed more
  | _ => false
termination_by structural args => args

/-- Whether arguments are props. -/
def propsMade (k : Text) (p : Text → Bool) (passed : Bool) : List (ArgumentKind × Expr) → Bool
  | [] => true
  | (.positional, e) :: more =>
    (isBlind k p passed e || isMade k p passed e) && propsMade k p passed more
  | _ => false
termination_by structural args => args

end

end Expr

variable {k : Text} {p : Text → Bool} {passed : Bool}

/-! ## Parts of blind expressions -/

namespace Expr

theorem itemsBlind_eq (items : List Expr) :
    itemsBlind k p passed items = items.all (isBlind k p passed) := by
  induction items with
  | nil => rfl
  | cons e items ih => rw [itemsBlind, ih, List.all_cons]

theorem pairsBlind_eq (pairs : List (Expr × Expr)) :
    pairsBlind k p passed pairs =
      pairs.all fun e => isBlind k p passed e.1 && isBlind k p passed e.2 := by
  induction pairs with
  | nil => rfl
  | cons e pairs ih => rw [pairsBlind, ih, List.all_cons]

theorem restBlind_eq (rest : List (CompareOp × Expr)) :
    restBlind k p passed rest = rest.all fun e => isBlind k p passed e.2 := by
  induction rest with
  | nil => rfl
  | cons e rest ih => rw [restBlind, ih, List.all_cons]

theorem optionBlind_eq (e : Option Expr) :
    optionBlind k p passed e = e.all (isBlind k p passed) := by
  cases e <;> rfl

theorem argumentsBlind_eq (arguments : List (ArgumentKind × Expr)) :
    argumentsBlind k p passed arguments = arguments.all fun e => isBlind k p passed e.2 := by
  induction arguments with
  | nil => rfl
  | cons e arguments ih => rw [argumentsBlind, ih, List.all_cons]

theorem isVar_eq {name : Text} {e : Expr} (h : e.isVar name = true) :
    ∃ line, e = var name line := by
  cases e with
  | var x line => exact ⟨line, by rw [of_decide_eq_true h]⟩
  | _ => cases h

theorem isText_eq {text : Text} {e : Expr} (h : e.isText text = true) :
    ∃ line, e = const (.string text) line := by
  unfold isText at h
  split at h
  · rename_i line
    exact ⟨line, by rw [of_decide_eq_true h]⟩
  · cases h

theorem isGivenTest_eq {name : Text} {e : Expr} {arguments : List (ArgumentKind × Expr)}
    (h : isGivenTest k name e arguments = true) :
    ∃ label line line', label ≠ k ∧ Test.named? name = some .defined ∧ arguments = [] ∧
      e = item (var Attribute.contextVar line) (const (.string label) line') := by
  unfold isGivenTest at h
  split at h
  · rename_i x line label line'
    simp only [Bool.and_eq_true, decide_eq_true_eq, bne_iff_ne] at h
    obtain ⟨⟨hdefined, rfl⟩, hlabel⟩ := h
    exact ⟨label, line, line', hlabel, hdefined, rfl, rfl⟩
  · cases h

theorem entriesMade_single {kind : ArgumentKind} {e : Expr}
    (h : entriesMade k p passed [(kind, e)] = true) :
    kind = .positional ∧ (e.isBlind k p passed = true ∨ e.isVar Attribute.contextVar = true) := by
  cases kind with
  | positional => exact ⟨rfl, Bool.or_eq_true_iff.1 h⟩
  | _ => cases h

theorem entriesMade_cons {kind kind' : ArgumentKind} {key value : Expr}
    {more : List (ArgumentKind × Expr)}
    (h : entriesMade k p passed ((kind, key) :: (kind', value) :: more) = true) :
    kind = .positional ∧ kind' = .positional ∧ key.isBlind k p passed = true ∧
      (value.isBlind k p passed = true ∨
        key.isText callerVar = true ∧ value.isVar Attribute.contextVar = true) ∧
      entriesMade k p passed more = true := by
  cases kind with
  | positional =>
    cases kind' with
    | positional => simpa only [entriesMade, Bool.and_eq_true, Bool.or_eq_true, true_and,
        and_assoc] using h
    | _ => cases h
  | _ => cases h

theorem propsMade_cons {kind : ArgumentKind} {e : Expr} {more : List (ArgumentKind × Expr)}
    (h : propsMade k p passed ((kind, e) :: more) = true) :
    kind = .positional ∧ (e.isBlind k p passed = true ∨ e.isMade k p passed = true) ∧
      propsMade k p passed more = true := by
  cases kind with
  | positional => simpa only [propsMade, Bool.and_eq_true, Bool.or_eq_true, true_and] using h
  | _ => cases h

theorem positional_of_entriesMade : ∀ {arguments : List (ArgumentKind × Expr)},
    entriesMade k p passed arguments = true → ∀ a ∈ arguments, a.1 = .positional
  | [], _ => by simp
  | [_], h => by simpa using (entriesMade_single h).1
  | _ :: _ :: _, h => by
    obtain ⟨hkind, hkind', -, -, hmore⟩ := entriesMade_cons h
    exact List.forall_mem_cons.2 ⟨hkind, List.forall_mem_cons.2
      ⟨hkind', positional_of_entriesMade hmore⟩⟩

theorem positional_of_propsMade : ∀ {arguments : List (ArgumentKind × Expr)},
    propsMade k p passed arguments = true → ∀ a ∈ arguments, a.1 = .positional
  | [], _ => by simp
  | _ :: _, h => by
    obtain ⟨hkind, -, hmore⟩ := propsMade_cons h
    exact List.forall_mem_cons.2 ⟨hkind, positional_of_propsMade hmore⟩

theorem positional_of_isInvocation {arguments : List (ArgumentKind × Expr)}
    (h : isInvocation k p passed arguments = true) : ∀ a ∈ arguments, a.1 = .positional := by
  match arguments, h with
  | [(.positional, _), (.positional, _)], _ => simp

/-- The name that a blind expression may call with blind arguments. -/
def isBlindCallee (k name : Text) : Bool :=
  isVisible k name && name != Function.debug.name && name != deferredName

/-- Whether an expression uses the context, the caller's data or a slot source in the ways of
generated sources. -/
def isGeneratedUse (k : Text) (p : Text → Bool) (passed : Bool) : Expr → Bool
  | test name a arguments => isGivenTest k name a arguments
  | call (var name _) arguments =>
    isVisible k name &&
      (name = invokeName && isInvocation k p passed arguments ||
        name = deferredName && isSourceArgument p arguments)
  | _ => false

/-- A blind expression is one of generated sources, or its parts are blind. -/
theorem parts_of_isBlind {e : Expr} (he : e.isBlind k p passed = true) :
    e.isGeneratedUse k p passed = true ∨
      e.parts (isBlind k p passed) (fun x => isVisible k x && (Function.named? x).isNone)
        (isBlindCallee k) = true := by
  cases e with
  | const value line => exact Or.inr rfl
  | var name line => exact Or.inr he
  | test name a arguments =>
    simp only [isBlind, Bool.or_eq_true, argumentsBlind_eq] at he
    exact he
  | call f arguments =>
    cases f with
    | var name line =>
      simp only [isBlind, Bool.and_eq_true, Bool.or_eq_true, argumentsBlind_eq, bne_iff_ne,
        decide_eq_true_eq] at he
      obtain ⟨⟨hname, hdebug⟩, ⟨rfl, hinvoke⟩ | ⟨hargs, hne⟩⟩ := he
      · exact Or.inl (by simp [isGeneratedUse, hname, hinvoke])
      · by_cases hdeferred : name = deferredName
        · have hsource := hne.resolve_left (not_not_intro hdeferred)
          subst hdeferred
          exact Or.inl (by simp [isGeneratedUse, hname, hsource])
        · refine Or.inr ?_
          simp only [parts, isBlindCallee, Bool.and_eq_true, bne_iff_ne]
          exact ⟨⟨⟨hname, hdebug⟩, hdeferred⟩, hargs⟩
    | member a x => exact Or.inr (by simpa [isBlind, parts, called, argumentsBlind_eq] using he)
    | _ => exact Or.inr (by simpa [parts, called, isBlind, argumentsBlind_eq] using he)
  | _ =>
    exact Or.inr (by simpa [isBlind, parts, itemsBlind_eq, pairsBlind_eq, restBlind_eq,
      optionBlind_eq, argumentsBlind_eq] using he)

/-! ## Passing the caller's data on -/

mutual

/-- What is blind without passing the caller's data on is blind. -/
theorem isBlind_of_false : ∀ {e : Expr}, e.isBlind k p false = true → e.isBlind k p passed = true
  | .var .., h => h
  | .const .., h => h
  | .list items _, h => by
    rw [isBlind] at h ⊢
    exact itemsBlind_of_false h
  | .map pairs _, h => by
    rw [isBlind] at h ⊢
    exact pairsBlind_of_false h
  | .unary _ a _, h => isBlind_of_false (e := a) h
  | .binary _ a b _, h => by
    simp only [isBlind, Bool.and_eq_true] at h ⊢
    exact ⟨isBlind_of_false h.1, isBlind_of_false h.2⟩
  | .compare a rest _, h => by
    simp only [isBlind, Bool.and_eq_true] at h ⊢
    exact ⟨isBlind_of_false h.1, restBlind_of_false h.2⟩
  | .ifElse condition yes no, h => by
    simp only [isBlind, Bool.and_eq_true] at h ⊢
    exact ⟨⟨isBlind_of_false h.1.1, isBlind_of_false h.1.2⟩, optionBlind_of_false h.2⟩
  | .filter _ a arguments, h => by
    simp only [isBlind, Bool.and_eq_true] at h ⊢
    exact ⟨isBlind_of_false h.1, argumentsBlind_of_false h.2⟩
  | .test _ a arguments, h => by
    simp only [isBlind, Bool.or_eq_true, Bool.and_eq_true] at h ⊢
    exact h.imp_right fun h => ⟨isBlind_of_false h.1, argumentsBlind_of_false h.2⟩
  | .member a _, h => isBlind_of_false (e := a) h
  | .item a key, h => by
    simp only [isBlind, Bool.and_eq_true] at h ⊢
    exact ⟨isBlind_of_false h.1, isBlind_of_false h.2⟩
  | .slice a start stop step, h => by
    simp only [isBlind, Bool.and_eq_true] at h ⊢
    exact ⟨⟨⟨isBlind_of_false h.1.1.1, optionBlind_of_false h.1.1.2⟩,
      optionBlind_of_false h.1.2⟩, optionBlind_of_false h.2⟩
  | .call f arguments, h => by
    have hf := isBlind_of_false (e := f)
    cases f with
    | var name line =>
      simp only [isBlind, Bool.and_eq_true, Bool.or_eq_true] at h ⊢
      exact ⟨h.1, h.2.imp (And.imp_right isInvocation_of_false)
        (And.imp_left argumentsBlind_of_false)⟩
    | _ =>
      have h' := Bool.and_eq_true_iff.1 h
      exact Bool.and_eq_true_iff.2 ⟨hf h'.1, argumentsBlind_of_false h'.2⟩

theorem itemsBlind_of_false : ∀ {items : List Expr}, itemsBlind k p false items = true →
    itemsBlind k p passed items = true
  | [], _ => rfl
  | e :: items, h => by
    simp only [itemsBlind, Bool.and_eq_true] at h ⊢
    exact ⟨isBlind_of_false h.1, itemsBlind_of_false h.2⟩

theorem pairsBlind_of_false : ∀ {pairs : List (Expr × Expr)}, pairsBlind k p false pairs = true →
    pairsBlind k p passed pairs = true
  | [], _ => rfl
  | (key, value) :: pairs, h => by
    simp only [pairsBlind, Bool.and_eq_true] at h ⊢
    exact ⟨⟨isBlind_of_false h.1.1, isBlind_of_false h.1.2⟩, pairsBlind_of_false h.2⟩

theorem restBlind_of_false : ∀ {rest : List (CompareOp × Expr)},
    restBlind k p false rest = true → restBlind k p passed rest = true
  | [], _ => rfl
  | (_, e) :: rest, h => by
    simp only [restBlind, Bool.and_eq_true] at h ⊢
    exact ⟨isBlind_of_false h.1, restBlind_of_false h.2⟩

theorem optionBlind_of_false : ∀ {e : Option Expr}, optionBlind k p false e = true →
    optionBlind k p passed e = true
  | none, _ => rfl
  | some e, h => isBlind_of_false (e := e) h

theorem argumentsBlind_of_false : ∀ {arguments : List (ArgumentKind × Expr)},
    argumentsBlind k p false arguments = true → argumentsBlind k p passed arguments = true
  | [], _ => rfl
  | (_, e) :: arguments, h => by
    simp only [argumentsBlind, Bool.and_eq_true] at h ⊢
    exact ⟨isBlind_of_false h.1, argumentsBlind_of_false h.2⟩

theorem isInvocation_of_false : ∀ {arguments : List (ArgumentKind × Expr)},
    isInvocation k p false arguments = true → isInvocation k p passed arguments = true
  | [(.positional, name), (.positional, props)], h => by
    simp only [isInvocation, Bool.and_eq_true, Bool.or_eq_true, Bool.false_and, Bool.false_eq_true,
      or_false] at h ⊢
    exact ⟨isBlind_of_false h.1, h.2.imp Or.inl isMade_of_false⟩

theorem isMade_of_false : ∀ {e : Expr}, e.isMade k p false = true → e.isMade k p passed = true
  | .call (.var name _) arguments, h => by
    simp only [isMade, Bool.and_eq_true, Bool.or_eq_true] at h ⊢
    exact ⟨h.1, h.2.imp (And.imp_right entriesMade_of_false) (And.imp_right propsMade_of_false)⟩

theorem entriesMade_of_false : ∀ {arguments : List (ArgumentKind × Expr)},
    entriesMade k p false arguments = true → entriesMade k p passed arguments = true
  | [], _ => rfl
  | [(.positional, e)], h => by
    simp only [entriesMade, Bool.or_eq_true] at h ⊢
    exact h.imp_left isBlind_of_false
  | (.positional, key) :: (.positional, value) :: more, h => by
    simp only [entriesMade, Bool.and_eq_true, Bool.or_eq_true] at h ⊢
    exact ⟨⟨isBlind_of_false h.1.1, h.1.2.imp_left isBlind_of_false⟩, entriesMade_of_false h.2⟩

theorem propsMade_of_false : ∀ {arguments : List (ArgumentKind × Expr)},
    propsMade k p false arguments = true → propsMade k p passed arguments = true
  | [], _ => rfl
  | (.positional, e) :: more, h => by
    simp only [propsMade, Bool.and_eq_true, Bool.or_eq_true] at h ⊢
    exact ⟨h.1.imp isBlind_of_false isMade_of_false, propsMade_of_false h.2⟩

end

end Expr

/-! ## The setting of blind code -/

/-- What is asked of blind code. -/
def Tests.blind (k : Text) (p : Text → Bool) (passed : Bool) : Tests :=
  ⟨Expr.isBlind k p passed, Expr.isBlind k p false,
    fun x => x != invokeName && x != Props.dictName && x != Props.mergeName && x != deferredName⟩

namespace Stmt

/-- Whether statements do not depend on what data has under the key `k`. -/
def areBlind (k : Text) (p : Text → Bool) (passed : Bool) (body : List Stmt) : Bool :=
  allOf (.blind k p passed) body

/-- What is blind without passing the caller's data on is blind. -/
theorem areBlind_of_false {body : List Stmt} (h : areBlind k p false body = true) :
    areBlind k p passed body = true :=
  have himply : (Tests.blind k p false).Imply (.blind k p passed) :=
    ⟨fun _ => Expr.isBlind_of_false, fun _ h => h, fun _ h => h⟩
  himply.stmts h

end Stmt

namespace Setting

/-- The setting of blind code: values hold no functions, and no slot source that does not pass
the test. -/
def blind (k : Text) (p : Text → Bool) (passed : Bool) : Setting where
  events := .same
  sources := p
  functions _ := false
  callable f := f != .deferred && f != .debug
  tests := .blind k p passed
  isVar x := isVisible k x && (Function.named? x).isNone
  isCallee := Expr.isBlindCallee k
  special := Expr.isGeneratedUse k p passed
  inMacro := Expr.isBlind_of_false
  parts := Expr.parts_of_isBlind
  special_var := rfl
  functions_callable h := by cases h
  callable_deferred h := by cases h
  functions_of_isVar h hf := by simp [hf] at h
  callable_of_isCallee := by
    intro x f hx hf
    simp only [Expr.isBlindCallee, Bool.and_eq_true, bne_iff_ne] at hx ⊢
    have hname := List.find?_some (p := fun f : Function => decide (f.name = x)) hf
    have heq : f.name = x := of_decide_eq_true hname
    refine ⟨?_, ?_⟩
    · rintro rfl
      exact hx.2 heq.symm
    · rintro rfl
      exact hx.1.2 heq.symm
  named_of_name := by
    intro x hx
    simp only [Tests.blind, Bool.and_eq_false_iff, bne_eq_false_iff_eq] at hx
    rcases hx with ((rfl | rfl) | rfl) | rfl <;> decide

/-- What values may hold does not depend on whether the caller's data are passed on. -/
theorem policy_blind (k : Text) (p : Text → Bool) (passed : Bool) :
    (blind k p passed).policy = (blind k p false).policy := rfl

end Setting

end Componentry.Template
