import Componentry.Template.Constant
import Componentry.Template.Filter
import Componentry.Template.Host

/-!
# Values of expressions

`Expr.eval` computes an expression in a scope.  Operands are computed from left to
right; `and`, `or`, conditions and chains of comparisons compute only what they
need.  Arguments are computed before the function, filter or test is looked up, the
named ones behind the others.  A failure is reported on the line of the operation
that fails.

What is run outside of the expression, such as definitions and macros, is run by the
`Host`, which is a parameter here: computing an expression is plain recursion on the
expression.  What that sets in the scope is not seen by the rest of the expression.
-/

namespace Componentry.Template

/-- Applies the filter of a name. -/
def applyFilter (name : Text) (args : Arguments) : Run Value :=
  match Filter.named? name with
  | some f => Run.ofExcept (f.apply args)
  | none => Run.fail .unknownFilter

/-- Applies the test of a name. -/
def applyTest (name : Text) (args : Arguments) : Run Value :=
  match Test.named? name with
  | some t => Run.ofExcept (t.apply (fun name => (Filter.named? name).isSome) args)
  | none => Run.fail .unknownTest

/-- Runs something with the arguments of a call, out of the values of its positional
and of its named ones.  A failure is on the given line. -/
def withArguments (line : Nat) (positional named : List (ArgumentKind × Value))
    (run : Arguments → Run Value) : Run Value :=
  Run.atLine line do run (← Run.ofExcept (Arguments.collect positional named))

/-- What a call is of. -/
inductive Callee where
  /-- What a name means. -/
  | name (name : Text)
  /-- An attribute of a value. -/
  | member (v : Value) (name : Text)
  | value (v : Value)

/-- Calls something. -/
def Callee.call (h : Host) (scope : Scope) (c : Callee) (args : Arguments) : Run Value :=
  match c with
  | name x => scope.call h x args
  | member v x => v.callMember h scope x args
  | value v => v.call h scope args

/-- The variable that stands for the template, whose attributes are its blocks. -/
def selfName : Text := ['s', 'e', 'l', 'f']

namespace Expr

/-- The block that the callee of a call names. -/
def block? : Expr → Option Text
  | member (var x _) name => if x = selfName then some name else none
  | _ => none

mutual

/-- The value of an expression. -/
def eval (h : Host) (scope : Scope) : Expr → Run Value
  | var name _ => Run.refresh (scope.lookup h.data name)
  | const literal _ => return literal.value
  | list items _ => do return .list (← evalItems h scope items)
  | map pairs _ => do return .ofEntries (← evalPairs h scope pairs)
  | unary op a line => do
    let v ← eval h scope a
    Run.atLine line (Run.ofExcept (Operation.unary op v))
  | binary op a b _ => do
    let v ← eval h scope a
    match op with
    | .or => if v.isTrue then return v else eval h scope b
    | .and =>
      if a.isConstant && b.isConstant then return v.conjunction (← eval h scope b)
      else if v.isTrue then eval h scope b
      else return v
    | op => do
      let w ← eval h scope b
      Run.atLine b.line (Run.ofExcept (Operation.binary op v w))
  | compare a rest _ => do
    let v ← eval h scope a
    return .bool (← evalCompare h scope v rest)
  | ifElse condition yes no => do
    if (← eval h scope condition).isTrue then eval h scope yes
    else evalOption h scope .undefined no
  | filter name a arguments => do
    let v ← eval h scope a
    let positional ← evalArguments h scope false arguments
    let named ← evalArguments h scope true arguments
    withArguments (argumentsLine a.line arguments) positional named fun args =>
      applyFilter name (args.cons v)
  | test name a arguments => do
    let v ← eval h scope a
    let positional ← evalArguments h scope false arguments
    let named ← evalArguments h scope true arguments
    withArguments (argumentsLine a.line arguments) positional named fun args =>
      applyTest name (args.cons v)
  | member a name => do
    let v ← eval h scope a
    Run.atLine a.line (Run.ofExcept (v.member name))
  | item a key => do
    let v ← eval h scope a
    let k ← eval h scope key
    Run.atLine key.line (Run.ofExcept (v.item k))
  | slice a start stop step => do
    let v ← eval h scope a
    let low ← evalOption h scope .none start
    let high ← evalOption h scope .none stop
    let stride ← evalOption h scope .none step
    Run.atLine (optionLine (optionLine (optionLine a.line start) stop) step)
      (Run.ofExcept (Operation.slice v low high stride))
  | call f arguments =>
    match f.block? with
    | some name => Run.atLine f.line (scope.callBlock h name)
    | none => do
      let callee ← evalCallee h scope (eval h scope f) f
      let positional ← evalArguments h scope false arguments
      let named ← evalArguments h scope true arguments
      withArguments (argumentsLine f.line arguments) positional named (callee.call h scope)
termination_by structural e => e

/-- What a call is of, where an expression with the given value is called. -/
def evalCallee (h : Host) (scope : Scope) (value : Run Value) : Expr → Run Callee
  | var name _ => return .name name
  | member a name => do return .member (← eval h scope a) name
  | _ => do return .value (← value)
termination_by structural e => e

/-- The values of items. -/
def evalItems (h : Host) (scope : Scope) : List Expr → Run (List Value)
  | [] => return []
  | e :: more => do
    let v ← eval h scope e
    return v :: (← evalItems h scope more)
termination_by structural es => es

/-- The values of keys and values. -/
def evalPairs (h : Host) (scope : Scope) :
    List (Expr × Expr) → Run (List (Value × Value))
  | [] => return []
  | (key, value) :: more => do
    let k ← eval h scope key
    let v ← eval h scope value
    return (k, v) :: (← evalPairs h scope more)
termination_by structural ps => ps

/-- The value of an expression that may be left out. -/
def evalOption (h : Host) (scope : Scope) (default : Value) : Option Expr → Run Value
  | none => return default
  | some e => eval h scope e
termination_by structural e => e

/-- Whether the comparisons of a chain hold, the first of which is with the given
value.  What is behind one that does not hold is not computed. -/
def evalCompare (h : Host) (scope : Scope) (v : Value) :
    List (CompareOp × Expr) → Run Bool
  | [] => return true
  | (op, e) :: more => do
    let w ← eval h scope e
    if ← Run.atLine e.line (Run.ofExcept (Operation.compare op v w)) then
      evalCompare h scope w more
    else return false
termination_by structural es => es

/-- The values of those arguments that are named, or of those that are not. -/
def evalArguments (h : Host) (scope : Scope) (named : Bool) :
    List (ArgumentKind × Expr) → Run (List (ArgumentKind × Value))
  | [] => return []
  | (kind, e) :: more => do
    if kind.isNamed = named then
      let v ← eval h scope e
      return (kind, v) :: (← evalArguments h scope named more)
    else evalArguments h scope named more
termination_by structural args => args

end

/-- No argument is named if all are given by position. -/
theorem evalArguments_named {h : Host} {scope : Scope}
    {arguments : List (ArgumentKind × Expr)} (hkind : ∀ a ∈ arguments, a.1 = .positional) :
    evalArguments h scope true arguments = pure [] := by
  induction arguments with
  | nil => rfl
  | cons a arguments ih =>
    obtain ⟨kind, e⟩ := a
    rw [List.forall_mem_cons] at hkind
    obtain ⟨rfl, hkind⟩ := hkind
    exact ih hkind

/-- The value of a call that passes on more named arguments than it is written with; of
anything else its value. -/
def evalCall (h : Host) (scope : Scope) (more : List (ArgumentKind × Value)) : Expr → Run Value
  | call f arguments =>
    match f.block? with
    | some name => Run.atLine f.line (scope.callBlock h name)
    | none => do
      let callee ← evalCallee h scope (eval h scope f) f
      let positional ← evalArguments h scope false arguments
      let named ← evalArguments h scope true arguments
      withArguments (argumentsLine f.line arguments) positional (named ++ more)
        (callee.call h scope)
  | e => eval h scope e

/-- A call passes on what it is written with. -/
theorem eval_call (h : Host) (scope : Scope) (f : Expr) (arguments : List (ArgumentKind × Expr)) :
    eval h scope (call f arguments) = evalCall h scope [] (call f arguments) := by
  simp only [evalCall, List.append_nil]
  rfl

/-- A call of a name is one of what the name means. -/
theorem eval_call_var (h : Host) (scope : Scope) (name : Text) (line : Nat)
    (arguments : List (ArgumentKind × Expr)) :
    eval h scope (call (var name line) arguments) = (do
      let positional ← evalArguments h scope false arguments
      let named ← evalArguments h scope true arguments
      withArguments (argumentsLine line arguments) positional named (scope.call h name)) := rfl

end Expr

end Componentry.Template
