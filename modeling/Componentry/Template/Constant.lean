import Componentry.Template.Operation

/-!
# Constant expressions and the lines of failures

An expression made of constants alone is computed once and for all
(`Expr.constant?`).  Lists and maps belong to these only if their parts are written
out as constants, and an operation only if it does not fail.

An operation that fails is reported on the line of the last part that was computed
for it; `Expr.line` is that line for what is behind an expression.  A constant
expression is one part, on the line it starts on.
-/

namespace Componentry.Template

/-- The value of a constant. -/
def Literal.value : Literal → Value
  | .none => .none
  | .bool b => .bool b
  | .string s => .ofText s
  | .integer n => .int n
  | .float digits exponent => .float (Number.nearest digits exponent)

/-- The conjunction of constants, which is false unless both are true. -/
def Value.conjunction (a b : Value) : Value := if a.isTrue && b.isTrue then b else .bool false

namespace Expr

/-- The value of a constant that is written out. -/
def literal? : Expr → Option Value
  | const value _ => some value.value
  | _ => none

/-- The values of constants that are written out in pairs. -/
def literalPair? : Expr × Expr → Option (Value × Value)
  | (key, value) => do return (← key.literal?, ← value.literal?)

/-- The value of a constant expression. -/
def constant? : Expr → Option Value
  | const value _ => some value.value
  | list items _ => (items.mapM literal?).map .list
  | map pairs _ => (pairs.mapM literalPair?).map .ofEntries
  | unary op a _ => do (Operation.unary op (← a.constant?)).toOption
  | binary op a b _ => do
    let v ← a.constant?
    let w ← b.constant?
    match op with
    | .and => some (v.conjunction w)
    | op => (Operation.binary op v w).toOption
  | compare a [(op, b)] _ => do
    (Operation.compare op (← a.constant?) (← b.constant?)).toOption.map .bool
  | _ => none

/-- Whether an expression is constant. -/
def isConstant (e : Expr) : Bool := e.constant?.isSome

/-- Whether the named arguments are known before the call: all of them are constants
that are written out. -/
def areKnown (arguments : List (ArgumentKind × Expr)) : Bool :=
  arguments.all fun
    | (.named _, e) => e.literal?.isSome
    | (.nameds, _) => false
    | _ => true

/-- The line behind arguments, out of the lines of the last one that is not named and
the last one that is.  Named ones come last, unless they are known. -/
def lastLine (default : Nat) (known : Bool) : Option Nat × Option Nat → Nat
  | (positional, named) => ((if known then none else named).or positional).getD default

mutual

/-- The line on which a failure right behind an expression is reported. -/
def line : Expr → Nat
  | var _ line => line
  | const _ line => line
  | list items line => if (list items line).isConstant then line else itemsLine line items
  | map pairs line => if (map pairs line).isConstant then line else pairsLine line pairs
  | unary op a line => if (unary op a line).isConstant then line else a.line
  | binary op a b line => if (binary op a b line).isConstant then line else b.line
  | compare a rest line => if (compare a rest line).isConstant then line else restLine a.line rest
  | ifElse _ yes no => optionLine yes.line no
  | filter _ a arguments => lastLine a.line (areKnown arguments) (argumentLines arguments)
  | test _ a arguments => lastLine a.line (areKnown arguments) (argumentLines arguments)
  | member a _ => a.line
  | item _ key => key.line
  | slice a start stop step => optionLine (optionLine (optionLine a.line start) stop) step
  | call f arguments => lastLine f.line (areKnown arguments) (argumentLines arguments)
termination_by structural e => e

/-- The line of the last item. -/
def itemsLine (default : Nat) : List Expr → Nat
  | [] => default
  | e :: more => itemsLine e.line more
termination_by structural es => es

/-- The line of the last value of pairs. -/
def pairsLine (default : Nat) : List (Expr × Expr) → Nat
  | [] => default
  | (_, value) :: more => pairsLine value.line more
termination_by structural ps => ps

/-- The line of the last operand of comparisons. -/
def restLine (default : Nat) : List (CompareOp × Expr) → Nat
  | [] => default
  | (_, e) :: more => restLine e.line more
termination_by structural es => es

/-- The lines of the last argument that is not named, and of the last that is. -/
def argumentLines : List (ArgumentKind × Expr) → Option Nat × Option Nat
  | [] => (none, none)
  | (kind, e) :: more =>
    let (positional, named) := argumentLines more
    if kind.isNamed then (positional, named.or (some e.line))
    else (positional.or (some e.line), named)
termination_by structural args => args

/-- The line of an operand that may be missing. -/
def optionLine (default : Nat) : Option Expr → Nat
  | none => default
  | some e => e.line
termination_by structural e => e

end

/-- The line of the last argument. -/
def argumentsLine (default : Nat) (arguments : List (ArgumentKind × Expr)) : Nat :=
  lastLine default (areKnown arguments) (argumentLines arguments)

end Expr

end Componentry.Template
