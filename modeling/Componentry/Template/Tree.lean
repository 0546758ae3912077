import Componentry.Template.Token

/-!
# Syntax trees of templates

Expressions and statements as the parser builds them.  They remember the lines on
which their parts start, as far as a failure can be reported there.
-/

namespace Componentry.Template

/-- A constant in the source. -/
inductive Literal where
  | none
  | bool (value : Bool)
  | string (value : Text)
  | integer (value : Nat)
  /-- The number `digits · 10 ^ exponent`. -/
  | float (digits : Nat) (exponent : Int)
deriving DecidableEq, Repr

/-- Operators with one operand. -/
inductive UnaryOp where
  | not
  | negate
deriving DecidableEq, Repr

/-- Operators with two operands. -/
inductive BinaryOp where
  | or | and
  | add | subtract | concat | multiply | divide | floorDivide | remainder | power
deriving DecidableEq, Repr

/-- Operators that compare two operands. -/
inductive CompareOp where
  | equal | notEqual | less | lessEqual | greater | greaterEqual | isIn | isNotIn
deriving DecidableEq, Repr

/-- How an argument is handed to a call. -/
inductive ArgumentKind where
  | positional
  | named (name : Text)
  /-- A list of positional arguments. -/
  | positionals
  /-- A map of named arguments. -/
  | nameds
deriving DecidableEq, Repr

/-- Whether an argument goes into the map of named ones. -/
def ArgumentKind.isNamed : ArgumentKind → Bool
  | named _ | nameds => true
  | positional | positionals => false

/-- An expression. -/
inductive Expr where
  | var (name : Text) (line : Nat)
  | const (value : Literal) (line : Nat)
  | list (items : List Expr) (line : Nat)
  | map (pairs : List (Expr × Expr)) (line : Nat)
  | unary (op : UnaryOp) (operand : Expr) (line : Nat)
  | binary (op : BinaryOp) (left right : Expr) (line : Nat)
  /-- A chain of comparisons, each of an operand with the one before it. -/
  | compare (first : Expr) (rest : List (CompareOp × Expr)) (line : Nat)
  | ifElse (test yes : Expr) (no : Option Expr)
  | filter (name : Text) (operand : Expr) (arguments : List (ArgumentKind × Expr))
  | test (name : Text) (operand : Expr) (arguments : List (ArgumentKind × Expr))
  | member (operand : Expr) (name : Text)
  | item (operand key : Expr)
  | slice (operand : Expr) (start stop step : Option Expr)
  | call (function : Expr) (arguments : List (ArgumentKind × Expr))

/-- What is assigned to. -/
inductive Target where
  | var (name : Text)
  /-- An attribute of what an expression computes. -/
  | member (object : Expr) (name : Text)
  | list (targets : List Target) (line : Nat)

/-- A filter with its arguments. -/
structure FilterCall where
  name : Text
  line : Nat
  arguments : List (ArgumentKind × Expr)

/-- A statement. -/
inductive Stmt where
  /-- Text that is written out as it is. -/
  | data (text : Text)
  /-- An expression whose value is written out. -/
  | emit (value : Expr)
  | ifElse (test : Expr) (yes no : List Stmt)
  | forEach (target : Target) (items : Expr) (condition : Option Expr) (recursive : Bool)
      (body otherwise : List Stmt)
  | set (target : Target) (value : Expr)
  | setBlock (target : Target) (filters : List FilterCall) (body : List Stmt)
  | withVars (assignments : List (Target × Expr)) (body : List Stmt)
  | autoescape (enabled : Expr) (body : List Stmt)
  | filterBlock (filters : List FilterCall) (body : List Stmt)
  /-- A named block.  One that is required has no contents of its own. -/
  | block (name : Text) (required : Bool) (line : Nat) (body : List Stmt)
  | extendsFrom (name : Expr)
  | includeFrom (name : Expr) (ignoreMissing : Bool)
  | importAs (name : Expr) (target : Expr)
  | importNames (name : Expr) (names : List (Text × Option Text))
  | macroDef (name : Text) (parameters : List Text) (defaults : List Expr) (body : List Stmt)
  | callBlock (call : Expr) (parameters : List Text) (defaults : List Expr) (body : List Stmt)
  | doCall (call : Expr)

/-- A piece of template that can be called. -/
structure Macro where
  name : Text
  parameters : List Text
  /-- The values of the last parameters where none are given. -/
  defaults : List Expr
  body : List Stmt

/-- A loop whose body can be run again for other items. -/
structure LoopCode where
  target : Target
  /-- The line of what the loop is over. -/
  line : Nat
  body : List Stmt

end Componentry.Template
