import Componentry.Template.Tree

/-!
# Names that macros take along

A macro is called in a scope of its own.  Of the variables where it is defined it takes along
those that its body uses without setting them first (`Macro.freeNames`).  A name counts as set
from the statement on that assigns it, up to the end of the body the statement stands in; what
an assignment assigns counts as set in its value as well.

The templates that a macro includes or extends are not looked at, nor are the names of these.
-/

namespace Componentry.Template

/-- The names met so far: those used before they were set, and those set. -/
structure Names where
  free : List Text
  set : List Text

namespace Names

/-- A name is used. -/
def use (name : Text) (n : Names) : Names :=
  if n.set.contains name || n.free.contains name then n else { n with free := n.free ++ [name] }

/-- A name is set. -/
def assign (name : Text) (n : Names) : Names := { n with set := name :: n.set }

/-- What is set within is not set behind it. -/
def within (f : Names → Names) (n : Names) : Names := { f n with set := n.set }

end Names

namespace Expr

mutual

/-- The names that an expression uses. -/
def names (n : Names) : Expr → Names
  | var name _ => n.use name
  | const .. => n
  | list items _ => itemNames n items
  | map pairs _ => pairNames n pairs
  | unary _ a _ => names n a
  | binary _ a b _ => names (names n a) b
  | compare a rest _ => restNames (names n a) rest
  | ifElse condition yes no => optionNames (names (names n condition) yes) no
  | filter _ a arguments => argumentNames (names n a) arguments
  | test _ a arguments => argumentNames (names n a) arguments
  | member a _ => names n a
  | item a key => names (names n a) key
  | slice a start stop step => optionNames (optionNames (optionNames (names n a) start) stop) step
  | call f arguments => argumentNames (names n f) arguments
termination_by structural e => e

/-- The names that items use. -/
def itemNames (n : Names) : List Expr → Names
  | [] => n
  | e :: more => itemNames (names n e) more
termination_by structural es => es

/-- The names that keys and values use. -/
def pairNames (n : Names) : List (Expr × Expr) → Names
  | [] => n
  | (key, value) :: more => pairNames (names (names n key) value) more
termination_by structural ps => ps

/-- The names that the operands of comparisons use. -/
def restNames (n : Names) : List (CompareOp × Expr) → Names
  | [] => n
  | (_, e) :: more => restNames (names n e) more
termination_by structural es => es

/-- The names that an expression uses, if there is one. -/
def optionNames (n : Names) : Option Expr → Names
  | none => n
  | some e => names n e
termination_by structural e => e

/-- The names that arguments use. -/
def argumentNames (n : Names) : List (ArgumentKind × Expr) → Names
  | [] => n
  | (_, e) :: more => argumentNames (names n e) more
termination_by structural args => args

end

end Expr

namespace Target

mutual

/-- The names that a target sets, and those that it uses. -/
def names (n : Names) : Target → Names
  | var name => n.assign name
  | member object _ => object.names n
  | list targets _ => allNames n targets
termination_by structural t => t

/-- The names of several targets. -/
def allNames (n : Names) : List Target → Names
  | [] => n
  | t :: more => allNames (names n t) more
termination_by structural ts => ts

end

end Target

namespace Stmt

/-- The names of assignments. -/
def assignmentNames (n : Names) (assignments : List (Target × Expr)) : Names :=
  assignments.foldl (fun n (target, value) => value.names (target.names n)) n

/-- The names that parameters set, and that their defaults use. -/
def parameterNames (n : Names) (parameters : List Text) (defaults : List Expr) : Names :=
  defaults.foldl Expr.names (parameters.foldl (fun n name => n.assign name) n)

mutual

/-- The names that a statement uses and sets. -/
def names (n : Names) : Stmt → Names
  | data _ | extendsFrom _ | includeFrom .. => n
  | emit e | doCall e => e.names n
  | ifElse test yes no => n |> test.names |> .within (allNames · yes) |> .within (allNames · no)
  | forEach target items condition _ body otherwise =>
    n |> .within (fun n =>
        allNames (Expr.optionNames (target.names (items.names (n.assign Keyword.kLoop.text)))
          condition) body)
      |> .within (allNames · otherwise)
  | set target value => value.names (target.names n)
  | setBlock target _ body => (target.names n).within (allNames · body)
  | withVars assignments body => n.within fun n => allNames (assignmentNames n assignments) body
  | autoescape _ body | filterBlock _ body => n.within (allNames · body)
  | block _ _ _ body => n.within fun n => allNames (n.assign ['s', 'u', 'p', 'e', 'r']) body
  | importAs _ target =>
    match target with
    | .var name _ => n.assign name
    | _ => n
  | importNames _ names => names.foldl (fun n (name, renamed) => n.assign (renamed.getD name)) n
  | macroDef name parameters defaults body =>
    allNames (parameterNames (n.assign name) parameters defaults) body
  | callBlock call parameters defaults body =>
    allNames (parameterNames (call.names n) parameters defaults) body
termination_by structural s => s

/-- The names that statements use and set. -/
def allNames (n : Names) : List Stmt → Names
  | [] => n
  | s :: more => allNames (names n s) more
termination_by structural ss => ss

end

end Stmt

namespace Macro

/-- The name of the variable that holds the body of a call. -/
def callerName : Text := ['c', 'a', 'l', 'l', 'e', 'r']

/-- The names that a macro uses without setting them. -/
def allFreeNames (m : Macro) : List Text :=
  (Stmt.allNames (Stmt.parameterNames ⟨[], []⟩ m.parameters m.defaults) m.body).free

/-- Whether a macro uses the body of the call. -/
def usesCaller (m : Macro) : Bool := m.allFreeNames.contains callerName

/-- The names that a macro takes along. -/
def freeNames (m : Macro) : List Text := m.allFreeNames.filter (· != callerName)

end Macro

end Componentry.Template
