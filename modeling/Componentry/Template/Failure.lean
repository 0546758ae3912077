import Componentry.Template.Token
import Componentry.Template.Value

/-!
# Failures of running templates

A failure has a cause and, once it has passed an expression of a template, the
line of that expression.
-/

namespace Componentry.Template

/-- Why running a template fails. -/
inductive Cause where
  | templateNotFound
  | unknownFunction
  | unknownFilter
  | unknownTest
  | unknownMethod
  | undefinedValue
  | missingArgument
  | tooManyArguments
  | cannotUnpack
  /-- An operation that its operands do not support. -/
  | invalidOperation
  /-- A source that does not parse. -/
  | parse (kind : FaultKind)
  /-- An odd number of arguments where keys and values alternate. -/
  | oddArguments
  /-- A value that is no map where maps are merged. -/
  | notMergeable (kind : ValueKind)
  /-- An invocation below the deepest level allowed. -/
  | tooDeep (name : Text)
  /-- An invocation before the base is sealed. -/
  | notSealed
  /-- An invocation after the base is gone. -/
  | dropped
deriving DecidableEq, Repr

/-- How deep invocations may nest. -/
def invocationLimit : Nat := 64

namespace Cause

/-- The general wording of a cause. -/
def message : Cause → Text
  | templateNotFound => "template not found".toList
  | unknownFunction => "unknown function".toList
  | unknownFilter => "unknown filter".toList
  | unknownTest => "unknown test".toList
  | unknownMethod => "unknown method".toList
  | undefinedValue => "undefined value".toList
  | missingArgument => "missing argument".toList
  | tooManyArguments => "too many arguments".toList
  | cannotUnpack => "cannot unpack".toList
  | parse kind => kind.message.toList
  | invalidOperation | oddArguments | notMergeable _ | tooDeep _ | notSealed | dropped =>
    "invalid operation".toList

/-- The particulars of a cause. -/
def detail? : Cause → Option Text
  | oddArguments => some "dict expects an even number of arguments".toList
  | notMergeable kind => some ("cannot merge a value of kind ".toList ++ kind.name)
  | tooDeep name =>
    some ("invocation of `".toList ++ name ++ "` nested deeper than ".toList ++
      Text.ofNat invocationLimit)
  | notSealed => some "base namespace is not sealed yet".toList
  | dropped => some "base namespace was dropped".toList
  | _ => none

end Cause

/-- A failure: its cause, and the line of the expression that failed. -/
structure Failure where
  cause : Cause
  line : Option Nat
deriving DecidableEq, Repr

end Componentry.Template
