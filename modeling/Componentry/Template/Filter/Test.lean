import Componentry.Template.Arguments
import Componentry.Template.Filter.Items

/-!
# Tests

A test asks something of a value, `value is name(…)`.  Tests are looked up by name when they
run; several have more than one name.  That two values are the same object is not known here:
lists and maps count as the same if they are equal.
-/

namespace Componentry.Template

/-- The tests. -/
inductive Test where
  | defined | undefined | none | safe
  | boolean | odd | even | divisibleBy | number | integer | float | string
  | sequence | iterable | mapping | startingWith | endingWith | lower | upper | sameAs
  | compare (op : CompareOp)
  | isTrue | isFalse
  /-- Whether there is a filter of a name. -/
  | filter
  /-- Whether there is a test of a name. -/
  | test
deriving DecidableEq, Repr

namespace Test

/-- The tests under their names. -/
def table : List (Text × Test) :=
  [("defined".toList, defined), ("undefined".toList, undefined), ("none".toList, none),
    ("mapping".toList, mapping), ("safe".toList, safe), ("escaped".toList, safe),
    ("boolean".toList, boolean), ("odd".toList, odd), ("even".toList, even),
    ("divisibleby".toList, divisibleBy), ("number".toList, number), ("integer".toList, integer),
    ("int".toList, integer), ("float".toList, float), ("string".toList, string),
    ("sequence".toList, sequence), ("iterable".toList, iterable),
    ("startingwith".toList, startingWith), ("endingwith".toList, endingWith),
    ("lower".toList, lower), ("upper".toList, upper), ("sameas".toList, sameAs),
    ("eq".toList, compare .equal), ("equalto".toList, compare .equal),
    (['=', '='], compare .equal), ("ne".toList, compare .notEqual),
    (['!', '='], compare .notEqual), ("lt".toList, compare .less),
    ("lessthan".toList, compare .less), (['<'], compare .less),
    ("le".toList, compare .lessEqual), (['<', '='], compare .lessEqual),
    ("gt".toList, compare .greater), ("greaterthan".toList, compare .greater),
    (['>'], compare .greater), ("ge".toList, compare .greaterEqual),
    (['>', '='], compare .greaterEqual), (['i', 'n'], compare .isIn),
    ("true".toList, isTrue), ("false".toList, isFalse), ("filter".toList, filter),
    ("test".toList, test)]

/-- The test of a name. -/
def named? (name : Text) : Option Test :=
  (table.find? fun (n, _) => n = name).map Prod.snd

/-- How many arguments a test takes besides the value. -/
def arity : Test → Nat
  | divisibleBy | startingWith | endingWith | sameAs | compare _ => 1
  | _ => 0

/-- Whether a number is a multiple of another. -/
def isMultiple (v w : Value) : Bool :=
  match v.int?, w.int? with
  | some m, some n => n != 0 && m % n == 0
  | _, _ =>
    match v.float?, w.float? with
    | some x, some y => Number.remainder x y == 0
    | _, _ => false

/-- Whether a value passes a test, beside another value.  Whether there is a filter is
given. -/
def passes (hasFilter : Text → Bool) (t : Test) (v other : Value) : Bool :=
  match t with
  | defined => !v.isUndefined
  | undefined => v.isUndefined
  | none => v.kind = .none
  | mapping => v.kind = .map
  | safe => v.isSafe
  | boolean => v.kind = .bool
  | odd => v.int64?.any fun n => n % 2 != 0
  | even => v.int64?.any fun n => n % 2 == 0
  | divisibleBy => isMultiple v other
  | number => v.kind = .number
  | integer =>
    match v with
    | .int _ => true
    | _ => false
  | float =>
    match v with
    | .float _ => true
    | _ => false
  | string => v.kind = .string
  | sequence => v.kind = .seq
  | iterable => v.items?.isSome
  | startingWith => Text.startsWith other.text v.text
  | endingWith => Text.startsWith other.text.reverse v.text.reverse
  | lower => v.text.all Text.isLower
  | upper => v.text.all Text.isUpper
  | sameAs => v.kind = other.kind && v.equal other
  | compare op => ((Operation.compare op v other).toOption).getD false
  | isTrue => v.kind = .bool && v.isTrue
  | isFalse => v.kind = .bool && !v.isTrue
  | filter => v.text?.any hasFilter
  | test => v.text?.any fun name => (named? name).isSome

/-- The value that another one is compared with; undefined if there is none. -/
def other (t : Test) (args : Arguments) : Except Cause Value :=
  if t.arity = 0 then .ok .undefined else args.value 1

/-- Applies a test; the tested value is the first argument. -/
def apply (hasFilter : Text → Bool) (t : Test) (args : Arguments) : Except Cause Value := do
  let v ← args.value 0
  let other ← t.other args
  args.atMost (t.arity + 1)
  return .bool (t.passes hasFilter v other)

end Test

end Componentry.Template
