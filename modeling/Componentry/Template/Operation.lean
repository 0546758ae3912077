import Componentry.Template.Failure
import Componentry.Template.Tree

/-!
# Operators

What the operators of expressions do to values.

* Whole numbers have 128 bits and a result that does not fit is a failure.  A
  number that needs the sign's bit can be combined only with one that has more
  than 64 bits, and both are wrapped then.
* A division always gives a float, while `//` and `%` of whole numbers keep them
  whole with a remainder that is never negative.  The remainder of floats has the
  sign of the first.
* Sums, multiples and slices of lists are computed lists.
* Comparisons give truth values.
-/

namespace Componentry.Template

namespace Operation

/-- The size that a whole number has to stay below, so that it has 128 bits. -/
def wholeLimit : Int := Int.ofNat (Nat.pow 2 127)

/-- A whole number as a value, if it has at most 128 bits. -/
def whole (n : Int) : Except Cause Value :=
  if -wholeLimit ≤ n && n < wholeLimit then .ok (.int n) else .error .invalidOperation

/-- Two whole numbers as arithmetic sees them: each fits, or both are wide and are
wrapped. -/
def operands (a b : Int) : Except Cause (Int × Int) :=
  if Value.areWide a b then .ok (Value.wrapped a, Value.wrapped b)
  else if a < wholeLimit && b < wholeLimit then .ok (a, b)
  else .error .invalidOperation

/-- Arithmetic on two numbers or truth values: on whole ones, or on floats if one is
a float. -/
def numeric (ints : Int → Int → Except Cause Value) (floats : Float → Float → Float)
    (a b : Value) : Except Cause Value :=
  match a.int?, b.int? with
  | some x, some y => do
    let (x, y) ← operands x y
    ints x y
  | _, _ =>
    match a.float?, b.float? with
    | some x, some y => .ok (.float (floats x y))
    | _, _ => .error .invalidOperation

/-- Sums of numbers, strings and lists. -/
def add (a b : Value) : Except Cause Value :=
  match a, b with
  | .string x _, .string y _ => .ok (.ofText (x ++ y))
  | _, _ =>
    match a.listItems?, b.listItems? with
    | some x, some y => .ok (.iterable (x ++ y))
    | _, _ => numeric (fun x y => whole (x + y)) (· + ·) a b

/-- Repeats a text or a list as often as a number says. -/
def times {α : Type} (xs : List α) (count : Value) : Except Cause (List α) :=
  match count.int64? with
  | some (.ofNat n) => .ok (if xs.isEmpty then [] else (List.replicate n xs).flatten)
  | _ => .error .invalidOperation

/-- Products of numbers, and repetitions. -/
def multiply (a b : Value) : Except Cause Value :=
  match a, b with
  | .string s _, n | n, .string s _ => (times s n).map .ofText
  | .list xs, n | .iterable xs, n | n, .list xs | n, .iterable xs => (times xs n).map .iterable
  | _, _ => numeric (fun x y => whole (x * y)) (· * ·) a b

/-- Quotients, which are floats. -/
def divide (a b : Value) : Except Cause Value :=
  match a.float?, b.float? with
  | some x, some y => .ok (.float (x / y))
  | _, _ => .error .invalidOperation

/-- Whole quotients. -/
def floorDivide (a b : Value) : Except Cause Value :=
  numeric (fun x y => if y = 0 then .error .invalidOperation else whole (x / y)) Number.quotient a b

/-- Remainders. -/
def remainder (a b : Value) : Except Cause Value :=
  numeric (fun x y => if y = 0 then .error .invalidOperation else whole (x % y))
    Number.remainder a b

/-- Powers.  The exponent of a whole number is not negative and has 32 bits. -/
def power (a b : Value) : Except Cause Value :=
  numeric (fun x y =>
    match y with
    | .ofNat n =>
      if Nat.pow 2 32 ≤ n then .error .invalidOperation
      -- A base of more than one unit overflows long before this exponent.
      else if n ≤ 128 || x.natAbs ≤ 1 then whole (Int.pow x (if n ≤ 128 then n else n % 2 + 2))
      else .error .invalidOperation
    | .negSucc _ => .error .invalidOperation) Float.pow a b

/-- Whether a value is in a text, a list, or the keys of a map. -/
def isIn (a container : Value) : Except Cause Bool :=
  match container with
  | .undefined | .deferred _ | .routine .. | .function _ => .ok false
  | .string s _ => .ok (Text.occurs a.text s)
  | container =>
    match container.listItems?, container.entries? with
    | some items, _ => .ok (items.any fun v => Value.equal v a)
    | none, some entries => .ok (Value.lookup a entries).isSome
    | none, none => .error .invalidOperation

/-- A comparison of two values. -/
def compare (op : CompareOp) (a b : Value) : Except Cause Bool :=
  match op with
  | .equal => .ok (Value.equal a b)
  | .notEqual => .ok (!Value.equal a b)
  | .less => .ok (Value.order a b).isLT
  | .lessEqual => .ok (Value.order a b).isLE
  | .greater => .ok (Value.order a b).isGT
  | .greaterEqual => .ok (Value.order a b).isGE
  | .isIn => isIn a b
  | .isNotIn => (isIn a b).map not

/-- An operator on two values that have both been computed. -/
def binary (op : BinaryOp) (a b : Value) : Except Cause Value :=
  match op with
  | .or => .ok (if a.isTrue then a else b)
  | .and => .ok (if a.isTrue then b else a)
  | .add => add a b
  | .subtract => numeric (fun x y => whole (x - y)) (· - ·) a b
  | .concat => .ok (.ofText (a.text ++ b.text))
  | .multiply => multiply a b
  | .divide => divide a b
  | .floorDivide => floorDivide a b
  | .remainder => remainder a b
  | .power => power a b

/-- The sign changed. -/
def negate (a : Value) : Except Cause Value :=
  match a with
  | .int n => whole (-n)
  | .float x => .ok (.float (-x))
  | _ => .error .invalidOperation

/-- An operator on one value. -/
def unary (op : UnaryOp) (a : Value) : Except Cause Value :=
  match op with
  | .not => .ok (.bool !a.isTrue)
  | .negate => negate a

/-! ## Slices -/

/-- A bound of a slice, if it is given. -/
def bound (v : Value) : Except Cause (Option Int) :=
  match v with
  | .none => .ok Option.none
  | v =>
    match v.int64? with
    | some n => .ok (some n)
    | Option.none => .error .invalidOperation

/-- A bound among `n` items; a negative one counts from the end. -/
def fromStart (n : Nat) (b : Int) : Nat := (if b < 0 then b + n else b).toNat

/-- The positions of a slice that goes forward by `step`. -/
def forward (n : Nat) (start stop : Option Int) (step : Nat) : List Nat :=
  let first := (start.map (fromStart n)).getD 0
  let limit := (stop.map (fromStart n)).getD n
  (List.range ((min limit n - first + (step - 1)) / step)).map fun i => first + i * step

/-- The positions of a slice that goes backward by `step`, from its start down to
the one above its stop.  A stop at zero counts as well. -/
def backward (n : Nat) (start stop : Option Int) (step : Nat) : List Nat :=
  let first := (start.map fun b => min (fromStart n b) (n - 1)).getD (n - 1)
  let limit := (stop.map (fromStart n)).getD 0
  let count :=
    if n = 0 || first < limit then 0
    else if limit = 0 then (first + step) / step
    else (first - limit + (step - 1)) / step
  (List.range count).map fun i => first - i * step

/-- The items of a list at the positions of a slice. -/
def sliceList {α : Type} (xs : List α) (start stop : Option Int) (step : Int) : List α :=
  let positions :=
    if step < 0 then backward xs.length start stop step.natAbs
    else forward xs.length start stop step.natAbs
  positions.filterMap fun i => xs[i]?

/-- A slice of a string or a list. -/
def slice (v start stop step : Value) : Except Cause Value := do
  let start ← bound start
  let stop ← bound stop
  let step := (← bound step).getD 1
  if step = 0 then .error .invalidOperation
  else
    match v with
    | .undefined | .none => return .list []
    | .string s _ => return .ofText (sliceList s start stop step)
    | .list items | .iterable items => return .iterable (sliceList items start stop step)
    | _ => .error .invalidOperation

end Operation

/-! ## Parts -/

namespace Value

/-- An attribute of a value; a missing one is undefined, unless the value itself
is. -/
def member (v : Value) (name : Text) : Except Cause Value :=
  match v.member? name with
  | some w => .ok w
  | Option.none => if v.isUndefined then .error .undefinedValue else .ok .undefined

/-- The item of a value under a key; a missing one is undefined, unless the value
itself is. -/
def item (v key : Value) : Except Cause Value :=
  match v.item? key with
  | some w => .ok w
  | Option.none => if v.isUndefined then .error .undefinedValue else .ok .undefined

end Value

end Componentry.Template
