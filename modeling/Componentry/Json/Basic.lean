import Componentry.Text.Quoted

/-!
# JSON values

Data and options come as JSON.  `Json.read` reads one value off the start of a
text and returns the rest; `Json.parse` reads a whole text.  A text that ends too
early is told apart from one that is malformed.  Numbers without a fraction and
an exponent that fit into 64 bits are integers, all others are floats: the first
digits, as many as 64 bits hold, times a power of ten (`scaled?`).
-/

namespace Componentry

/-- A JSON value.  The fields of an object are in the order they are written. -/
inductive Json where
  | null
  | bool (value : Bool)
  | int (value : Int)
  | float (value : Float)
  | string (value : Text)
  | array (items : List Json)
  | object (fields : List (Text × Json))

namespace Json

/-- Why a text is not JSON. -/
inductive Fault where
  /-- The text ends inside a value. -/
  | unfinished
  /-- The text does not follow the grammar. -/
  | malformed
deriving DecidableEq, Repr

/-- The fault of a string literal that cannot be read. -/
def Fault.ofQuoted : Text.QuotedFault → Fault
  | .unterminated => .unfinished
  | .malformed => .malformed

/-- Drops leading white space. -/
def skip (s : Text) : Text :=
  s.dropWhile fun c => c = ' ' || c = '\n' || c = '\t' || c = '\r'

/-- Reads a fixed word. -/
def expect : Text → Text → Except Fault Text
  | [], s => .ok s
  | _ :: _, [] => .error .unfinished
  | c :: word, d :: s => if c = d then expect word s else .error .malformed

/-! ## Numbers -/

/-- The value of decimal digits read behind `n`. -/
def digitsValue (n : Nat) (digits : Text) : Nat :=
  digits.foldl (fun n c => n * 10 + (c.toNat - '0'.toNat)) n

/-- Reads one digit or more. -/
def readDigits (s : Text) : Except Fault (Text × Text) :=
  match s.takeWhile Text.isAsciiDigit with
  | [] => .error (if s.isEmpty then .unfinished else .malformed)
  | digits => .ok (digits, s.dropWhile Text.isAsciiDigit)

/-- The digits before the fraction: a leading zero stands alone. -/
def readWhole (s : Text) : Except Fault (Text × Text) := do
  let (digits, rest) ← readDigits s
  match digits with
  | '0' :: _ :: _ => .error .malformed
  | _ => .ok (digits, rest)

/-- The digits of a fraction, if there is one. -/
def readFraction (s : Text) : Except Fault (Option Text × Text) :=
  match s with
  | '.' :: t => (readDigits t).map fun (digits, rest) => (some digits, rest)
  | _ => .ok (none, s)

/-- The exponent, if there is one. -/
def readExponent (s : Text) : Except Fault (Option Int × Text) :=
  match s with
  | c :: t =>
    if c = 'e' || c = 'E' then
      let (negative, t) := match t with
        | '-' :: t => (true, t)
        | '+' :: t => (false, t)
        | _ => (false, t)
      (readDigits t).map fun (digits, rest) =>
        let n : Int := digitsValue 0 digits
        (some (if negative then -n else n), rest)
    else .ok (none, s)
  | [] => .ok (none, s)

/-- Takes the digits that fit into 64 bits behind `n`: the number and the digits
left over. -/
def fittingDigits (n : Nat) : Text → Nat × Text
  | [] => (n, [])
  | c :: s =>
    let m := n * 10 + (c.toNat - '0'.toNat)
    if m < Nat.pow 2 64 then fittingDigits m s else (n, c :: s)

/-- The first digits of a decimal as a number of 64 bits, and the power of ten that
goes with it.  Digits that no longer fit only count for the power. -/
def significand (whole fraction : Text) : Nat × Int :=
  let (n, excess) := fittingDigits 0 whole
  let (m, left) := fittingDigits n fraction
  (m, (excess.length : Int) - (fraction.length - left.length : Nat))

/-- A power of ten as a float. -/
def powerOfTen (e : Nat) : Float := Float.ofScientific 1 false e

/-- A float divided by `10 ^ e`, by the largest power of ten that is a float at a
time. -/
def divideByTens (x : Float) (e : Nat) : Float :=
  if e ≤ 308 then x / powerOfTen e
  else if x == 0 then x
  else divideByTens (x / powerOfTen 308) (e - 308)
termination_by e

/-- The float `n · 10 ^ e`, rounded once for `n` and once for each power of ten;
none if it is too large. -/
def scaled? (n : Nat) (e : Int) : Option Float :=
  match e with
  | .ofNat e =>
    if n = 0 then some 0
    else
      let x := Float.ofNat n * powerOfTen (min e 400)
      if x.isInf then none else some x
  | .negSucc e => some (divideByTens (Float.ofNat n) (e + 1))

/-- The value of a number without its sign. -/
def numberValue (negative : Bool) (whole : Text) (fraction : Option Text) (exponent : Option Int) :
    Except Fault Json :=
  let n := digitsValue 0 whole
  let integral := fraction.isNone && exponent.isNone
  if integral && !negative && n < Nat.pow 2 64 then .ok (.int n)
  else if integral && negative && 0 < n && n ≤ Nat.pow 2 63 then .ok (.int (-n))
  else
    let (m, e) := significand whole (fraction.getD [])
    match scaled? m (e + exponent.getD 0) with
    | some x => .ok (.float (if negative then -x else x))
    | none => .error .malformed

/-- Reads a number. -/
def readNumber (s : Text) : Except Fault (Json × Text) := do
  let (negative, t) := match s with
    | '-' :: t => (true, t)
    | _ => (false, s)
  let (whole, t) ← readWhole t
  let (fraction, t) ← readFraction t
  let (exponent, rest) ← readExponent t
  return (← numberValue negative whole fraction exponent, rest)

/-! ## Values -/

/-- Reads a string whose opening quote has been read. -/
def readString (s : Text) : Except Fault (Text × Text) :=
  (Text.readQuoted s).mapError Fault.ofQuoted

/-- Reads the colon between a field's name and its value. -/
def readColon (s : Text) : Except Fault Text := expect [':'] (skip s)

/-- Moves to the next item of a list or an object that `close` ends: what is left
before the item, or nothing behind the end.  A comma must stand before every item
but the first, and never before the end. -/
def nextItem (close : Char) (first : Bool) (s : Text) : Except Fault (Sum Text Text) :=
  match skip s with
  | [] => .error .unfinished
  | c :: t =>
    if c = close then .ok (.inr t)
    else if first then .ok (.inl (c :: t))
    else if c = ',' then
      match skip t with
      | [] => .error .unfinished
      | d :: t => if d = close then .error .malformed else .ok (.inl (d :: t))
    else .error .malformed

mutual

/-- Reads a value.  At most `depth` lists and objects may be open, and `fuel`
bounds the number of steps. -/
def readValue (fuel depth : Nat) (s : Text) : Except Fault (Json × Text) :=
  match fuel with
  | 0 => .error .malformed
  | fuel + 1 =>
    match skip s with
    | [] => .error .unfinished
    | 'n' :: t => (expect ['u', 'l', 'l'] t).map (.null, ·)
    | 't' :: t => (expect ['r', 'u', 'e'] t).map (.bool true, ·)
    | 'f' :: t => (expect ['a', 'l', 's', 'e'] t).map (.bool false, ·)
    | '"' :: t => (readString t).map fun (value, rest) => (.string value, rest)
    | '[' :: t =>
      if depth ≤ 1 then .error .malformed
      else (readItems fuel (depth - 1) true t).map fun (items, rest) => (.array items, rest)
    | '{' :: t =>
      if depth ≤ 1 then .error .malformed
      else (readFields fuel (depth - 1) true t).map fun (fields, rest) => (.object fields, rest)
    | c :: t => if c = '-' || Text.isAsciiDigit c then readNumber (c :: t) else .error .malformed

/-- Reads the items of a list up to its end. -/
def readItems (fuel depth : Nat) (first : Bool) (s : Text) : Except Fault (List Json × Text) :=
  match fuel with
  | 0 => .error .malformed
  | fuel + 1 => do
    match ← nextItem ']' first s with
    | .inr rest => return ([], rest)
    | .inl t =>
      let (item, t) ← readValue fuel depth t
      let (items, rest) ← readItems fuel depth false t
      return (item :: items, rest)

/-- Reads the fields of an object up to its end. -/
def readFields (fuel depth : Nat) (first : Bool) (s : Text) :
    Except Fault (List (Text × Json) × Text) :=
  match fuel with
  | 0 => .error .malformed
  | fuel + 1 => do
    match ← nextItem '}' first s with
    | .inr rest => return ([], rest)
    | .inl t =>
      let t ← expect ['"'] t
      let (name, t) ← readString t
      let t ← readColon t
      let (value, t) ← readValue fuel depth t
      let (fields, rest) ← readFields fuel depth false t
      return ((name, value) :: fields, rest)

end

/-- How deep lists and objects may nest. -/
def depthLimit : Nat := 128

/-- Reads a value off the start of a text. -/
def read (s : Text) : Except Fault (Json × Text) := readValue (2 * s.length + 2) depthLimit s

/-- Reads a text that is one value. -/
def parse (s : Text) : Except Fault Json := do
  let (value, rest) ← read s
  if (skip rest).isEmpty then return value else .error .malformed

/-- The last value of a field. -/
def field? (name : Text) : Json → Option Json
  | .object fields => (fields.reverse.find? (·.1 = name)).map Prod.snd
  | _ => none

end Json

end Componentry
