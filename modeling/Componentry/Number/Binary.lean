import Componentry.Text.Basic

/-!
# Floats as exact numbers

A finite float is `m · 2 ^ q` with whole numbers `m` and `q`, up to its sign
(`Binary.ofBits`).  What is said of floats here is exact arithmetic on these parts.

* `order` puts all floats in one order and `orderWhole` compares a float with a
  whole number, neither of which is rounded first.
* `remainder` is what is left of one float when another is taken away as often as
  it fits; it is a float again, so nothing is rounded (`Binary.bits` puts its parts
  together), and `quotient` is the whole quotient that leaves no negative rest.
* `whole?` and `isExact` say when a float is a whole number and a whole number a
  float.
* `nearest` reads a decimal, whatever the size of its exponent.
-/

namespace Componentry.Number

/-- The parts of a finite float's magnitude: it is `mantissa · 2 ^ exponent`. -/
structure Binary where
  mantissa : Nat
  exponent : Int
  /-- Whether the float below is only half as far away as the one above. -/
  lowerIsCloser : Bool
deriving DecidableEq, Repr

namespace Binary

/-- The parts of the magnitude with the given bits, of which 52 are the fraction
and 11 the exponent. -/
def ofBits (bits : Nat) : Binary :=
  let fraction : Nat := bits % Nat.pow 2 52
  let exponent : Nat := bits / Nat.pow 2 52 % Nat.pow 2 11
  if exponent = 0 then ⟨fraction, -1074, false⟩
  else ⟨Nat.pow 2 52 + fraction, (exponent : Int) - 1075, fraction = 0 && 1 < exponent⟩

/-- The bits of `mantissa · 2 ^ exponent`, where the mantissa has at most 53 bits
and the number is a float.  The mantissa is moved up as far as there is room, but
not below the smallest exponent. -/
def bits (mantissa : Nat) (exponent : Int) : Nat :=
  let room := if mantissa = 0 then 53 else 52 - mantissa.log2
  let shift := min room (exponent + 1074).toNat
  let m := mantissa * Nat.pow 2 shift
  if m < Nat.pow 2 52 then m
  else (exponent - shift + 1075).toNat * Nat.pow 2 52 + (m - Nat.pow 2 52)

/-- The whole number `mantissa · 2 ^ (exponent - e)`, for an `e` that is not above
the exponent. -/
def scaledBy (b : Binary) (e : Int) : Nat := b.mantissa * Nat.pow 2 (b.exponent - e).toNat

end Binary

/-- Whether a float has the negative sign. -/
def isNegative (x : Float) : Bool := x.toBits.toNat / Nat.pow 2 63 = 1

/-- The parts of a finite float's magnitude. -/
def magnitude (x : Float) : Binary := Binary.ofBits x.toBits.toNat

/-- The float of a sign and a magnitude. -/
def ofMagnitude (negative : Bool) (mantissa : Nat) (exponent : Int) : Float :=
  let x := Float.ofBits (Binary.bits mantissa exponent).toUInt64
  if negative then -x else x

/-- A finite float compared with a whole number. -/
def orderFinite (x : Float) (n : Int) : Ordering :=
  let b := magnitude x
  let sign : Int := if isNegative x then -1 else 1
  match b.exponent with
  | .ofNat e => compare (sign * (b.mantissa * Nat.pow 2 e : Nat)) n
  | .negSucc e => compare (sign * (b.mantissa : Int)) (n * (Nat.pow 2 (e + 1) : Nat))

/-- A float compared with a whole number; what is no number is below all. -/
def orderWhole (x : Float) (n : Int) : Ordering :=
  if x.isNaN then .lt
  else if x.isInf then if isNegative x then .lt else .gt
  else orderFinite x n

/-- The place of a float in the order of all floats: the two zeros differ, and what
is no number comes first. -/
def place (x : Float) : Int :=
  if x.isNaN then -(Nat.pow 2 64 : Nat)
  else
    let bits := x.toBits.toNat % Nat.pow 2 63
    if isNegative x then -(bits : Int) - 1 else bits

/-- The order of floats. -/
def order (x y : Float) : Ordering := compare (place x) (place y)

/-- The whole number that a float is, if it has 64 bits.  The one above the largest
of these stands for it. -/
def whole? (x : Float) : Option Int :=
  if x.isNaN || x.isInf then none
  else
    let b := magnitude x
    let limit : Int := (Nat.pow 2 63 : Nat)
    let n : Nat := match b.exponent with
      | .ofNat e => b.mantissa * Nat.pow 2 (min e 64)
      | .negSucc e => b.mantissa / Nat.pow 2 (e + 1)
    let i : Int := if isNegative x then -(n : Int) else n
    if !(orderFinite x i).isEq then none
    else if i = limit then some (limit - 1)
    else if -limit ≤ i && i < limit then some i
    else none

/-- Whether a whole number is a float.  The largest ones of 64 and of 128 bits
count as the powers above them. -/
def isExact (n : Int) : Bool :=
  (orderWhole (Float.ofInt n) n).isEq || n + 1 = (Nat.pow 2 64 : Nat) ||
    n + 1 = (Nat.pow 2 128 : Nat)

/-- What is left of `x` when `y` is taken away as often as it fits, with the sign
of `x`. -/
def remainder (x y : Float) : Float :=
  if x.isNaN || y.isNaN || x.isInf || y == 0 then 0 / 0
  else if y.isInf then x
  else
    let a := magnitude x
    let b := magnitude y
    let e := min a.exponent b.exponent
    ofMagnitude (isNegative x) (a.scaledBy e % b.scaledBy e) e

/-- A float without its fraction. -/
def truncate (x : Float) : Float := if x < 0 then x.ceil else x.floor

/-- The whole quotient of floats that leaves no negative rest. -/
def quotient (x y : Float) : Float :=
  let q := truncate (x / y)
  if remainder x y < 0 then if y > 0 then q - 1 else q + 1 else q

/-- The float nearest to `digits · 10 ^ exponent`.  Beyond the exponents that are
looked at, every number is zero or infinite. -/
def nearest (digits : Nat) (exponent : Int) : Float :=
  match exponent with
  | .ofNat e => Float.ofScientific digits false (min e 400)
  | .negSucc e =>
    let length := digits.log2 + 1
    if length + 400 < e then 0 else Float.ofScientific digits true (e + 1)

end Componentry.Number
