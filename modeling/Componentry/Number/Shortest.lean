import Componentry.Number.Binary

/-!
# Shortest decimals of floats

A finite float is `m · 2 ^ q` with whole numbers `m` and `q`.  Every decimal in
an interval around it reads back as the same float; `Shortest.decimal` gives the
one with the fewest digits, and of two with equally many the nearer.  All of it
is exact arithmetic on natural numbers: the float and the ends of its interval
are quarters of `2 ^ q`, and a power of ten is tried by comparing products.

`floatText` writes the decimal in positional notation, always with a point;
`compactFloatText` writes large and small ones with a power of ten.
-/

namespace Componentry.Number

/-- A fraction of natural numbers. -/
structure Ratio where
  numerator : Nat
  denominator : Nat
deriving DecidableEq, Repr

/-- The fraction `n · 2 ^ e`. -/
def Ratio.ofBinary (n : Nat) : Int → Ratio
  | .ofNat e => ⟨n * Nat.pow 2 e, 1⟩
  | .negSucc e => ⟨n, Nat.pow 2 (e + 1)⟩

/-- The decimal `n · 10 ^ e` compared with a fraction. -/
def compareDecimal (n : Nat) (e : Int) (r : Ratio) : Ordering :=
  match e with
  | .ofNat e => compare (n * Nat.pow 10 e * r.denominator) r.numerator
  | .negSucc e => compare (n * r.denominator) (r.numerator * Nat.pow 10 (e + 1))

/-- The whole number of times that `10 ^ e` fits into a fraction. -/
def Ratio.divPower (r : Ratio) : Int → Nat
  | .ofNat e => r.numerator / (r.denominator * Nat.pow 10 e)
  | .negSucc e => r.numerator * Nat.pow 10 (e + 1) / r.denominator

/-- The least `e` of the form `start + i` with `i < fuel` for which a fraction is
below `10 ^ e`. -/
def Ratio.scale (r : Ratio) (start : Int) : Nat → Int
  | 0 => start
  | fuel + 1 =>
    if (compareDecimal 1 start r).isGT then start else Ratio.scale r (start + 1) fuel

/-- A decimal number `digits · 10 ^ exponent`. -/
structure Decimal where
  digits : Nat
  exponent : Int
deriving DecidableEq, Repr

namespace Shortest

/-- Whether a decimal lies in the interval of a float: between `low` and `high`,
or on one of them if the ends belong to it. -/
def inInterval (low high : Ratio) (closed : Bool) (n : Nat) (e : Int) : Bool :=
  let below := compareDecimal n e low
  let above := compareDecimal n e high
  if closed then below.isGE && above.isLE else below.isGT && above.isLT

/-- The decimal next to a fraction with the given exponent that lies in the
interval, the nearer one if two do. -/
def onGrid? (value low high : Ratio) (closed : Bool) (e : Int) : Option Decimal :=
  let n := value.divPower e
  let down := inInterval low high closed n e
  let up := inInterval low high closed (n + 1) e
  -- The middle between the two candidates decides which one is nearer.
  let nearer := if (compareDecimal (2 * n + 1) e ⟨2 * value.numerator, value.denominator⟩).isGE
    then n else n + 1
  if down && up then some ⟨nearer, e⟩
  else if down then some ⟨n, e⟩
  else if up then some ⟨n + 1, e⟩
  else none

/-- The first hit among grids that get finer from exponent `e` on. -/
def search (value low high : Ratio) (closed : Bool) (e : Int) : Nat → Decimal
  | 0 => ⟨value.divPower e, e⟩
  | fuel + 1 =>
    match onGrid? value low high closed e with
    | some d => d
    | none => search value low high closed (e - 1) fuel

/-- A decimal without a zero at its end, which appears when the upper neighbour of
a value is a power of ten. -/
def dropZero (d : Decimal) : Decimal :=
  if d.digits % 10 = 0 then ⟨d.digits / 10, d.exponent + 1⟩ else d

/-- The shortest decimal that reads back as the given float. -/
def decimal (b : Binary) : Decimal :=
  if b.mantissa = 0 then ⟨0, 0⟩
  else
    let quarter := b.exponent - 2
    let value := Ratio.ofBinary (4 * b.mantissa) quarter
    let low := Ratio.ofBinary (4 * b.mantissa - if b.lowerIsCloser then 1 else 2) quarter
    let high := Ratio.ofBinary (4 * b.mantissa + 2) quarter
    let scale := value.scale (-330) 700
    dropZero (search value low high (b.mantissa % 2 = 0) (scale - 1) 20)

end Shortest

/-- A decimal in positional notation; a whole number ends in `.0`. -/
def Decimal.text (d : Decimal) : Text :=
  let digits := Text.ofNat d.digits
  match d.exponent with
  | .ofNat e => digits ++ List.replicate (if d.digits = 0 then 0 else e) '0' ++ ['.', '0']
  | .negSucc e =>
    let places := e + 1
    let padded := List.replicate (places + 1 - digits.length) '0' ++ digits
    let whole := padded.take (padded.length - places)
    whole ++ '.' :: padded.drop (padded.length - places)

/-- The power of ten of a decimal's first digit. -/
def Decimal.firstPlace (d : Decimal) : Int :=
  d.exponent + ((Text.ofNat d.digits).length : Int) - 1

/-- A decimal with its first digit before the point, and the power of ten behind
it.  A single digit needs no point. -/
def Decimal.scientificText (d : Decimal) : Text :=
  let exponent := 'e' :: Text.ofInt d.firstPlace
  match Text.ofNat d.digits with
  | [] => exponent
  | [c] => c :: exponent
  | c :: more => c :: '.' :: more ++ exponent

/-- A decimal with a power of ten if it is at least `10 ^ 16` or below `10 ^ -4`,
and in positional notation otherwise. -/
def Decimal.compactText (d : Decimal) : Text :=
  if d.digits ≠ 0 && (16 ≤ d.firstPlace || d.firstPlace < -4) then d.scientificText else d.text

/-- The text of a float whose decimal is written in the given way. -/
def textWith (write : Decimal → Text) (x : Float) : Text :=
  if x.isNaN then ['N', 'a', 'N']
  else
    let sign : Text := if isNegative x then ['-'] else []
    if x.isInf then sign ++ ['i', 'n', 'f']
    else sign ++ write (Shortest.decimal (magnitude x))

/-- The text of a float, in positional notation. -/
def floatText (x : Float) : Text := textWith Decimal.text x

/-- The text of a float, with a power of ten if it is large or small. -/
def compactFloatText (x : Float) : Text := textWith Decimal.compactText x

end Componentry.Number
