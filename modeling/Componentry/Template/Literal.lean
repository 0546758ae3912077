import Componentry.Template.Token
import Componentry.Text.Quoted

/-!
# Literals of templates

Numbers and strings inside of blocks, each read off the start of a text.

* `readNumber`: integers in base ten, two, eight or sixteen, and decimal numbers
  with a fraction or an exponent.  Underscores may stand anywhere behind the first
  digit, but not end a number, and integers have at most 128 bits.  A point is the
  point of a number unless the name of an attribute follows it.
* `readString`: a string up to its closing quote, where a backslash hides the
  next character; `unescape` then replaces the escapes.  An escape without a
  meaning stands for itself.
-/

namespace Componentry.Template

/-! ## Numbers -/

/-- Whether a character continues a run of digits. -/
def isDigitOrUnderscore (c : Char) : Bool := Text.isAsciiDigit c || c = '_'

/-- The value of digits in a base; none if there is no digit or one is too
large. -/
def baseValue? (base : Nat) (digits : Text) : Option Nat :=
  if digits.isEmpty then none
  else digits.foldlM (fun n c => do
    let d ← Text.hexDigit? c
    if d < base then some (n * base + d) else none) 0

/-- Digits without the underscores between them; none if an underscore ends
them. -/
def cleanDigits? (digits : Text) : Option Text :=
  if digits.getLast? = some '_' then none else some (digits.filter (· != '_'))

/-- The token of an integer, if it is not too large. -/
def integerToken? (base : Nat) (digits : Text) : Option Token := do
  let clean ← cleanDigits? digits
  let n ← baseValue? base clean
  if n < Nat.pow 2 128 then some (.integer n) else none

/-- The base that a prefix announces, and what follows the prefix. -/
def basePrefix? : Text → Option (Nat × Text)
  | '0' :: c :: s =>
    if c = 'b' || c = 'B' then some (2, s)
    else if c = 'o' || c = 'O' then some (8, s)
    else if c = 'x' || c = 'X' then some (16, s)
    else none
  | _ => none

/-- Whether a character continues the digits of a number in a base that is not
ten. -/
def isBaseDigit (base : Nat) (c : Char) : Bool :=
  isDigitOrUnderscore c || (base == 16 && (Text.hexDigit? c).isSome)

/-- The part of a decimal number that is being read. -/
inductive NumberPart where
  | whole
  | fraction
  /-- The mark of the exponent has just been read. -/
  | exponentMark
  | exponent
deriving DecidableEq, Repr

/-- Whether a character may start an identifier. -/
def isIdentStart (c : Char) : Bool := Text.isAsciiLetter c || c = '_'

/-- Whether a text starts with the mark of an exponent and a digit of it, possibly
with a sign between them. -/
def startsExponent : Text → Bool
  | c :: s =>
    (c = 'e' || c = 'E') &&
      match s with
      | d :: t =>
        Text.isAsciiDigit d || ((d = '+' || d = '-') && (t.head?.map Text.isAsciiDigit).getD false)
      | [] => false
  | [] => false

/-- Whether the text behind a point makes it the point of an attribute and not the
point of a number. -/
def startsAttribute (s : Text) : Bool :=
  (s.head?.map isIdentStart).getD false && !startsExponent s

/-- The part of a number that a character belongs to; none if it ends the number,
which is decided with what follows it. -/
def NumberPart.next? (part : NumberPart) (c : Char) (rest : Text) : Option NumberPart :=
  if c = '.' then if part = .whole && !startsAttribute rest then some .fraction else none
  else if c = 'e' || c = 'E' then
    if part = .whole || part = .fraction then some .exponentMark else none
  else if c = '+' || c = '-' then if part = .exponentMark then some .exponent else none
  else if Text.isAsciiDigit c then some (if part = .exponentMark then .exponent else part)
  else if c = '_' then some part
  else none

/-- The characters of a decimal number, the part it ends in, and the rest. -/
def decimalRun (part : NumberPart) : Text → Text × NumberPart × Text
  | [] => ([], part, [])
  | c :: s =>
    match part.next? c s with
    | none => ([], part, c :: s)
    | some next =>
      let (run, last, rest) := decimalRun next s
      (c :: run, last, rest)

/-- The exponent of a number from its mark on, zero if there is none. -/
def exponentValue? (s : Text) : Option Int :=
  match s with
  | [] => some 0
  | _ :: '-' :: digits => (baseValue? 10 digits).map fun n => -(n : Int)
  | _ :: '+' :: digits => (baseValue? 10 digits).map fun n => (n : Int)
  | _ :: digits => (baseValue? 10 digits).map fun n => (n : Int)

/-- The token of a decimal number with a point or an exponent, of which the
underscores are gone. -/
def floatToken? (s : Text) : Option Token := do
  let whole := s.takeWhile Text.isAsciiDigit
  let behind := s.dropWhile Text.isAsciiDigit
  let behindPoint := if behind.head? = some '.' then behind.drop 1 else []
  let fraction := behindPoint.takeWhile Text.isAsciiDigit
  let digits ← baseValue? 10 (whole ++ fraction)
  let exponent ← exponentValue? <|
    if behind.head? = some '.' then behindPoint.dropWhile Text.isAsciiDigit else behind
  return .float digits (exponent - fraction.length)

/-- Reads the decimal number that starts a text. -/
def readDecimal (s : Text) : Option Token × Text :=
  let (run, last, rest) := decimalRun .whole s
  (if last = .whole then integerToken? 10 run else (cleanDigits? run).bind floatToken?, rest)

/-- Reads the number that starts a text: its token, or none if it is malformed,
and the rest. -/
def readNumber (s : Text) : Option Token × Text :=
  match basePrefix? s with
  | some (base, t) =>
    (integerToken? base (t.takeWhile (isBaseDigit base)), t.dropWhile (isBaseDigit base))
  | none => readDecimal s

/-! ## Strings -/

/-- The raw inside of a string up to its closing quote, and what follows the
quote; none if the quote is missing. -/
def stringBody? (quote : Char) : Text → Option (Text × Text)
  | [] => none
  | '\\' :: [] => none
  | '\\' :: c :: s => (stringBody? quote s).map fun (a, b) => ('\\' :: c :: a, b)
  | c :: s =>
    if c = quote then some ([], s) else (stringBody? quote s).map fun (a, b) => (c :: a, b)

/-- The value of a one-letter escape. -/
def escapedChar? (c : Char) : Option Char :=
  if c = '\'' then some '\'' else Text.shortEscape? c

/-- The value of the hexadecimal digits of an escape, the first of which may be a
plus sign. -/
def escapedNumber? (digits : Text) : Option Nat :=
  match digits with
  | '+' :: more => baseValue? 16 more
  | _ => baseValue? 16 digits

/-- Whether a character is a digit in base eight. -/
def isOctalDigit (c : Char) : Bool := (baseValue? 8 [c]).isSome

/-- What an escape stands for. -/
inductive Escaped where
  /-- Characters. -/
  | text (s : Text)
  /-- A unit of 16 bits, which may be one half of a character. -/
  | unit (n : Nat)
deriving DecidableEq, Repr

/-- Reads the escape behind a backslash, and the rest; none if it is bad.  An escape
without a meaning stands for itself. -/
def readEscape? : Text → Option (Escaped × Text)
  | [] => none
  | c :: s =>
    if c = 'u' then
      if s.length < 4 then none
      else (escapedNumber? (s.take 4)).map fun n => (.unit n, s.drop 4)
    else if c = 'x' then
      if s.length < 2 then none
      else (escapedNumber? (s.take 2)).map fun n => (.text [Char.ofNat n], s.drop 2)
    else if isOctalDigit c then
      let digits := ((c :: s).take 3).takeWhile isOctalDigit
      (baseValue? 8 digits).map fun n => (.text [Char.ofNat n], (c :: s).drop digits.length)
    else
      match escapedChar? c with
      | some e => some (.text [e], s)
      | none => some (.text ['\\', c], s)

theorem readEscape?_length {s rest : Text} {e : Escaped} (h : readEscape? s = some (e, rest)) :
    rest.length ≤ s.length := by
  unfold readEscape? at h
  split at h
  · cases h
  · rename_i c s
    split at h
    · split at h
      · cases h
      · simp only [Option.map_eq_some_iff, Prod.mk.injEq] at h
        obtain ⟨n, -, -, rfl⟩ := h
        simp only [List.length_drop, List.length_cons]
        omega
    · split at h
      · split at h
        · cases h
        · simp only [Option.map_eq_some_iff, Prod.mk.injEq] at h
          obtain ⟨n, -, -, rfl⟩ := h
          simp only [List.length_drop, List.length_cons]
          omega
      · split at h
        · simp only [Option.map_eq_some_iff, Prod.mk.injEq] at h
          obtain ⟨n, -, -, rfl⟩ := h
          simp only [List.length_drop]
          omega
        · split at h <;> cases h <;> simp

/-- The text that the inside of a string stands for, behind the first half of a
surrogate pair if one was read before; none if an escape is bad. -/
def unescapeFrom (high : Option Nat) (s : Text) : Option Text :=
  match s with
  | [] => if high.isSome then none else some []
  | '\\' :: t =>
    match h : readEscape? t with
    | none => none
    | some (e, rest) =>
      have : rest.length ≤ t.length := readEscape?_length h
      match e, high with
      | .text s, none => (unescapeFrom none rest).map (s ++ ·)
      | .text _, some _ => none
      | .unit n, none =>
        if Text.isHighSurrogate n || Text.isLowSurrogate n then unescapeFrom (some n) rest
        else (unescapeFrom none rest).map (Char.ofNat n :: ·)
      | .unit n, some m =>
        if Text.isHighSurrogate m && Text.isLowSurrogate n then
          (unescapeFrom none rest).map (Text.ofSurrogates m n :: ·)
        else none
  | c :: t => if high.isSome then none else (unescapeFrom none t).map (c :: ·)
termination_by s.length
decreasing_by all_goals (simp only [List.length_cons]; omega)

/-- The text that the inside of a string stands for; none if an escape is bad. -/
def unescape (s : Text) : Option Text := unescapeFrom none s

/-! ## What is left -/

theorem decimalRun_length (part : NumberPart) (s : Text) :
    (decimalRun part s).2.2.length ≤ s.length := by
  induction s generalizing part with
  | nil => exact Nat.le_refl _
  | cons c s ih =>
    unfold decimalRun
    split
    · exact Nat.le_refl _
    · exact Nat.le_succ_of_le (ih _)

/-- A digit belongs to the number that it starts. -/
theorem next?_whole_of_isAsciiDigit {c : Char} (s : Text) (h : Text.isAsciiDigit c = true) :
    NumberPart.whole.next? c s = some .whole := by
  have hne : ∀ d : Char, Text.isAsciiDigit d = false → c ≠ d := fun d hd hc => by simp_all
  simp [NumberPart.next?, h, hne '.' (by decide), hne 'e' (by decide), hne 'E' (by decide),
    hne '+' (by decide), hne '-' (by decide)]

theorem readDecimal_length {c : Char} {s : Text} (h : Text.isAsciiDigit c = true) :
    (readDecimal (c :: s)).2.length < (c :: s).length := by
  simp only [readDecimal, decimalRun, next?_whole_of_isAsciiDigit s h, List.length_cons]
  exact Nat.lt_succ_of_le (decimalRun_length .whole s)

/-- A number has at least one character. -/
theorem readNumber_length {c : Char} {s : Text} (h : Text.isAsciiDigit c = true) :
    (readNumber (c :: s)).2.length < (c :: s).length := by
  unfold readNumber
  split
  · rename_i base t ht
    have hlen : t.length < (c :: s).length := by
      unfold basePrefix? at ht
      split at ht
      · rename_i d r heq
        cases heq
        split at ht
        · cases ht
          simp only [List.length_cons]
          omega
        · split at ht
          · cases ht
            simp only [List.length_cons]
            omega
          · split at ht
            · cases ht
              simp only [List.length_cons]
              omega
            · cases ht
      · cases ht
    have := Text.dropWhile_length_le (isBaseDigit base) t
    simp only
    omega
  · exact readDecimal_length h

theorem stringBody?_length {quote : Char} {s body rest : Text}
    (h : stringBody? quote s = some (body, rest)) : rest.length < s.length := by
  fun_induction stringBody? quote s generalizing body with
  | case1 => cases h
  | case2 => cases h
  | case3 c s ih =>
    simp only [Option.map_eq_some_iff, Prod.exists, Prod.mk.injEq] at h
    obtain ⟨a, b, hab, -, rfl⟩ := h
    have := ih hab
    simp only [List.length_cons]
    omega
  | case4 => cases h; simp
  | case5 c s _ _ _ ih =>
    simp only [Option.map_eq_some_iff, Prod.exists, Prod.mk.injEq] at h
    obtain ⟨a, b, hab, -, rfl⟩ := h
    have := ih hab
    simp only [List.length_cons]
    omega

end Componentry.Template
