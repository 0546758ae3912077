import Componentry.Text.Basic

/-!
# Quoted strings

A text is put into generated code as a string literal (`quote`): in double
quotes, with quotes, backslashes and control characters escaped and everything
else written as itself.  `readQuoted` reads such literals back.  It accepts every
JSON string, so it also knows the escaped solidus and surrogate pairs, and it
tells a literal that ends too early from one that is malformed.
-/

namespace Componentry.Text

/-- A number below 256 as two lower-case hexadecimal digits. -/
def twoHex (n : Nat) : Text := [Nat.digitChar (n / 16), Nat.digitChar (n % 16)]

/-- How a character is written inside a string literal. -/
def quoteChar (c : Char) : Text :=
  if c = '"' then ['\\', '"']
  else if c = '\\' then ['\\', '\\']
  else if c = '\n' then ['\\', 'n']
  else if c = '\r' then ['\\', 'r']
  else if c = '\t' then ['\\', 't']
  else if c = '\x08' then ['\\', 'b']
  else if c = '\x0c' then ['\\', 'f']
  else if c.toNat < 32 then ['\\', 'u', '0', '0'] ++ twoHex c.toNat
  else [c]

/-- A text as a string literal. -/
def quote (s : Text) : Text := '"' :: s.flatMap quoteChar ++ ['"']

/-! ## Reading -/

/-- The value of a hexadecimal digit. -/
def hexDigit? (c : Char) : Option Nat :=
  if '0' ≤ c && c ≤ '9' then some (c.toNat - '0'.toNat)
  else if 'a' ≤ c && c ≤ 'f' then some (c.toNat - 'a'.toNat + 10)
  else if 'A' ≤ c && c ≤ 'F' then some (c.toNat - 'A'.toNat + 10)
  else none

/-- The value of four hexadecimal digits. -/
def fourHex? (a b c d : Char) : Option Nat := do
  let a ← hexDigit? a
  let b ← hexDigit? b
  let c ← hexDigit? c
  let d ← hexDigit? d
  return ((a * 16 + b) * 16 + c) * 16 + d

/-- Whether a 16-bit unit is the first half of a surrogate pair. -/
def isHighSurrogate (n : Nat) : Bool := 0xd800 ≤ n && n ≤ 0xdbff

/-- Whether a 16-bit unit is the second half of a surrogate pair. -/
def isLowSurrogate (n : Nat) : Bool := 0xdc00 ≤ n && n ≤ 0xdfff

/-- The character that a surrogate pair stands for. -/
def ofSurrogates (high low : Nat) : Char :=
  Char.ofNat (0x10000 + (high - 0xd800) * 0x400 + (low - 0xdc00))

/-- Why a string literal cannot be read. -/
inductive QuotedFault where
  /-- The text ends inside the literal. -/
  | unterminated
  /-- A raw control character or a bad escape. -/
  | malformed
deriving DecidableEq, Repr

/-- A four-digit escape at the start of a text, and the rest. -/
def readUnit (s : Text) : Except QuotedFault (Nat × Text) :=
  match s with
  | a :: b :: c :: d :: rest =>
    match fourHex? a b c d with
    | some n => .ok (n, rest)
    | none => .error .malformed
  | _ => if byteLength s < 4 then .error .unterminated else .error .malformed

theorem readUnit_length {s rest : Text} {n : Nat} (h : readUnit s = .ok (n, rest)) :
    rest.length < s.length := by
  unfold readUnit at h
  split at h
  · split at h
    · cases h
      simp only [List.length_cons]
      omega
    · cases h
  · split at h <;> cases h

/-- The character of a `\u` escape whose digits start the text, and the rest.
The halves of a surrogate pair are written as two such escapes. -/
def readEscapedUnit (s : Text) : Except QuotedFault (Char × Text) :=
  match readUnit s with
  | .error e => .error e
  | .ok (n, rest) =>
    if isLowSurrogate n then .error .malformed
    else if isHighSurrogate n then
      match rest with
      | [] | ['\\'] => .error .unterminated
      | '\\' :: 'u' :: more =>
        match readUnit more with
        | .error e => .error e
        | .ok (m, rest') =>
          if isLowSurrogate m then .ok (ofSurrogates n m, rest') else .error .malformed
      | _ => .error .malformed
    else .ok (Char.ofNat n, rest)

theorem readEscapedUnit_length {s rest : Text} {c : Char}
    (h : readEscapedUnit s = .ok (c, rest)) : rest.length < s.length := by
  unfold readEscapedUnit at h
  split at h
  · cases h
  · rename_i n r hr
    have hlen := readUnit_length hr
    split at h
    · cases h
    · split at h
      · split at h
        · cases h
        · cases h
        · rename_i more
          split at h
          · cases h
          · rename_i m r' hr'
            have hlen' := readUnit_length hr'
            split at h
            · simp only [Except.ok.injEq, Prod.mk.injEq] at h
              obtain ⟨-, rfl⟩ := h
              simp only [List.length_cons] at hlen
              omega
            · cases h
        · cases h
      · simp only [Except.ok.injEq, Prod.mk.injEq] at h
        exact h.2 ▸ hlen

/-- The value of a one-letter escape. -/
def shortEscape? (c : Char) : Option Char :=
  match c with
  | '"' => some '"'
  | '\\' => some '\\'
  | '/' => some '/'
  | 'b' => some '\x08'
  | 'f' => some '\x0c'
  | 'n' => some '\n'
  | 'r' => some '\r'
  | 't' => some '\t'
  | _ => none

/-- Reads the inside of a string literal up to its closing quote: the value and
what follows the quote. -/
def readQuoted (s : Text) : Except QuotedFault (Text × Text) :=
  match s with
  | [] | ['\\'] => .error .unterminated
  | '"' :: rest => .ok ([], rest)
  | '\\' :: 'u' :: digits =>
    match h : readEscapedUnit digits with
    | .error e => .error e
    | .ok (c, rest) =>
      have : rest.length < digits.length := readEscapedUnit_length h
      (readQuoted rest).map fun (value, after) => (c :: value, after)
  | '\\' :: e :: rest =>
    match shortEscape? e with
    | some c => (readQuoted rest).map fun (value, after) => (c :: value, after)
    | none => .error .malformed
  | c :: rest =>
    if c.toNat < 32 then .error .malformed
    else (readQuoted rest).map fun (value, after) => (c :: value, after)
termination_by s.length
decreasing_by all_goals (simp only [List.length_cons]; omega)

/-- The text that a string literal stands for, if `s` is one. -/
def unquote? (s : Text) : Option Text :=
  match s with
  | '"' :: inside =>
    match readQuoted inside with
    | .ok (value, []) => some value
    | _ => none
  | _ => none

end Componentry.Text
