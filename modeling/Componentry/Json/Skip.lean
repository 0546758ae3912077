import Componentry.Json.Basic

/-!
# Skipping JSON values

A value that nobody asks for is only checked for its grammar.  It may nest as
deep as it likes, its numbers may be out of range, and its strings may hold halves
of surrogate pairs.
-/

namespace Componentry.Json

/-- What is left behind an escape whose backslash has been read. -/
def skipEscape (s : Text) : Except Fault Text :=
  match s with
  | [] => .error .unfinished
  | 'u' :: t => ((Text.readUnit t).map Prod.snd).mapError Fault.ofQuoted
  | c :: t => if (Text.shortEscape? c).isSome then .ok t else .error .malformed

/-- What is left behind a string whose opening quote has been read; `fuel` bounds
the number of steps. -/
def skipString : (fuel : Nat) → Text → Except Fault Text
  | 0, _ => .error .malformed
  | _ + 1, [] => .error .unfinished
  | fuel + 1, c :: t =>
    if c = '"' then .ok t
    else if c = '\\' then do skipString fuel (← skipEscape t)
    else if c.toNat < 0x20 then .error .malformed
    else skipString fuel t

/-- What is left behind a number. -/
def skipNumber (s : Text) : Except Fault Text := do
  let (_, t) ← readWhole (match s with
    | '-' :: t => t
    | _ => s)
  let (_, t) ← readFraction t
  let (_, rest) ← readExponent t
  return rest

mutual

/-- What is left behind a value; `fuel` bounds the number of steps. -/
def skipValue (fuel : Nat) (s : Text) : Except Fault Text :=
  match fuel with
  | 0 => .error .malformed
  | fuel + 1 =>
    match skip s with
    | [] => .error .unfinished
    | 'n' :: t => expect ['u', 'l', 'l'] t
    | 't' :: t => expect ['r', 'u', 'e'] t
    | 'f' :: t => expect ['a', 'l', 's', 'e'] t
    | '"' :: t => skipString (t.length + 1) t
    | '[' :: t => skipItems fuel true t
    | '{' :: t => skipFields fuel true t
    | c :: t => if c = '-' || Text.isAsciiDigit c then skipNumber (c :: t) else .error .malformed

/-- What is left behind the items of a list. -/
def skipItems (fuel : Nat) (first : Bool) (s : Text) : Except Fault Text :=
  match fuel with
  | 0 => .error .malformed
  | fuel + 1 => do
    match ← nextItem ']' first s with
    | .inr rest => return rest
    | .inl t => skipItems fuel false (← skipValue fuel t)

/-- What is left behind the fields of an object. -/
def skipFields (fuel : Nat) (first : Bool) (s : Text) : Except Fault Text :=
  match fuel with
  | 0 => .error .malformed
  | fuel + 1 => do
    match ← nextItem '}' first s with
    | .inr rest => return rest
    | .inl t =>
      let t ← expect ['"'] t
      let t ← skipString (t.length + 1) t
      let t ← readColon t
      skipFields fuel false (← skipValue fuel t)

end

/-- What is left behind a value. -/
def skipOne (s : Text) : Except Fault Text := skipValue (2 * s.length + 2) s

end Componentry.Json
