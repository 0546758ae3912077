import Componentry.Number.Binary
import Componentry.Text.Case

/-!
# Texts in filters

What filters do to texts, and the numbers that texts are read as.
-/

namespace Componentry.Text

/-- Marks of ASCII that are no letters, digits or blanks. -/
def isAsciiMark (c : Char) : Bool :=
  let n := c.toNat
  (33 ≤ n && n ≤ 47) || (58 ≤ n && n ≤ 64) || (91 ≤ n && n ≤ 96) || (123 ≤ n && n ≤ 126)

/-- A text whose words start with a capital, behind the end of a word or not. -/
def titleFrom (atStart : Bool) : Text → Text
  | [] => []
  | c :: more =>
    if isAsciiMark c || isSpace c then c :: titleFrom true more
    else (if atStart then upperCase c else lowerCase c) ++ titleFrom false more

/-- A text whose words start with a capital. -/
def title (s : Text) : Text := titleFrom true s

/-- A text that starts with a capital and goes on in small letters. -/
def capitalize : Text → Text
  | [] => []
  | c :: more => upperCase c ++ lower more

/-- A text with one text put in the place of another wherever it occurs; `n` bounds how long
the text is.  An empty text occurs at the ends and between any two characters. -/
def replaceFrom (old new : Text) : Nat → Text → Text
  | 0, s => s
  | n + 1, s =>
    if old.isEmpty then
      match s with
      | [] => new
      | c :: more => new ++ c :: replaceFrom old new n more
    else
      match dropPrefix? old s with
      | some rest => new ++ replaceFrom old new n rest
      | none =>
        match s with
        | [] => []
        | c :: more => c :: replaceFrom old new n more

/-- A text with one text put in the place of another wherever it occurs. -/
def replace (old new s : Text) : Text := replaceFrom old new (s.length + 1) s

/-- A text without the characters at its ends that are among the given ones. -/
def trimOf (chars s : Text) : Text :=
  ((s.dropWhile chars.contains).reverse.dropWhile chars.contains).reverse

/-- The pieces of a text between the places where a separator occurs, at most so many if
there is a bound; `n` bounds how long the text is. -/
def splitFrom (separator : Text) (most : Option Nat) : Nat → (piece : Text) → Text → List Text
  | 0, piece, s => [piece.reverse ++ s]
  | n + 1, piece, s =>
    if most = some 1 then [piece.reverse ++ s]
    else
      match if separator.isEmpty then none else dropPrefix? separator s with
      | some rest => piece.reverse :: splitFrom separator (most.map (· - 1)) n [] rest
      | none =>
        match s with
        | [] => [piece.reverse]
        | c :: more => splitFrom separator most n (c :: piece) more

/-- The pieces of a text between the places where a separator occurs, at most so many if
there is a bound. -/
def splitOn (separator : Text) (most : Option Nat) (s : Text) : List Text :=
  if most = some 0 then []
  else if separator.isEmpty then
    -- An empty separator occurs at the ends as well.
    let pieces := [] :: (s.map fun c => [c]) ++ [[]]
    match most with
    | some n => pieces.take (n - 1) ++ [(pieces.drop (n - 1)).flatten]
    | none => pieces
  else splitFrom separator most (s.length + 1) [] s

/-- The words of a text, the last of them with all that follows, if there may be only so
many. -/
def splitWords (most : Option Nat) (s : Text) : List Text :=
  match most with
  | none => words s
  | some n => go n (trimStart s)
where
  /-- The words of a text without spaces at its start. -/
  go : Nat → Text → List Text
    | _, [] => []
    | 0, _ => []
    | 1, s => [trimEnd s]
    | n + 2, s =>
      s.takeWhile (!isSpace ·) :: go (n + 1) (trimStart (s.dropWhile (!isSpace ·)))

/-- A text without a line break at its end. -/
def dropLineEnd (s : Text) : Text :=
  match s.reverse with
  | '\n' :: '\r' :: more => more.reverse
  | '\n' :: more | '\r' :: more => more.reverse
  | _ => s

/-- A text with its lines indented, the first one and blank ones only if asked for. -/
def indent (width : Nat) (first blank : Bool) (s : Text) : Text :=
  let margin := List.replicate width ' '
  let indented := fun (line : Text) =>
    if line.isEmpty then if blank then margin else [] else margin ++ line
  match splitOn ['\n'] none (dropLineEnd s) with
  | [] => []
  | line :: more =>
    join ['\n'] ((if first then indented line else line) :: more.map indented)

/-! ## Numbers -/

/-- The whole number that a text is the numeral of, with a sign or not. -/
def int? (s : Text) : Option Int :=
  let digits? := fun (digits : Text) =>
    if digits.isEmpty || !digits.all isAsciiDigit then none
    else some (digits.foldl (fun n c => n * 10 + (c.toNat - 48)) 0)
  match s with
  | '-' :: digits => (digits? digits).map fun n => -Int.ofNat n
  | '+' :: digits | digits => (digits? digits).map Int.ofNat

/-- The float that a text without a sign is the numeral of. -/
def magnitude? (s : Text) : Option Float :=
  let (mantissa, rest) := s.span fun c => c != 'e' && c != 'E'
  let (whole, fraction) := mantissa.span (· != '.')
  let digits := whole ++ fraction.drop 1
  let exponent? := if rest.isEmpty then some 0 else int? (rest.drop 1)
  match asciiLower s with
  | ['i', 'n', 'f'] | ['i', 'n', 'f', 'i', 'n', 'i', 't', 'y'] => some (1 / 0)
  | ['n', 'a', 'n'] => some (0 / 0)
  | _ =>
    if digits.isEmpty || !digits.all isAsciiDigit then none
    else exponent?.map fun e =>
      Number.nearest (digits.foldl (fun n c => n * 10 + (c.toNat - 48)) 0)
        (e - (fraction.length - 1 : Nat))

/-- The float that a text is the numeral of, with a sign or not. -/
def float? (s : Text) : Option Float :=
  match s with
  | '-' :: rest => (magnitude? rest).map fun x => -x
  | '+' :: rest | rest => magnitude? rest

end Componentry.Text
