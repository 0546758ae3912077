import Componentry.Document.Named
import Componentry.Document.Token
import Componentry.Text.Quoted

/-!
# Character references

In text and in attribute values, `&name;` and `&#number;` stand for characters.  A
reference that is not understood is plain text.  In attribute values a name without
its semicolon counts only if neither `=` nor a letter or digit follows, so that
addresses with parameters stay as they are.
-/

namespace Componentry.Document

/-- The characters that the numbers from `0x80` to `0x9f` are read as. -/
def controlCharacters : List Nat :=
  [0x20ac, 0x81, 0x201a, 0x192, 0x201e, 0x2026, 0x2020, 0x2021, 0x2c6, 0x2030, 0x160, 0x2039, 0x152,
    0x8d, 0x17d, 0x8f, 0x90, 0x2018, 0x2019, 0x201c, 0x201d, 0x2022, 0x2013, 0x2014, 0x2dc, 0x2122,
    0x161, 0x203a, 0x153, 0x9d, 0x17e, 0x178]

/-- The character of a number.  Numbers that are none give the replacement
character. -/
def numberedCharacter (n : Nat) : Char :=
  if n = 0 || 0x10ffff < n || (0xd800 ≤ n && n ≤ 0xdfff) then replacement
  else if 0x80 ≤ n && n ≤ 0x9f then Char.ofNat (controlCharacters[n - 0x80]?.getD n)
  else Char.ofNat n

/-- The number of digits in a base, read from left to right. -/
def digitsValue (base : Nat) (digits : List Nat) : Nat := digits.foldl (fun n d => n * base + d) 0

/-- The decimal digit of a character. -/
def decimalDigit? (c : Char) : Option Nat :=
  if Text.isAsciiDigit c then some (c.toNat - '0'.toNat) else none

/-- Reads the digits of a numbered reference and the semicolon behind them. -/
def readNumber (base : Nat) (digit? : Char → Option Nat) (s : Text) : Option (Text × Text) :=
  let digits := s.takeWhile fun c => (digit? c).isSome
  if digits.isEmpty then none
  else
    let rest := s.drop digits.length
    let value := numberedCharacter (digitsValue base (digits.filterMap digit?))
    some ([value], (Text.dropPrefix? [';'] rest).getD rest)

/-- Whether a name without its semicolon is no reference in an attribute value
that goes on with the given text. -/
def continuesName : Text → Bool
  | c :: _ => c = '=' || Text.isAsciiLetter c || Text.isAsciiDigit c
  | [] => false

/-- Reads a reference whose ampersand has been read: the text it stands for and the
rest. -/
def readReference (inAttribute : Bool) (s : Text) : Option (Text × Text) :=
  match s with
  | '#' :: 'x' :: t | '#' :: 'X' :: t => readNumber 16 Text.hexDigit? t
  | '#' :: t => readNumber 10 decimalDigit? t
  | _ =>
    match longestName? s with
    | none => none
    | some (name, value, rest) =>
      if inAttribute && name.getLast? != some ';' && continuesName rest then none
      else some (value, rest)

/-- Replaces the references in a text by what they stand for; `fuel` bounds the
number of steps. -/
def decodeUpTo (inAttribute : Bool) : (fuel : Nat) → Text → Text
  | 0, s => s
  | _ + 1, [] => []
  | fuel + 1, c :: s =>
    if c = '&' then
      match readReference inAttribute s with
      | some (value, rest) => value ++ decodeUpTo inAttribute fuel rest
      | none => c :: decodeUpTo inAttribute fuel s
    else c :: decodeUpTo inAttribute fuel s

/-- Replaces the references in a text by what they stand for. -/
def decode (inAttribute : Bool) (s : Text) : Text := decodeUpTo inAttribute s.length s

end Componentry.Document
