import Componentry.Template.Value

/-!
# Escaping

Values are written into markup with the characters escaped that have a meaning
there.  A safe string is markup already and is written as it is; truth values and
numbers need no escaping.
-/

namespace Componentry.Template

/-- How a character is written in markup. -/
def escapeChar (c : Char) : Text :=
  match c with
  | '&' => ['&', 'a', 'm', 'p', ';']
  | '<' => ['&', 'l', 't', ';']
  | '>' => ['&', 'g', 't', ';']
  | '"' => ['&', 'q', 'u', 'o', 't', ';']
  | '\'' => ['&', '#', 'x', '2', '7', ';']
  | '/' => ['&', '#', 'x', '2', 'f', ';']
  | _ => [c]

/-- A text as markup that shows it. -/
def escapeText (s : Text) : Text := s.flatMap escapeChar

/-- A value as markup. -/
def Value.markup (v : Value) : Text := if v.isSafe then v.text else escapeText v.text

end Componentry.Template
