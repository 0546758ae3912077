import Componentry.Regex

/-!
# Patterns for file names

In a pattern `*` stands for any characters, `?` for one character, and every other
character for itself.  A pattern is compiled to a regular expression for whole names,
so that neither `*` nor `?` takes a line feed.
-/

namespace Componentry.Glob

/-- A character of a pattern in the regular expression. -/
def charExpression (c : Char) : Text :=
  if c = '*' then ['.', '*'] else if c = '?' then ['.'] else Regex.escape [c]

/-- A pattern as a regular expression. -/
def expression (pattern : Text) : Text := '^' :: pattern.flatMap charExpression ++ ['$']

/-- Compiles a pattern. -/
def compile? (pattern : Text) : Option Regex := Regex.parse? (expression pattern)

/-- Whether a pattern accepts a name.  A pattern that does not compile would be left out;
here all compile. -/
def accepts (pattern name : Text) : Bool :=
  match compile? pattern with
  | none => false
  | some r => r.accepts name

end Componentry.Glob
