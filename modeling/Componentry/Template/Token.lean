import Componentry.Tag.Block

/-!
# Tokens of templates

A template is text with expression blocks `{{ … }}`, statement blocks `{% … %}`,
comments and raw blocks.  Its tokens are the runs of text, the delimiters of the
blocks, and inside of blocks identifiers, literals and symbols.  Keywords are
identifiers; which of them mean something depends on where they stand.
-/

namespace Componentry.Template

/-- Operators and punctuation. -/
inductive Symbol where
  | plus | minus | times | slash | doubleSlash | percent | power
  | dot | comma | colon | tilde | pipe | assign
  | equal | notEqual | less | lessEqual | greater | greaterEqual
  | openParen | closeParen | openBracket | closeBracket | openBrace | closeBrace
deriving DecidableEq, Repr

/-- A token. -/
inductive Token where
  /-- Text outside of blocks. -/
  | data (text : Text)
  | expressionStart
  | expressionEnd
  | statementStart
  | statementEnd
  | ident (name : Text)
  | string (value : Text)
  | integer (value : Nat)
  /-- The number `digits · 10 ^ exponent`. -/
  | float (digits : Nat) (exponent : Int)
  | symbol (s : Symbol)
deriving DecidableEq, Repr

/-- A token and the line that it starts on, counted from one. -/
structure Lexeme where
  token : Token
  line : Nat
deriving DecidableEq, Repr

/-- The words with a meaning in some place of the grammar. -/
inductive Keyword where
  | kIf | kElse | kElif | kEndif
  | kFor | kIn | kRecursive | kEndfor
  | kSet | kEndset | kWith | kEndwith
  | kAutoescape | kEndautoescape | kFilter | kEndfilter
  | kBlock | kScoped | kRequired | kEndblock | kExtends | kInclude | kImport | kFrom | kAs
  | kIgnore | kMissing | kContext | kWithout
  | kMacro | kMacroEnd | kCall | kEndcall | kDo
  | kOr | kAnd | kNot | kIs
  | kTrue | kTrueCap | kFalse | kFalseCap | kNone | kNoneCap
  | kLoop | kSelf
deriving DecidableEq, Repr

/-- The spelling of a keyword. -/
def Keyword.text : Keyword → Text
  | kIf => ['i', 'f']
  | kElse => ['e', 'l', 's', 'e']
  | kElif => ['e', 'l', 'i', 'f']
  | kEndif => ['e', 'n', 'd', 'i', 'f']
  | kFor => ['f', 'o', 'r']
  | kIn => ['i', 'n']
  | kRecursive => ['r', 'e', 'c', 'u', 'r', 's', 'i', 'v', 'e']
  | kEndfor => ['e', 'n', 'd', 'f', 'o', 'r']
  | kSet => ['s', 'e', 't']
  | kEndset => ['e', 'n', 'd', 's', 'e', 't']
  | kWith => ['w', 'i', 't', 'h']
  | kEndwith => ['e', 'n', 'd', 'w', 'i', 't', 'h']
  | kAutoescape => ['a', 'u', 't', 'o', 'e', 's', 'c', 'a', 'p', 'e']
  | kEndautoescape => ['e', 'n', 'd', 'a', 'u', 't', 'o', 'e', 's', 'c', 'a', 'p', 'e']
  | kFilter => ['f', 'i', 'l', 't', 'e', 'r']
  | kEndfilter => ['e', 'n', 'd', 'f', 'i', 'l', 't', 'e', 'r']
  | kBlock => ['b', 'l', 'o', 'c', 'k']
  | kScoped => ['s', 'c', 'o', 'p', 'e', 'd']
  | kRequired => ['r', 'e', 'q', 'u', 'i', 'r', 'e', 'd']
  | kEndblock => ['e', 'n', 'd', 'b', 'l', 'o', 'c', 'k']
  | kExtends => ['e', 'x', 't', 'e', 'n', 'd', 's']
  | kInclude => ['i', 'n', 'c', 'l', 'u', 'd', 'e']
  | kImport => ['i', 'm', 'p', 'o', 'r', 't']
  | kFrom => ['f', 'r', 'o', 'm']
  | kAs => ['a', 's']
  | kIgnore => ['i', 'g', 'n', 'o', 'r', 'e']
  | kMissing => ['m', 'i', 's', 's', 'i', 'n', 'g']
  | kContext => ['c', 'o', 'n', 't', 'e', 'x', 't']
  | kWithout => ['w', 'i', 't', 'h', 'o', 'u', 't']
  | kMacro => ['m', 'a', 'c', 'r', 'o']
  | kMacroEnd => ['e', 'n', 'd', 'm', 'a', 'c', 'r', 'o']
  | kCall => ['c', 'a', 'l', 'l']
  | kEndcall => ['e', 'n', 'd', 'c', 'a', 'l', 'l']
  | kDo => ['d', 'o']
  | kOr => ['o', 'r']
  | kAnd => ['a', 'n', 'd']
  | kNot => ['n', 'o', 't']
  | kIs => ['i', 's']
  | kTrue => ['t', 'r', 'u', 'e']
  | kTrueCap => ['T', 'r', 'u', 'e']
  | kFalse => ['f', 'a', 'l', 's', 'e']
  | kFalseCap => ['F', 'a', 'l', 's', 'e']
  | kNone => ['n', 'o', 'n', 'e']
  | kNoneCap => ['N', 'o', 'n', 'e']
  | kLoop => ['l', 'o', 'o', 'p']
  | kSelf => ['s', 'e', 'l', 'f']

/-- The token of a keyword. -/
def Keyword.token (k : Keyword) : Token := .ident k.text

/-- Why a template does not parse. -/
inductive FaultKind where
  /-- The text breaks the grammar. -/
  | invalid
  /-- A string literal holds a bad escape. -/
  | badEscape
deriving DecidableEq, Repr

/-- The wording of a kind of fault. -/
def FaultKind.message : FaultKind → String
  | .invalid => "syntax error"
  | .badEscape => "bad string escape"

/-- A fault of a template and the line on which it was noticed, if one is
known. -/
structure Fault where
  kind : FaultKind
  line : Option Nat
deriving DecidableEq, Repr

end Componentry.Template
