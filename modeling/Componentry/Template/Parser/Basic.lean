import Componentry.Template.Lexer
import Componentry.Template.Tree

/-!
# Parsers of tokens

The parser reads tokens from left to right with one token of look-ahead.  A fault
is reported on the line of the last token that was **taken**; looking at a token
does not take it.  A fault of the lexer is met when the tokens before it are used
up.

A loop (`iterate`) runs at most once for every token that is left, since each of
its rounds takes one.
-/

namespace Componentry.Template

/-- What the parser has before it. -/
structure ParseState where
  /-- The tokens that are left. -/
  rest : List Lexeme
  /-- The line of the last token taken, zero before the first. -/
  last : Nat
  /-- The lexer's fault behind the last token. -/
  fault : Option LexFault
  /-- The names of the blocks so far. -/
  blocks : List Text
  /-- Whether the body of a macro is being read. -/
  inMacro : Bool
deriving DecidableEq, Repr

/-- A parser of something. -/
abbrev Parser := StateT ParseState (Except Fault)

namespace Parser

/-- The line of a fault, if the parser has come to one. -/
def lineOf (n : Nat) : Option Nat := if n = 0 then none else some n

/-- A fault at the last token taken. -/
def fail {α : Type} : Parser α := do
  throw ⟨.invalid, lineOf (← get).last⟩

/-- The fault that the lexer left. -/
def lexFault {α : Type} : LexFault → Parser α
  | .invalid line => throw ⟨.invalid, lineOf line⟩
  | .badEscape => do throw ⟨.badEscape, lineOf (← get).last⟩

/-- The next token, which is not taken; none at the end. -/
def peek : Parser (Option Token) := do
  let s ← get
  match s.rest, s.fault with
  | l :: _, _ => return some l.token
  | [], none => return none
  | [], some f => lexFault f

/-- Takes the next token; none at the end. -/
def take : Parser (Option Lexeme) := do
  let s ← get
  match s.rest, s.fault with
  | l :: rest, _ =>
    set { s with rest := rest, last := l.line }
    return some l
  | [], none => return none
  | [], some f => lexFault f

/-- Takes a token that must be there. -/
def takeAny : Parser Lexeme := do
  match ← take with
  | some l => return l
  | none => fail

/-- Takes the given token, which must come next. -/
def expect (t : Token) : Parser Unit := do
  let l ← takeAny
  if l.token = t then return () else fail

/-- Takes the given symbol, which must come next. -/
def expectSymbol (s : Symbol) : Parser Unit := expect (.symbol s)

/-- Takes the given keyword, which must come next. -/
def expectKeyword (k : Keyword) : Parser Unit := expect k.token

/-- Takes an identifier, which must come next. -/
def expectIdent : Parser (Text × Nat) := do
  let l ← takeAny
  match l.token with
  | .ident name => return (name, l.line)
  | _ => fail

/-- Whether the next token is the given one. -/
def isNext (t : Token) : Parser Bool := do return (← peek) = some t

/-- Takes the next token if it is the given one. -/
def skip (t : Token) : Parser Bool := do
  if ← isNext t then
    let _ ← take
    return true
  else return false

/-- Takes the next token if it is the given symbol. -/
def skipSymbol (s : Symbol) : Parser Bool := skip (.symbol s)

/-- Takes the next token if it is the given keyword. -/
def skipKeyword (k : Keyword) : Parser Bool := skip k.token

/-- The line of the last token taken, zero before the first. -/
def lastLine : Parser Nat := do return (← get).last

/-- The line of the next token, or that of the last one at the end. -/
def nextLine : Parser Nat := do
  let s ← get
  return (s.rest.head?.map Lexeme.line).getD s.last

/-- Takes the next token if it is a string.  A fault of the lexer in its place ends
the source instead. -/
def skipString : Parser (Option Text) := do
  let s ← get
  match s.rest with
  | ⟨.string value, line⟩ :: rest =>
    set { s with rest := rest, last := line }
    return some value
  | _ :: _ => return none
  | [] =>
    set { s with fault := none }
    return none

/-- The number of tokens that are left. -/
def remaining : Parser Nat := do return (← get).rest.length

/-- Repeats a step on a value until it gives none, at most `n` times. -/
def repeatUpTo {α : Type} (step : α → Parser (Option α)) : Nat → α → Parser α
  | 0, a => return a
  | n + 1, a => do
    match ← step a with
    | none => return a
    | some b => repeatUpTo step n b

/-- Repeats a step that takes at least one token until it gives none. -/
def iterate {α : Type} (step : α → Parser (Option α)) (a : α) : Parser α := do
  repeatUpTo step (← remaining) a

/-- Items up to a closing symbol, with commas between them and possibly one behind
the last.  The parser of an item is given the items before it. -/
def commaList {α : Type} (close : Symbol) (item : List α → Parser α) : Parser (List α) := do
  let items ← iterate (fun (items, closed) => do
    if closed then return none
    if ← skipSymbol close then return some (items, true)
    if !items.isEmpty then
      expectSymbol .comma
      if ← skipSymbol close then return some (items, true)
    let a ← item items
    return some (items ++ [a], false)) (([] : List α), false)
  if items.2 then return items.1
  else
    expectSymbol close
    return items.1

end Parser

end Componentry.Template
