import Componentry.Template.Parser.Expression

/-!
# The parser of statements

A body is a sequence of texts, expression blocks and statements, up to a
statement block that ends it.  A statement that opens a body takes the block that
ends the body with it; a body that the source ends is found out when that block is
missing.

`parse` reads a whole template and `parseExpression` a source that is one
expression; `check` only says whether a template parses.
-/

namespace Componentry.Template

open Componentry.Template.Parser

/-- The variables that cannot be assigned to. -/
def isReserved (name : Text) : Bool :=
  [Keyword.kTrue, .kTrueCap, .kFalse, .kFalseCap, .kNone, .kNoneCap, .kLoop, .kSelf].any
    fun k => k.text = name

/-- A variable that is assigned to. -/
def assignedName : Parser Text := do
  let (name, _) ← expectIdent
  if isReserved name then fail else return name

/-- The target of a path: the last attribute of what is before it. -/
def Target.ofExpr (name : Text) : Expr → Target
  | .member object field => .member object field
  | _ => .var name

/-- A variable that is assigned to, or an attribute of one if these are allowed. -/
def assignedPath (attributes : Bool) : Parser Target := do
  let line ← nextLine
  let name ← assignedName
  let path ← iterate (fun path => do
    if ← (if attributes then skipSymbol .dot else pure false) then
      let (field, _) ← expectIdent
      return some (.member path field)
    else return none) (Expr.var name line)
  return .ofExpr name path

/-- One target, or a list of targets with commas between them; parentheses may
enclose a list.  At most `n` parentheses can be open. -/
def targets (attributes : Bool) : Nat → Parser Target
  | 0 => fail
  | n + 1 => do
    let line ← nextLine
    let (items, isList, _) ← iterate (fun (items, isList, closed) => do
      if closed then return none
      if !items.isEmpty then expectSymbol .comma
      let next ← peek
      if next = some (.symbol .closeParen) || next = some .expressionEnd ||
          next = some .statementEnd || next = some Keyword.kIn.token then
        return some (items, isList, true)
      let item ← if ← skipSymbol .openParen then do
          let inner ← targets attributes n
          expectSymbol .closeParen
          pure inner
        else assignedPath attributes
      if ← isNext (.symbol .comma) then return some (items ++ [item], true, false)
      else return some (items ++ [item], isList, true)) (([] : List Target), false, false)
    match items, isList with
    | [target], false => return target
    | _, _ => return .list items line

/-- One target or a list of targets. -/
def assignment (attributes : Bool) : Parser Target := do targets attributes ((← remaining) + 1)

/-- The value of an assignment: an expression, or a list of them with commas between
them and possibly one behind the last. -/
def assignedValue (n : Nat) : Parser Expr := do
  let line ← nextLine
  let first ← expression n
  if ← isNext (.symbol .comma) then
    let items ← iterate (fun items => do
      if !(← skipSymbol .comma) then return none
      if ← isNext .statementEnd then return none
      return some (items ++ [← expression n])) [first]
    return .list items line
  else return first

/-- The filters of a block, with bars between them. -/
def filterChain (n : Nat) : Parser (List FilterCall) := do
  let filters ← iterate (fun filters => do
    if ← isNext .statementEnd then return none
    if !filters.isEmpty then expectSymbol .pipe
    let (name, line) ← dottedName
    let args ←
      if ← isNext (.symbol .openParen) then arguments (expression n) (operandAt n)
      else pure []
    return some (filters ++ [FilterCall.mk name line args])) []
  if filters.isEmpty then fail else return filters

/-- The parameters of a macro, behind the opening parenthesis, and the defaults of
the last of them. -/
def parameters (n : Nat) : Parser (List Text × List Expr) := do
  let items ← commaList .closeParen fun before => do
    let name ← assignedName
    if ← skipSymbol .assign then return (name, some (← expression n))
    else if before.any (·.2.isSome) then
      expectSymbol .assign
      return (name, none)
    else return (name, none)
  return (items.map Prod.fst, items.filterMap Prod.snd)

/-- Takes `with context` or `without context` if it comes next. -/
def skipContext : Parser Bool := do
  let found ← if ← skipKeyword .kWith then pure true else skipKeyword .kWithout
  if found then expectKeyword .kContext
  return found

/-! ## Bodies -/

/-- A sequence of statements up to a statement block whose first token ends it.
The start of that block is taken. -/
def bodyUntil (statement : Parser Stmt) (n : Nat) (isEnd : Token → Bool) :
    Parser (List Stmt) := do
  let result ← iterate (fun (body, closed) => do
    if closed then return none
    match ← take with
    | none => return some (body, true)
    | some ⟨.data text, _⟩ => return some (body ++ [.data text], false)
    | some ⟨.expressionStart, _⟩ =>
      let e ← expression n
      expect .expressionEnd
      return some (body ++ [.emit e], false)
    | some ⟨.statementStart, _⟩ =>
      match ← peek with
      | none => fail
      | some t =>
        if isEnd t then return some (body, true)
        else
          let s ← statement
          expect .statementEnd
          return some (body ++ [s], false)
    | some _ => fail) (([] : List Stmt), false)
  if !result.2 then
    -- Only the end of the tokens, or the fault behind them, is left.
    let _ ← take
  return result.1

/-- A body up to the block of one of the given keywords. -/
def bodyUpTo (statement : Parser Stmt) (n : Nat) (ends : List Keyword) : Parser (List Stmt) :=
  bodyUntil statement n fun t => ends.any fun k => t = k.token

/-- A body behind the end of the block that opens it, up to the block of the given
keyword, which is taken. -/
def bodyThrough (statement : Parser Stmt) (n : Nat) (stop : Keyword) : Parser (List Stmt) := do
  expect .statementEnd
  let body ← bodyUpTo statement n [stop]
  let _ ← take
  return body

/-! ## Statements -/

/-- A condition with its bodies; there can be at most `k` further conditions. -/
def ifStatement (statement : Parser Stmt) (n : Nat) : Nat → Parser Stmt
  | 0 => fail
  | k + 1 => do
    let test ← operandAt n
    expect .statementEnd
    let yes ← bodyUpTo statement n [.kEndif, .kElse, .kElif]
    match ← take with
    | some l =>
      if l.token = Keyword.kElse.token then
        return .ifElse test yes (← bodyThrough statement n .kEndif)
      else if l.token = Keyword.kElif.token then
        return .ifElse test yes [← ifStatement statement n k]
      else return .ifElse test yes []
    | none => return .ifElse test yes []

/-- A loop. -/
def forStatement (statement : Parser Stmt) (n : Nat) : Parser Stmt := do
  let target ← assignment false
  expectKeyword .kIn
  let items ← operandAt n
  let condition ← if ← skipKeyword .kIf then some <$> expression n else pure none
  let recursive ← skipKeyword .kRecursive
  expect .statementEnd
  let body ← bodyUpTo statement n [.kEndfor, .kElse]
  let otherwise ← if ← skipKeyword .kElse then do
      expect .statementEnd
      bodyUpTo statement n [.kEndfor]
    else pure []
  let _ ← take
  return .forEach target items condition recursive body otherwise

/-- An assignment, of a value or of a body's output. -/
def setStatement (statement : Parser Stmt) (n : Nat) : Parser Stmt := do
  let target ← assignment true
  let next ← peek
  if next = some .statementEnd || next = some (.symbol .pipe) then
    let filters ← if ← skipSymbol .pipe then filterChain n else pure []
    return .setBlock target filters (← bodyThrough statement n .kEndset)
  else
    expectSymbol .assign
    return .set target (← assignedValue n)

/-- Assignments for one body. -/
def withStatement (statement : Parser Stmt) (n : Nat) : Parser Stmt := do
  let assignments ← iterate (fun assignments => do
    if ← isNext .statementEnd then return none
    if !assignments.isEmpty then expectSymbol .comma
    let target ← if ← skipSymbol .openParen then do
        let t ← assignment false
        expectSymbol .closeParen
        pure t
      else Target.var <$> assignedName
    expectSymbol .assign
    return some (assignments ++ [(target, ← expression n)])) []
  return .withVars assignments (← bodyThrough statement n .kEndwith)

/-- Whether a statement only writes spaces. -/
def isBlankData : Stmt → Bool
  | .data text => text.all Text.isSpace
  | _ => false

/-- A named block, whose name may stand at its end as well.  A required one holds
nothing but spaces. -/
def blockStatement (statement : Parser Stmt) (n : Nat) : Parser Stmt := do
  let line ← lastLine
  if (← get).inMacro then fail
  let (name, _) ← expectIdent
  if (← get).blocks.contains name then fail
  modify fun s => { s with blocks := name :: s.blocks }
  let _ ← skipKeyword .kScoped
  let required ← skipKeyword .kRequired
  let body ← bodyThrough statement n .kEndblock
  if required && !body.all isBlankData then fail
  match ← peek with
  | some (.ident trailing) =>
    if trailing = name then
      let _ ← take
      return .block name required line body
    else fail
  | _ => return .block name required line body

/-- The inclusion of another template. -/
def includeStatement (n : Nat) : Parser Stmt := do
  let name ← expression n
  let _ ← skipContext
  let ignoreMissing ← skipKeyword .kIgnore
  if ignoreMissing then
    expectKeyword .kMissing
    let _ ← skipContext
  return .includeFrom name ignoreMissing

/-- The import of another template's names. -/
def fromStatement (n : Nat) : Parser Stmt := do
  let name ← expression n
  expectKeyword .kImport
  let names ← iterate (fun names => do
    if ← isNext .statementEnd then return none
    if ← skipContext then return none
    if !names.isEmpty then
      expectSymbol .comma
      if ← isNext .statementEnd then return none
      if ← skipContext then return none
    let name ← assignedName
    let renamed ← if ← skipKeyword .kAs then some <$> assignedName else pure none
    return some (names ++ [(name, renamed)])) []
  return .importNames name names

/-- The body of a macro or a call block. -/
def macroBody (statement : Parser Stmt) (n : Nat) (stop : Keyword) : Parser (List Stmt) := do
  let outer := (← get).inMacro
  modify fun s => { s with inMacro := true }
  let body ← bodyThrough statement n stop
  modify fun s => { s with inMacro := outer }
  return body

/-- A macro. -/
def macroStatement (statement : Parser Stmt) (n : Nat) : Parser Stmt := do
  let (name, _) ← expectIdent
  expectSymbol .openParen
  let (params, defaults) ← parameters n
  return .macroDef name params defaults (← macroBody statement n .kMacroEnd)

/-- A call with a body. -/
def callStatement (statement : Parser Stmt) (n : Nat) : Parser Stmt := do
  let (params, defaults) ← if ← skipSymbol .openParen then parameters n else pure ([], [])
  let call ← expression n
  match call with
  | .call _ _ => return .callBlock call params defaults (← macroBody statement n .kEndcall)
  | _ => fail

/-- A call for its effect. -/
def doStatement (n : Nat) : Parser Stmt := do
  let call ← expression n
  match call with
  | .call _ _ => return .doCall call
  | _ => fail

/-- The statement that a keyword starts, with the parser of the statements in its
bodies. -/
def statementOf (statement : Parser Stmt) (n : Nat) (word : Text) : Parser Stmt := do
  if word = Keyword.kFor.text then forStatement statement n
  else if word = Keyword.kIf.text then ifStatement statement n ((← remaining) + 1)
  else if word = Keyword.kWith.text then withStatement statement n
  else if word = Keyword.kSet.text then setStatement statement n
  else if word = Keyword.kAutoescape.text then
    return .autoescape (← expression n) (← bodyThrough statement n .kEndautoescape)
  else if word = Keyword.kFilter.text then
    return .filterBlock (← filterChain n) (← bodyThrough statement n .kEndfilter)
  else if word = Keyword.kBlock.text then blockStatement statement n
  else if word = Keyword.kExtends.text then return .extendsFrom (← expression n)
  else if word = Keyword.kInclude.text then includeStatement n
  else if word = Keyword.kImport.text then
    let name ← expression n
    expectKeyword .kAs
    let target ← expression n
    let _ ← skipContext
    return .importAs name target
  else if word = Keyword.kFrom.text then fromStatement n
  else if word = Keyword.kMacro.text then macroStatement statement n
  else if word = Keyword.kCall.text then callStatement statement n
  else if word = Keyword.kDo.text then doStatement n
  else fail

/-- A statement that nests at most `n` levels deep. -/
def statement : Nat → Parser Stmt
  | 0 => fail
  | n + 1 => do
    let (word, _) ← expectIdent
    statementOf (statement n) n word

/-! ## Whole sources -/

/-- The statements of a whole template. -/
def template : Parser (List Stmt) :=
  bodyUntil (statement nestingLimit) nestingLimit fun _ => false

/-- Parses the tokens of a source. -/
def parseLexemes {α : Type} (parser : Parser α) (lexemes : List Lexeme) (fault : Option LexFault) :
    Except Fault α :=
  (parser.run ⟨lexemes, 0, fault, [], false⟩).map Prod.fst

/-- Parses a template. -/
def parse (source : Text) : Except Fault (List Stmt) :=
  let l := lex source
  parseLexemes template l.lexemes l.fault

/-- Parses a source that is one expression. -/
def parseExpression (source : Text) : Except Fault Expr :=
  let (lexemes, fault) := lexExpression source
  parseLexemes (do
    let e ← expression nestingLimit
    match ← take with
    | none => return e
    | some _ => fail) lexemes fault

/-- The fault of a template, if it does not parse. -/
def check (source : Text) : Option Fault :=
  match parse source with
  | .ok _ => none
  | .error fault => some fault

end Componentry.Template
