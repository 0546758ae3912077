import Componentry.Template.Parser.Basic

/-!
# The parser of expressions

Operators bind, from weakest to strongest: `if`, `or`, `and`, `not`, comparisons
and `in`, `+` and `-`, `~`, `*` `/` `//` `%`, `**`, the sign; then come
attributes, items and calls, and last filters and tests.  Comparisons in a row are
one chain, and strings in a row one string.

Nesting is limited (`nestingLimit`).  `expression n` parses an expression that
may nest `n` levels deep, and is defined by recursion on `n`: the functions below
it take the parser of the next level as an argument.  An expression without `if`
takes no level of its own; the values of named arguments are such, and nest at
most as deep as there are tokens (`operandWithin`).
-/

namespace Componentry.Template

open Componentry.Template.Parser

/-- Operands joined by operators of one strength, from left to right. -/
def leftChain (operator? : Token → Option BinaryOp) (operand : Parser Expr) : Parser Expr := do
  let line ← nextLine
  let first ← operand
  iterate (fun left => do
    match (← peek).bind operator? with
    | none => return none
    | some op =>
      let _ ← take
      let right ← operand
      return some (.binary op left right line)) first

/-- The operators that add. -/
def sumOperator? : Token → Option BinaryOp
  | .symbol .plus => some .add
  | .symbol .minus => some .subtract
  | _ => none

/-- The operator that joins texts. -/
def concatOperator? : Token → Option BinaryOp
  | .symbol .tilde => some .concat
  | _ => none

/-- The operators that multiply and divide. -/
def productOperator? : Token → Option BinaryOp
  | .symbol .times => some .multiply
  | .symbol .slash => some .divide
  | .symbol .doubleSlash => some .floorDivide
  | .symbol .percent => some .remainder
  | _ => none

/-- The operator of powers. -/
def powerOperator? : Token → Option BinaryOp
  | .symbol .power => some .power
  | _ => none

/-- The operators that compare. -/
def compareOperator? : Token → Option CompareOp
  | .symbol .equal => some .equal
  | .symbol .notEqual => some .notEqual
  | .symbol .less => some .less
  | .symbol .lessEqual => some .lessEqual
  | .symbol .greater => some .greater
  | .symbol .greaterEqual => some .greaterEqual
  | t => if t = Keyword.kIn.token then some .isIn else none

/-- The alternative operator. -/
def orOperator? (t : Token) : Option BinaryOp := if t = Keyword.kOr.token then some .or else none

/-- The conjunction operator. -/
def andOperator? (t : Token) : Option BinaryOp := if t = Keyword.kAnd.token then some .and else none

/-! ## Operands -/

/-- One argument of a call or a filter, behind the others.  No plain argument may
follow a named one, and the value of a named one holds no `if`. -/
def argument (expr namedValue : Parser Expr) (before : List (ArgumentKind × Expr)) :
    Parser (ArgumentKind × Expr) := do
  if ← skipSymbol .power then return (.nameds, ← expr)
  if ← skipSymbol .times then return (.positionals, ← expr)
  let value ← expr
  let named ← match value with
    | .var _ _ => skipSymbol .assign
    | _ => pure false
  match value, named with
  | .var name _, true => return (.named name, ← namedValue)
  | _, _ =>
    if before.any fun (kind, _) => kind.isNamed then fail
    else return (.positional, value)

/-- The arguments of a call or a filter, from the opening parenthesis on. -/
def arguments (expr namedValue : Parser Expr) : Parser (List (ArgumentKind × Expr)) := do
  expectSymbol .openParen
  commaList .closeParen fun before => do
    let a ← argument expr namedValue before
    if 2000 ≤ before.length then fail else return a

/-- The elements of a parenthesis, which has been opened: an expression in
parentheses, or a list if there is a comma. -/
def parenthesis (expr : Parser Expr) (line : Nat) : Parser Expr := do
  if ← skipSymbol .closeParen then return .list [] line
  let first ← expr
  if ← isNext (.symbol .comma) then
    let items ← iterate (fun (items, closed) => do
      if closed then return none
      if ← skipSymbol .closeParen then return some (items, true)
      expectSymbol .comma
      if ← skipSymbol .closeParen then return some (items, true)
      let e ← expr
      return some (items ++ [e], false)) ([first], false)
    if !items.2 then expectSymbol .closeParen
    return .list items.1 line
  else
    expectSymbol .closeParen
    return first

/-- The value of an identifier that stands for a constant. -/
def constant? (name : Text) : Option Literal :=
  if name = Keyword.kTrue.text || name = Keyword.kTrueCap.text then some (.bool true)
  else if name = Keyword.kFalse.text || name = Keyword.kFalseCap.text then some (.bool false)
  else if name = Keyword.kNone.text || name = Keyword.kNoneCap.text then some .none
  else none

/-- The strings behind a string, which continue it.  The last round takes none. -/
def moreStrings (value : Text) : Parser Text := do
  repeatUpTo (fun value => do return (← skipString).map (value ++ ·)) ((← remaining) + 1) value

/-- A constant, a variable, or an expression in brackets. -/
def primary (expr : Parser Expr) : Parser Expr := do
  let ⟨token, line⟩ ← takeAny
  match token with
  | .ident name =>
    match constant? name with
    | some value => return .const value line
    | none => return .var name line
  | .string value => return .const (.string (← moreStrings value)) line
  | .integer value => return .const (.integer value) line
  | .float digits exponent => return .const (.float digits exponent) line
  | .symbol .openParen => parenthesis expr line
  | .symbol .openBracket => return .list (← commaList .closeBracket fun _ => expr) line
  | .symbol .openBrace =>
    return .map (← commaList .closeBrace (fun _ => do
      let key ← expr
      expectSymbol .colon
      return (key, ← expr))) line
  | _ => fail

/-- The item or slice behind an operand, whose bracket has been opened. -/
def subscript (expr : Parser Expr) (operand : Expr) : Parser Expr := do
  let start ← if ← isNext (.symbol .colon) then pure none else some <$> expr
  if ← skipSymbol .colon then
    let next ← peek
    let stop ←
      if next = some (.symbol .closeBracket) || next = some (.symbol .colon) then pure none
      else some <$> expr
    let mut step := none
    if ← skipSymbol .colon then
      if !(← isNext (.symbol .closeBracket)) then step := some (← expr)
    expectSymbol .closeBracket
    return .slice operand start stop step
  else
    expectSymbol .closeBracket
    match start with
    | some key => return .item operand key
    | none => fail

/-- The attribute behind an operand and a point, or the item if it is a whole
number. -/
def pointed (operand : Expr) : Parser Expr := do
  let ⟨token, line⟩ ← takeAny
  match token with
  | .ident name => return .member operand name
  | .integer value => return .item operand (.const (.integer value) line)
  | _ => fail

/-- The attributes, items and calls behind an operand. -/
def postfixes (expr namedValue : Parser Expr) (operand : Expr) : Parser Expr :=
  iterate (fun e => do
    match ← peek with
    | some (.symbol .dot) =>
      let _ ← take
      return some (← pointed e)
    | some (.symbol .openBracket) =>
      let _ ← take
      return some (← subscript expr e)
    | some (.symbol .openParen) => return some (.call e (← arguments expr namedValue))
    | _ => return none) operand

/-- A primary behind any number of minus signs. -/
def signed (primary : Parser Expr) : Parser Expr := do
  let lines ← iterate (fun lines => do
    if ← skipSymbol .minus then return some (lines ++ [← lastLine]) else return none) []
  let e ← primary
  return lines.foldr (fun line e => .unary .negate e line) e

/-- Whether a token can start the argument of a test that has no parentheses. -/
def startsTestArgument : Token → Bool
  | .ident name =>
    !(name = Keyword.kAnd.text || name = Keyword.kOr.text || name = Keyword.kElse.text ||
      name = Keyword.kIs.text)
  | .string _ | .integer _ | .float .. => true
  | .symbol .plus | .symbol .minus | .symbol .openBracket | .symbol .openBrace => true
  | _ => false

/-- The name of a filter or a test, which may have points in it. -/
def dottedName : Parser (Text × Nat) := do
  let (name, line) ← expectIdent
  let name ← iterate (fun name => do
    if ← skipSymbol .dot then
      let (part, _) ← expectIdent
      return some (name ++ '.' :: part)
    else return none) name
  return (name, line)

/-- The filters and tests behind an operand. -/
def filtersAndTests (expr namedValue : Parser Expr) (primary : Parser Expr) (operand : Expr) :
    Parser Expr :=
  iterate (fun e => do
    match ← peek with
    | some (.symbol .pipe) =>
      let _ ← take
      let (name, _) ← dottedName
      let args ← if ← isNext (.symbol .openParen) then arguments expr namedValue else pure []
      return some (.filter name e args)
    | some t =>
      if t = Keyword.kIs.token then
        let _ ← take
        let line ← lastLine
        let negated ← skipKeyword .kNot
        let (name, _) ← dottedName
        let args ← match ← peek with
          | some (.symbol .openParen) => arguments expr namedValue
          | some t =>
            if startsTestArgument t then
              let arg ← postfixes expr namedValue (← signed primary)
              pure [(ArgumentKind.positional, arg)]
            else pure []
          | none => pure []
        let result := Expr.test name e args
        return some (if negated then .unary .not result line else result)
      else return none
    | none => return none) operand

/-! ## Operators -/

/-- An operand with its sign, postfixes, filters and tests. -/
def unary (expr namedValue primary : Parser Expr) : Parser Expr := do
  let e ← signed primary
  let e ← postfixes expr namedValue e
  filtersAndTests expr namedValue primary e

/-- Everything that binds more strongly than comparisons. -/
def arithmetic (expr namedValue primary : Parser Expr) : Parser Expr :=
  leftChain sumOperator? <|
  leftChain concatOperator? <|
  leftChain productOperator? <|
  leftChain powerOperator? <|
  unary expr namedValue primary

/-- The operator of a comparison, if one comes next. -/
def compareOperator : Parser (Option CompareOp) := do
  match ← peek with
  | none => return none
  | some t =>
    if t = Keyword.kNot.token then
      let _ ← take
      expectKeyword .kIn
      return some .isNotIn
    else
      match compareOperator? t with
      | none => return none
      | some op =>
        let _ ← take
        return some op

/-- A chain of comparisons. -/
def comparison (operand : Parser Expr) : Parser Expr := do
  let line ← lastLine
  let first ← operand
  let rest ← iterate (fun rest => do
    match ← compareOperator with
    | none => return none
    | some op => return some (rest ++ [(op, ← operand)])) []
  return if rest.isEmpty then first else .compare first rest line

/-- An operand behind any number of `not`. -/
def negation (operand : Parser Expr) : Parser Expr := do
  let lines ← iterate (fun lines => do
    if ← skipKeyword .kNot then return some (lines ++ [← lastLine]) else return none) []
  let e ← operand
  return lines.foldr (fun line e => .unary .not e line) e

/-- An expression without `if`. -/
def disjunction (expr namedValue primary : Parser Expr) : Parser Expr :=
  leftChain orOperator? <|
  leftChain andOperator? <|
  negation <|
  comparison <|
  arithmetic expr namedValue primary

/-- Conditional expressions.  What follows `else` is again a conditional
expression, of which there can be at most `n`. -/
def conditional (operand : Parser Expr) : Nat → Parser Expr
  | 0 => operand
  | n + 1 => do
    let first ← operand
    iterate (fun yes => do
      if ← skipKeyword .kIf then
        let test ← operand
        let no ← if ← skipKeyword .kElse then some <$> conditional operand n else pure none
        return some (.ifElse test yes no)
      else return none) first

/-- How deep expressions and statements may nest. -/
def nestingLimit : Nat := 150

/-- An expression with its conditions. -/
def withConditions (operand : Parser Expr) : Parser Expr := do
  conditional operand (← remaining)

/-- An expression without `if`, given the parsers of what nests in it.  At most `k`
values of named arguments nest. -/
def operandWithin (expr primary : Parser Expr) : Nat → Parser Expr
  | 0 => disjunction expr fail primary
  | k + 1 => disjunction expr (operandWithin expr primary k) primary

/-- An expression without `if`, given the parsers of what nests in it. -/
def operandOf (expr primary : Parser Expr) : Parser Expr := do
  operandWithin expr primary (← remaining)

/-- An expression without `if` in which expressions nest at most `n` levels deep.  A
primary takes one of these levels, and so does an expression. -/
def operandAt : Nat → Parser Expr
  | 0 => operandOf fail fail
  | 1 => operandOf (withConditions (operandAt 0)) (primary fail)
  | n + 2 =>
    operandOf (withConditions (operandAt (n + 1))) (primary (withConditions (operandAt n)))

/-- An expression that nests at most `n` levels deep. -/
def expression : Nat → Parser Expr
  | 0 => fail
  | n + 1 => withConditions (operandAt n)

end Componentry.Template
