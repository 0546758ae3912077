import Componentry.Template.Parser.Statement

/-! # What the parser makes of simple expressions

`Parser.Yields p tokens a rest` says that a parser reads `a` off the start of
`tokens` and leaves `rest`, from whatever state it is in.  Readings compose along
`do` (`Yields.bind`), and a loop whose step finds nothing ends at once
(`Yields.iterate_stop`), so an operand passes through all levels of operators if
the token behind it belongs to none of them (`endsOperand`).

The expressions read here are the ones that generated code is made of: strings,
variables, variables in parentheses, calls, and the test whether an item of a
variable is defined.  `Parser.Reads n tokens e` says that `tokens` are such an
expression, where expressions may nest `n` levels deep, whatever follows them that
ends an expression.
-/
namespace Componentry.Template

namespace Parser

variable {α β : Type}

/-- A parser reads `a` off the start of `tokens` and leaves `rest`. -/
def Yields (p : Parser α) (tokens : List Lexeme) (a : α) (rest : List Lexeme) : Prop :=
  ∀ s : ParseState, s.rest = tokens → s.fault = none →
    ∃ last, p s = .ok (a, { s with rest := rest, last := last })

/-! ## Composition -/

theorem Yields.pure (a : α) (tokens : List Lexeme) : Yields (Pure.pure a) tokens a tokens := by
  rintro s rfl -
  exact ⟨s.last, rfl⟩

theorem Yields.bind {p : Parser α} {f : α → Parser β} {t t' t'' : List Lexeme} {a : α} {b : β}
    (hp : Yields p t a t') (hf : Yields (f a) t' b t'') : Yields (p >>= f) t b t'' := by
  intro s hs hfault
  obtain ⟨last, hrun⟩ := hp s hs hfault
  obtain ⟨last', hrun'⟩ := hf { s with rest := t', last := last } rfl hfault
  refine ⟨last', ?_⟩
  have hbind : (p >>= f) s = (p s >>= fun (a, s') => f a s') := rfl
  rw [hbind, hrun]
  exact hrun'

theorem Yields.map {p : Parser α} {t t' : List Lexeme} {a : α} (f : α → β)
    (hp : Yields p t a t') : Yields (f <$> p) t (f a) t' := by
  have hbind : f <$> p = p >>= fun a => Pure.pure (f a) := rfl
  rw [hbind]
  exact hp.bind (.pure _ _)

/-! ## Tokens -/

theorem yields_peek (l : Lexeme) (rest : List Lexeme) :
    Yields peek (l :: rest) (some l.token) (l :: rest) := by
  rintro ⟨-, last, fault, blocks, inMacro⟩ rfl -
  exact ⟨last, rfl⟩

theorem yields_take (l : Lexeme) (rest : List Lexeme) :
    Yields take (l :: rest) (some l) rest := by
  rintro ⟨-, last, fault, blocks, inMacro⟩ rfl -
  exact ⟨l.line, rfl⟩

theorem yields_take_nil : Yields take [] none [] := by
  rintro ⟨-, last, -, blocks, inMacro⟩ rfl rfl
  exact ⟨last, rfl⟩

theorem yields_takeAny (l : Lexeme) (rest : List Lexeme) : Yields takeAny (l :: rest) l rest :=
  (yields_take l rest).bind (.pure _ _)

theorem yields_expect (t : Token) (line : Nat) (rest : List Lexeme) :
    Yields (expect t) (⟨t, line⟩ :: rest) () rest := by
  refine (yields_takeAny ⟨t, line⟩ rest).bind ?_
  rw [if_pos rfl]
  exact .pure _ _

theorem yields_expectIdent (name : Text) (line : Nat) (rest : List Lexeme) :
    Yields expectIdent (⟨.ident name, line⟩ :: rest) (name, line) rest :=
  (yields_takeAny ⟨.ident name, line⟩ rest).bind (.pure _ _)

theorem yields_isNext (t : Token) (l : Lexeme) (rest : List Lexeme) :
    Yields (isNext t) (l :: rest) (decide (some l.token = some t)) (l :: rest) :=
  (yields_peek l rest).bind (.pure _ _)

theorem yields_skip (t : Token) (line : Nat) (rest : List Lexeme) :
    Yields (skip t) (⟨t, line⟩ :: rest) true rest := by
  refine (yields_isNext t ⟨t, line⟩ rest).bind ?_
  rw [if_pos (by simp)]
  exact (yields_take _ _).bind (.pure _ _)

theorem yields_skip_ne {t : Token} {l : Lexeme} (h : l.token ≠ t) (rest : List Lexeme) :
    Yields (skip t) (l :: rest) false (l :: rest) := by
  refine (yields_isNext t l rest).bind ?_
  rw [if_neg (by simpa using h)]
  exact .pure _ _

theorem yields_remaining (tokens : List Lexeme) :
    Yields remaining tokens tokens.length tokens := by
  rintro s rfl -
  exact ⟨s.last, rfl⟩

/-- The line of the next token. -/
theorem yields_nextLine (l : Lexeme) (rest : List Lexeme) :
    Yields nextLine (l :: rest) l.line (l :: rest) := by
  rintro ⟨-, last, fault, blocks, inMacro⟩ rfl -
  exact ⟨last, rfl⟩

/-! ## Loops -/

theorem Yields.repeat_stop {step : α → Parser (Option α)} {a : α} {t t' : List Lexeme} {n : Nat}
    (h : Yields (step a) t none t') : Yields (repeatUpTo step (n + 1) a) t a t' :=
  h.bind (.pure _ _)

theorem Yields.repeat_step {step : α → Parser (Option α)} {a b c : α} {t t' t'' : List Lexeme}
    {n : Nat} (h : Yields (step a) t (some b) t') (h' : Yields (repeatUpTo step n b) t' c t'') :
    Yields (repeatUpTo step (n + 1) a) t c t'' := h.bind h'

/-- A loop whose first step finds nothing. -/
theorem Yields.iterate_stop {step : α → Parser (Option α)} {a : α} {l : Lexeme}
    {rest : List Lexeme} (h : Yields (step a) (l :: rest) none (l :: rest)) :
    Yields (iterate step a) (l :: rest) a (l :: rest) :=
  (yields_remaining _).bind (Yields.repeat_stop h)

/-- A loop that makes one step and then finds nothing; the step takes a token. -/
theorem Yields.iterate_once {step : α → Parser (Option α)} {a b : α} {t : List Lexeme} {l : Lexeme}
    {rest : List Lexeme} (h : Yields (step a) t (some b) (l :: rest))
    (hlen : rest.length + 1 < t.length)
    (hstop : Yields (step b) (l :: rest) none (l :: rest)) :
    Yields (iterate step a) t b (l :: rest) := by
  obtain ⟨n, hn⟩ : ∃ n, t.length = n + 1 + 1 := ⟨t.length - 2, by omega⟩
  refine (yields_remaining t).bind ?_
  rw [hn]
  exact Yields.repeat_step h (Yields.repeat_stop hstop)

/-- A step that takes no token and finds nothing behind a token `t`. -/
theorem Yields.iterate_of_peek {step : α → Parser (Option α)} {a : α} {l : Lexeme}
    {rest : List Lexeme} {k : Option Token → Parser (Option α)} (hstep : step a = peek >>= k)
    (hk : k (some l.token) = Pure.pure none) :
    Yields (iterate step a) (l :: rest) a (l :: rest) := by
  refine Yields.iterate_stop ?_
  rw [hstep]
  refine (yields_peek l rest).bind ?_
  rw [hk]
  exact .pure _ _

/-- A step that looks for a token which does not come next. -/
theorem Yields.iterate_of_skip {step : α → Parser (Option α)} {a : α} {l : Lexeme} {t : Token}
    {rest : List Lexeme} {k : Bool → Parser (Option α)} (hstep : step a = skip t >>= k)
    (hne : l.token ≠ t) (hk : k false = Pure.pure none) :
    Yields (iterate step a) (l :: rest) a (l :: rest) := by
  refine Yields.iterate_stop ?_
  rw [hstep]
  refine (yields_skip_ne hne rest).bind ?_
  rw [hk]
  exact .pure _ _

/-! ## Operators -/

/-- Whether a token ends an operand: it is no operator and starts no postfix, filter
or test. -/
def endsOperand (t : Token) : Bool :=
  [Token.symbol .comma, .symbol .closeParen, .symbol .closeBracket, .expressionEnd, .statementEnd,
    Keyword.kIf.token].contains t

/-- Whether a token ends an expression. -/
def endsExpression (t : Token) : Bool :=
  [Token.symbol .comma, .symbol .closeParen, .symbol .closeBracket, .expressionEnd,
    .statementEnd].contains t

/-- Whether a token ends a term: it ends an operand, or joins it to the next one. -/
def endsTerm (t : Token) : Bool := endsOperand t || t == .symbol .tilde

/-- Whether a token starts an operand without a sign in front of it. -/
def startsOperand : Token → Bool
  | .ident name => name != Keyword.kNot.text
  | .string _ | .symbol .openParen => true
  | _ => false

theorem endsOperand_cases {t : Token} (h : endsOperand t = true) :
    t = .symbol .comma ∨ t = .symbol .closeParen ∨ t = .symbol .closeBracket ∨
      t = .expressionEnd ∨ t = .statementEnd ∨ t = Keyword.kIf.token := by
  simpa [endsOperand] using h

theorem endsTerm_of_endsOperand {t : Token} (h : endsOperand t = true) : endsTerm t = true := by
  rw [endsTerm, h, Bool.true_or]

theorem endsTerm_cases {t : Token} (h : endsTerm t = true) :
    t = .symbol .comma ∨ t = .symbol .closeParen ∨ t = .symbol .closeBracket ∨
      t = .expressionEnd ∨ t = .statementEnd ∨ t = Keyword.kIf.token ∨ t = .symbol .tilde := by
  simpa [endsTerm, endsOperand, or_assoc] using h

theorem endsExpression_cases {t : Token} (h : endsExpression t = true) :
    t = .symbol .comma ∨ t = .symbol .closeParen ∨ t = .symbol .closeBracket ∨
      t = .expressionEnd ∨ t = .statementEnd := by
  simpa [endsExpression] using h

theorem endsOperand_of_endsExpression {t : Token} (h : endsExpression t = true) :
    endsOperand t = true := by
  rcases endsExpression_cases h with rfl | rfl | rfl | rfl | rfl <;> decide

theorem startsOperand_ne {t : Token} (h : startsOperand t = true) :
    t ≠ Keyword.kNot.token ∧ t ≠ .symbol .minus ∧ t ≠ .symbol .closeParen ∧
      t ≠ .symbol .closeBracket ∧ t ≠ .symbol .colon ∧ t ≠ .symbol .power ∧
      t ≠ .symbol .times := by
  refine ⟨?_, ?_, ?_, ?_, ?_, ?_, ?_⟩
  all_goals
    rintro rfl
    exact absurd h (by decide)

variable {expr named prim : Parser Expr} {l₀ l : Lexeme} {t₀ rest : List Lexeme} {e : Expr}

theorem Yields.leftChain {operator? : Token → Option BinaryOp} {operand : Parser Expr}
    (h : Yields operand (l₀ :: t₀) e (l :: rest)) (hop : operator? l.token = none) :
    Yields (leftChain operator? operand) (l₀ :: t₀) e (l :: rest) := by
  refine (yields_nextLine l₀ t₀).bind (h.bind ?_)
  refine Yields.iterate_of_peek rfl ?_
  simp only [Option.bind_some, hop]

theorem Yields.lastLine_bind {f : Nat → Parser β} {t t' : List Lexeme} {b : β}
    (h : ∀ n, Yields (f n) t b t') : Yields (lastLine >>= f) t b t' := by
  intro s hs hfault
  obtain ⟨last, hrun⟩ := h s.last s hs hfault
  exact ⟨last, hrun⟩

theorem yields_compareOperator_none (h : endsOperand l.token = true) :
    Yields compareOperator (l :: rest) none (l :: rest) := by
  refine (yields_peek l rest).bind ?_
  rcases endsOperand_cases h with h | h | h | h | h | h <;>
    · rw [h]
      exact .pure _ _

theorem Yields.comparison {operand : Parser Expr} (h : Yields operand (l₀ :: t₀) e (l :: rest))
    (hl : endsOperand l.token = true) : Yields (comparison operand) (l₀ :: t₀) e (l :: rest) := by
  refine Yields.lastLine_bind fun line => h.bind ?_
  refine Yields.bind (Yields.iterate_stop ?_) (.pure _ _)
  exact (yields_compareOperator_none hl).bind (.pure _ _)

theorem Yields.negation {operand : Parser Expr} (h : Yields operand (l₀ :: t₀) e (l :: rest))
    (h₀ : startsOperand l₀.token = true) : Yields (negation operand) (l₀ :: t₀) e (l :: rest) := by
  refine Yields.bind (Yields.iterate_of_skip rfl (startsOperand_ne h₀).1 rfl) ?_
  exact h.bind (.pure _ _)

/-- What `~` joins: everything that binds more strongly. -/
def joined (expr named prim : Parser Expr) : Parser Expr :=
  Template.leftChain productOperator? <| Template.leftChain powerOperator? <| unary expr named prim

/-- A term passes through the levels of operators below `~`. -/
theorem Yields.joined (h : Yields (unary expr named prim) (l₀ :: t₀) e (l :: rest))
    (hl : endsTerm l.token = true) : Yields (joined expr named prim) (l₀ :: t₀) e (l :: rest) := by
  refine (h.leftChain ?_).leftChain ?_
  all_goals rcases endsTerm_cases hl with h | h | h | h | h | h | h <;> rw [h] <;> rfl

/-- A row of terms passes through all levels of operators. -/
theorem Yields.disjunction_row
    (h : Yields (Template.leftChain concatOperator? (Parser.joined expr named prim)) (l₀ :: t₀) e
      (l :: rest))
    (h₀ : startsOperand l₀.token = true) (hl : endsOperand l.token = true) :
    Yields (disjunction expr named prim) (l₀ :: t₀) e (l :: rest) := by
  have harith : Yields (arithmetic expr named prim) (l₀ :: t₀) e (l :: rest) := by
    refine h.leftChain ?_
    rcases endsOperand_cases hl with h | h | h | h | h | h <;> rw [h] <;> rfl
  refine ((Yields.negation (harith.comparison hl) h₀).leftChain ?_).leftChain ?_
  all_goals rcases endsOperand_cases hl with h | h | h | h | h | h <;> rw [h] <;> rfl

/-- An operand passes through all levels of operators. -/
theorem Yields.disjunction (h : Yields (unary expr named prim) (l₀ :: t₀) e (l :: rest))
    (h₀ : startsOperand l₀.token = true) (hl : endsOperand l.token = true) :
    Yields (disjunction expr named prim) (l₀ :: t₀) e (l :: rest) := by
  refine Yields.disjunction_row ?_ h₀ hl
  refine (h.joined (endsTerm_of_endsOperand hl)).leftChain ?_
  rcases endsOperand_cases hl with h | h | h | h | h | h <;> rw [h] <;> rfl

theorem Yields.operandOf (h : ∀ named, Yields (unary expr named prim) (l₀ :: t₀) e (l :: rest))
    (h₀ : startsOperand l₀.token = true) (hl : endsOperand l.token = true) :
    Yields (operandOf expr prim) (l₀ :: t₀) e (l :: rest) := by
  refine (yields_remaining _).bind ?_
  exact Yields.disjunction (h _) h₀ hl

theorem Yields.operandOf_row
    (h : ∀ named, Yields (Template.leftChain concatOperator? (Parser.joined expr named prim))
      (l₀ :: t₀) e (l :: rest))
    (h₀ : startsOperand l₀.token = true) (hl : endsOperand l.token = true) :
    Yields (Template.operandOf expr prim) (l₀ :: t₀) e (l :: rest) := by
  refine (yields_remaining _).bind ?_
  exact Yields.disjunction_row (h _) h₀ hl

/-- An operand without a condition behind it. -/
theorem Yields.withConditions {operand : Parser Expr}
    (h : Yields operand (l₀ :: t₀) e (l :: rest)) (hl : l.token ≠ Keyword.kIf.token) :
    Yields (withConditions operand) (l₀ :: t₀) e (l :: rest) := by
  refine (yields_remaining _).bind (h.bind ?_)
  exact Yields.iterate_of_skip rfl hl rfl

/-! ## Operands -/

theorem Yields.signed (h : Yields prim (l₀ :: t₀) e rest) (h₀ : startsOperand l₀.token = true) :
    Yields (signed prim) (l₀ :: t₀) e rest := by
  refine Yields.bind (Yields.iterate_of_skip rfl (startsOperand_ne h₀).2.1 rfl) ?_
  exact h.bind (.pure _ _)

theorem yields_postfixes_stop (hl : endsTerm l.token = true) :
    Yields (postfixes expr named e) (l :: rest) e (l :: rest) := by
  refine Yields.iterate_of_peek rfl ?_
  rcases endsTerm_cases hl with h | h | h | h | h | h | h
  all_goals rw [h]
  rfl

theorem yields_filters_stop (hl : endsTerm l.token = true) :
    Yields (filtersAndTests expr named prim e) (l :: rest) e (l :: rest) := by
  refine Yields.iterate_of_peek rfl ?_
  rcases endsTerm_cases hl with h | h | h | h | h | h | h <;>
    · rw [h]
      rfl

/-- A primary with nothing behind it. -/
theorem Yields.unary_primary (h : Yields prim (l₀ :: t₀) e (l :: rest))
    (h₀ : startsOperand l₀.token = true) (hl : endsTerm l.token = true) :
    Yields (unary expr named prim) (l₀ :: t₀) e (l :: rest) :=
  (h.signed h₀).bind ((yields_postfixes_stop hl).bind (yields_filters_stop hl))

theorem yields_primary_var {x : Text} (h : constant? x = none) (line : Nat) :
    Yields (primary expr) (⟨.ident x, line⟩ :: rest) (.var x line) rest := by
  refine (yields_takeAny _ _).bind ?_
  simp only [h]
  exact .pure _ _

theorem yields_primary_constant {x : Text} {value : Literal} (h : constant? x = some value)
    (line : Nat) : Yields (primary expr) (⟨.ident x, line⟩ :: rest) (.const value line) rest := by
  refine (yields_takeAny _ _).bind ?_
  simp only [h]
  exact .pure _ _

theorem yields_skipString_none (hl : endsTerm l.token = true) :
    Yields skipString (l :: rest) none (l :: rest) := by
  rintro ⟨-, last, fault, blocks, inMacro⟩ rfl -
  refine ⟨last, ?_⟩
  obtain ⟨token, line⟩ := l
  rcases endsTerm_cases hl with h | h | h | h | h | h | h <;>
    · simp only at h
      subst h
      rfl

theorem yields_primary_string (v : Text) (line : Nat) (hl : endsTerm l.token = true) :
    Yields (primary expr) (⟨.string v, line⟩ :: l :: rest) (.const (.string v) line)
      (l :: rest) := by
  refine (yields_takeAny _ _).bind ?_
  refine Yields.bind (a := v) ?_ (.pure _ _)
  refine (yields_remaining _).bind (Yields.repeat_stop ?_)
  exact (yields_skipString_none hl).bind (.pure _ _)

/-- An expression in parentheses. -/
theorem yields_primary_group {l₁ : Lexeme} {t₁ : List Lexeme} {line line' : Nat}
    (h : Yields expr (l₁ :: t₁) e (⟨.symbol .closeParen, line'⟩ :: rest))
    (h₁ : startsOperand l₁.token = true) :
    Yields (primary expr) (⟨.symbol .openParen, line⟩ :: l₁ :: t₁) e rest := by
  refine (yields_takeAny _ _).bind ?_
  refine Yields.bind (yields_skip_ne (startsOperand_ne h₁).2.2.1 t₁) ?_
  refine h.bind ((yields_isNext _ _ _).bind ?_)
  rw [if_neg (by simp)]
  exact (yields_expect _ _ _).bind (.pure _ _)

/-! ## Arguments -/

/-- The tokens of arguments behind the first one. -/
def moreArguments (line : Nat) (args : List (List Lexeme)) : List Lexeme :=
  args.flatMap fun tokens => ⟨.symbol .comma, line⟩ :: tokens

/-- The tokens of arguments, with commas between them. -/
def argumentTokens (line : Nat) : List (List Lexeme) → List Lexeme
  | [] => []
  | tokens :: more => tokens ++ moreArguments line more

/-- The tokens of an argument: an operand's, read by the given parser. -/
def IsArgument (expr : Parser Expr) (arg : List Lexeme × Expr) : Prop :=
  (∃ l t, arg.1 = l :: t ∧ startsOperand l.token = true) ∧
    ∀ l rest, endsExpression l.token = true → Yields expr (arg.1 ++ l :: rest) arg.2 (l :: rest)

theorem yields_argument {arg : List Lexeme × Expr} (h : IsArgument expr arg)
    {before : List (ArgumentKind × Expr)} (hbefore : before.all (fun a => !a.1.isNamed) = true)
    (hl : endsExpression l.token = true) :
    Yields (argument expr named before) (arg.1 ++ l :: rest) (.positional, arg.2) (l :: rest) := by
  obtain ⟨⟨l₁, t₁, harg, h₁⟩, hyields⟩ := h
  have hvalue := hyields l rest hl
  have hne := startsOperand_ne h₁
  have hno : before.any (fun a => a.1.isNamed) = false := by
    simpa using hbefore
  have hassign : l.token ≠ .symbol .assign := by
    rcases endsExpression_cases hl with h | h | h | h | h <;> rw [h] <;> decide
  rw [harg, List.cons_append] at hvalue ⊢
  refine Yields.bind (yields_skip_ne hne.2.2.2.2.2.1 _) ?_
  refine Yields.bind (yields_skip_ne hne.2.2.2.2.2.2 _) ?_
  refine hvalue.bind ?_
  -- A variable could be the name of a named argument: what follows it decides.
  cases arg.2 with
  | var name line =>
    refine Yields.bind (yields_skip_ne hassign rest) ?_
    simp only [hno]
    exact .pure _ _
  | _ =>
    refine Yields.bind (.pure false _) ?_
    simp only [hno]
    exact .pure _ _

/-- One argument behind others, if there are not too many of them. -/
def countedArgument (expr named : Parser Expr) (before : List (ArgumentKind × Expr)) :
    Parser (ArgumentKind × Expr) := do
  let a ← argument expr named before
  if 2000 ≤ before.length then fail else return a

/-- One step of a list of arguments. -/
def argumentStep (expr named : Parser Expr) (state : List (ArgumentKind × Expr) × Bool) :
    Parser (Option (List (ArgumentKind × Expr) × Bool)) := do
  if state.2 then return none
  if ← skipSymbol .closeParen then return some (state.1, true)
  if !state.1.isEmpty then
    expectSymbol .comma
    if ← skipSymbol .closeParen then return some (state.1, true)
  let a ← countedArgument expr named state.1
  return some (state.1 ++ [a], false)

/-- Arguments as the positional arguments of a call. -/
def positionals (args : List (List Lexeme × Expr)) : List (ArgumentKind × Expr) :=
  args.map fun arg => (.positional, arg.2)

theorem positionals_all (args : List (List Lexeme × Expr)) :
    (positionals args).all (fun a => !a.1.isNamed) = true := by
  simp [positionals, ArgumentKind.isNamed]

theorem positionals_isEmpty {args : List (List Lexeme × Expr)} (h : args ≠ []) :
    (positionals args).isEmpty = false := by
  simpa [positionals] using h

theorem Yields.counted {items : List (ArgumentKind × Expr)} {a : ArgumentKind × Expr}
    {t t' : List Lexeme} (h : Yields (argument expr named items) t a t')
    (hcount : items.length < 2000) :
    Yields (countedArgument expr named items) t a t' := by
  refine h.bind ?_
  rw [if_neg (by omega)]
  exact .pure _ _

theorem yields_argumentStep_close (items : List (ArgumentKind × Expr)) (line : Nat) :
    Yields (argumentStep expr named (items, false)) (⟨.symbol .closeParen, line⟩ :: rest)
      (some (items, true)) rest := by
  simp only [argumentStep]
  exact (yields_skip _ _ _).bind (.pure _ _)

/-- The first argument. -/
theorem yields_argumentStep_first {arg : List Lexeme × Expr} (harg : IsArgument expr arg)
    (hl : endsExpression l.token = true) :
    Yields (argumentStep expr named ([], false)) (arg.1 ++ l :: rest)
      (some (positionals [arg], false)) (l :: rest) := by
  have hread : Yields (argument expr named []) (arg.1 ++ l :: rest) (.positional, arg.2)
      (l :: rest) := yields_argument harg (positionals_all []) hl
  obtain ⟨⟨l₁, t₁, htokens, h₁⟩, -⟩ := harg
  simp only [argumentStep]
  rw [htokens, List.cons_append] at hread ⊢
  refine Yields.bind (yields_skip_ne (startsOperand_ne h₁).2.2.1 _) ?_
  exact Yields.bind (hread.counted (by decide)) (.pure _ _)

/-- One more argument behind others. -/
theorem yields_argumentStep {arg : List Lexeme × Expr} (harg : IsArgument expr arg)
    {done : List (List Lexeme × Expr)} (hdone : done ≠ []) (hcount : done.length < 2000)
    (line : Nat) (hl : endsExpression l.token = true) :
    Yields (argumentStep expr named (positionals done, false))
      (⟨.symbol .comma, line⟩ :: (arg.1 ++ l :: rest)) (some (positionals (done ++ [arg]), false))
      (l :: rest) := by
  have hfew : (positionals done).length < 2000 := by
    rwa [positionals, List.length_map]
  have hread : Yields (argument expr named (positionals done)) (arg.1 ++ l :: rest)
      (.positional, arg.2) (l :: rest) := yields_argument harg (positionals_all done) hl
  obtain ⟨⟨l₁, t₁, htokens, h₁⟩, -⟩ := harg
  simp only [argumentStep, positionals_isEmpty hdone]
  refine Yields.bind (yields_skip_ne (by simp) _) ?_
  refine Yields.bind (yields_expect _ _ _) ?_
  rw [htokens, List.cons_append] at hread ⊢
  refine Yields.bind (yields_skip_ne (startsOperand_ne h₁).2.2.1 _) ?_
  refine Yields.bind (hread.counted hfew) ?_
  simp only [positionals, List.map_append, List.map_cons, List.map_nil]
  exact .pure _ _

/-- What stands behind an argument ends it: the comma of the next one, or the token
behind them all. -/
theorem exists_endsExpression (line : Nat) (more : List (List Lexeme)) (last : Lexeme)
    (hlast : endsExpression last.token = true) (rest : List Lexeme) :
    ∃ l rest', moreArguments line more ++ last :: rest = l :: rest' ∧
      endsExpression l.token = true := by
  cases more with
  | nil => exact ⟨last, rest, rfl, hlast⟩
  | cons _ _ => exact ⟨_, _, rfl, rfl⟩

theorem moreArguments_cons (line : Nat) (tokens : List Lexeme) (more : List (List Lexeme)) :
    moreArguments line (tokens :: more) =
      ⟨.symbol .comma, line⟩ :: (tokens ++ moreArguments line more) := rfl

/-- The rest of a list of arguments, behind at least one of them. -/
theorem yields_moreArguments (line : Nat) (more : List (List Lexeme × Expr)) :
    ∀ (done : List (List Lexeme × Expr)) (n : Nat), done ≠ [] →
      (∀ arg ∈ more, IsArgument expr arg) → done.length + more.length ≤ 2000 →
      more.length < n →
      Yields (repeatUpTo (argumentStep expr named) n (positionals done, false))
        (moreArguments line (more.map Prod.fst) ++ ⟨.symbol .closeParen, line⟩ :: rest)
        (positionals (done ++ more), true) rest := by
  induction more with
  | nil =>
    intro done n hdone _ _ hn
    obtain ⟨n, rfl⟩ : ∃ m, n = m + 1 := ⟨n - 1, by simp at hn; omega⟩
    refine Yields.repeat_step (yields_argumentStep_close _ line) ?_
    rw [List.append_nil]
    cases n with
    | zero => exact .pure _ _
    | succ n => exact Yields.repeat_stop (.pure _ _)
  | cons arg more ih =>
    intro done n hdone hargs hlen hn
    simp only [List.length_cons] at hlen hn
    obtain ⟨n, rfl⟩ : ∃ m, n = m + 1 := ⟨n - 1, by omega⟩
    have hih := ih (done ++ [arg]) n (by simp) (fun a ha => hargs a (by simp [ha]))
      (by simp only [List.length_append, List.length_cons, List.length_nil]; omega) (by omega)
    rw [List.append_assoc, List.singleton_append] at hih
    obtain ⟨l, rest', hrest, hl⟩ := exists_endsExpression line (more.map Prod.fst)
      ⟨.symbol .closeParen, line⟩ rfl rest
    rw [List.map_cons, moreArguments_cons, List.cons_append, List.append_assoc, hrest]
    rw [hrest] at hih
    exact Yields.repeat_step
      (yields_argumentStep (hargs arg (by simp)) hdone (by omega) line hl) hih

theorem length_moreArguments (line : Nat) (args : List (List Lexeme)) :
    args.length ≤ (moreArguments line args).length := by
  induction args with
  | nil => exact Nat.le_refl _
  | cons tokens args ih =>
    rw [moreArguments, List.flatMap_cons, List.length_append, ← moreArguments]
    simp only [List.length_cons]
    omega

/-- **At most 2000 arguments are read**, each by its own reading. -/
theorem yields_arguments (line : Nat) {args : List (List Lexeme × Expr)}
    (hargs : ∀ arg ∈ args, IsArgument expr arg) (hlen : args.length ≤ 2000) :
    Yields (arguments expr named)
      (⟨.symbol .openParen, line⟩ :: (argumentTokens line (args.map Prod.fst) ++
        ⟨.symbol .closeParen, line⟩ :: rest)) (positionals args) rest := by
  refine (yields_expect _ _ _).bind ?_
  -- The list is the loop of `argumentStep`, and it ends at the closing parenthesis.
  suffices hloop : ∀ n, args.length < n →
      Yields (repeatUpTo (argumentStep expr named) n ([], false))
        (argumentTokens line (args.map Prod.fst) ++ ⟨.symbol .closeParen, line⟩ :: rest)
        (positionals args, true) rest by
    refine Yields.bind ((yields_remaining _).bind (hloop _ ?_)) (.pure _ _)
    cases args with
    | nil => simp [argumentTokens]
    | cons arg more =>
      have hmore := length_moreArguments line (more.map Prod.fst)
      obtain ⟨⟨l₁, t₁, htokens, -⟩, -⟩ := hargs arg (by simp)
      simp only [List.map_cons, argumentTokens, List.length_append, List.length_cons, htokens,
        List.length_map] at *
      omega
  intro n hn
  cases args with
  | nil =>
    obtain ⟨n, rfl⟩ : ∃ m, n = m + 1 := ⟨n - 1, by simp at hn; omega⟩
    refine Yields.repeat_step (yields_argumentStep_close [] line) ?_
    cases n with
    | zero => exact .pure _ _
    | succ n => exact Yields.repeat_stop (.pure _ _)
  | cons arg more =>
    simp only [List.length_cons] at hlen hn
    obtain ⟨n, rfl⟩ : ∃ m, n = m + 1 := ⟨n - 1, by omega⟩
    obtain ⟨l, rest', hrest, hl⟩ := exists_endsExpression line (more.map Prod.fst)
      ⟨.symbol .closeParen, line⟩ rfl rest
    have hmore : Yields (repeatUpTo (argumentStep expr named) n (positionals [arg], false))
        (moreArguments line (more.map Prod.fst) ++ ⟨.symbol .closeParen, line⟩ :: rest)
        (positionals (arg :: more), true) rest :=
      yields_moreArguments line more [arg] n (by simp) (fun a ha => hargs a (by simp [ha]))
        (by simp only [List.length_cons, List.length_nil]; omega) (by omega)
    rw [List.map_cons, argumentTokens, List.append_assoc, hrest]
    rw [hrest] at hmore
    exact Yields.repeat_step (yields_argumentStep_first (hargs arg (by simp)) hl) hmore

/-- A call behind its function. -/
theorem yields_postfixes_call (line : Nat) {args : List (List Lexeme × Expr)}
    (hargs : ∀ arg ∈ args, IsArgument expr arg) (hlen : args.length ≤ 2000) (f : Expr)
    (hl : endsOperand l.token = true) :
    Yields (postfixes expr named f)
      (⟨.symbol .openParen, line⟩ :: (argumentTokens line (args.map Prod.fst) ++
        ⟨.symbol .closeParen, line⟩ :: l :: rest)) (.call f (positionals args)) (l :: rest) := by
  refine Yields.iterate_once ?_ ?_ ?_
  · refine (yields_peek _ _).bind ?_
    exact (yields_arguments line hargs hlen).bind (.pure _ _)
  · simp only [List.length_cons, List.length_append]
    omega
  · refine (yields_peek _ _).bind ?_
    rcases endsOperand_cases hl with h | h | h | h | h | h <;>
      · rw [h]
        exact .pure _ _

/-- An item behind its operand, where a test follows. -/
theorem yields_postfixes_item {key : Expr} {line : Nat} {tokens : List Lexeme} (x : Expr)
    (hkey : IsArgument expr (tokens, key)) (hl : l.token = Keyword.kIs.token) :
    Yields (postfixes expr named x)
      (⟨.symbol .openBracket, line⟩ :: (tokens ++ ⟨.symbol .closeBracket, line⟩ :: l :: rest))
      (.item x key) (l :: rest) := by
  obtain ⟨⟨l₁, t₁, htokens, h₁⟩, hread⟩ := hkey
  have hkey := hread ⟨.symbol .closeBracket, line⟩ (l :: rest) rfl
  simp only at htokens
  subst htokens
  refine Yields.iterate_once ?_ ?_ ?_
  · refine (yields_peek _ _).bind ?_
    refine Yields.bind (yields_take _ _) ?_
    refine Yields.bind (a := Expr.item x key) ?_ (.pure _ _)
    rw [List.cons_append] at hkey ⊢
    have hcolon : decide (some l₁.token = some (Token.symbol .colon)) = false := by
      simpa using (startsOperand_ne h₁).2.2.2.2.1
    refine (yields_isNext _ _ _).bind ?_
    rw [hcolon]
    refine Yields.bind (hkey.map some) ?_
    refine Yields.bind (yields_skip_ne (by simp) _) ?_
    exact (yields_expect _ _ _).bind (.pure _ _)
  · simp only [List.length_cons, List.length_append]
    omega
  · refine (yields_peek _ _).bind ?_
    rw [hl]
    exact .pure _ _

/-- The name of a test without points. -/
theorem yields_dottedName (name : Text) (line : Nat) (hl : endsOperand l.token = true) :
    Yields dottedName (⟨.ident name, line⟩ :: l :: rest) (name, line) (l :: rest) := by
  refine (yields_expectIdent _ _ _).bind (Yields.bind (Yields.iterate_of_skip rfl ?_ rfl) ?_)
  · rcases endsOperand_cases hl with h | h | h | h | h | h <;> rw [h] <;> decide
  · exact .pure _ _

/-- A test without arguments behind its operand. -/
theorem yields_test {name : Text} {line : Nat} (x : Expr) (hname : name ≠ Keyword.kNot.text)
    (hl : endsExpression l.token = true) :
    Yields (filtersAndTests expr named prim x)
      (⟨Keyword.kIs.token, line⟩ :: ⟨.ident name, line⟩ :: l :: rest) (.test name x [])
      (l :: rest) := by
  refine Yields.iterate_once ?_ ?_ ?_
  · refine (yields_peek _ _).bind ?_
    refine Yields.bind (yields_take _ _) (Yields.lastLine_bind fun n => ?_)
    refine Yields.bind (yields_skip_ne ?_ _) ?_
    · simpa [Keyword.token] using hname
    refine (yields_dottedName name line (endsOperand_of_endsExpression hl)).bind ?_
    refine (yields_peek _ _).bind ?_
    rcases endsExpression_cases hl with h | h | h | h | h <;>
      · rw [h]
        exact Yields.bind (.pure [] _) (.pure _ _)
  · simp only [List.length_cons]
    omega
  · refine (yields_peek _ _).bind ?_
    rcases endsExpression_cases hl with h | h | h | h | h <;>
      · rw [h]
        exact .pure _ _

/-! ## Expressions of generated code -/

/-- The parsers of what nests in an operand, of an expression and of a primary. -/
def nestedAt : Nat → Parser Expr × Parser Expr
  | 0 => (fail, fail)
  | 1 => (withConditions (operandAt 0), primary fail)
  | n + 2 => (withConditions (operandAt (n + 1)), primary (withConditions (operandAt n)))

theorem operandAt_eq (n : Nat) : operandAt n = operandOf (nestedAt n).1 (nestedAt n).2 := by
  rcases n with _ | _ | n <;> rfl

theorem nestedAt_succ_fst (n : Nat) : (nestedAt (n + 1)).1 = withConditions (operandAt n) := by
  cases n <;> rfl

theorem nestedAt_succ_snd (n : Nat) : ∃ expr, (nestedAt (n + 1)).2 = primary expr := by
  cases n with
  | zero => exact ⟨_, rfl⟩
  | succ n => exact ⟨_, rfl⟩

/-- Tokens are an operand, where expressions nest `n` levels deep: they are read
whatever follows that ends an operand. -/
def ReadsOperand (n : Nat) (tokens : List Lexeme) (e : Expr) : Prop :=
  (∃ l t, tokens = l :: t ∧ startsOperand l.token = true) ∧
    ∀ l rest, endsOperand l.token = true → Yields (operandAt n) (tokens ++ l :: rest) e (l :: rest)

/-- Tokens are an operand without operators, which `~` may join to another one. -/
def ReadsTerm (n : Nat) (tokens : List Lexeme) (e : Expr) : Prop :=
  (∃ l t, tokens = l :: t ∧ startsOperand l.token = true) ∧
    ∀ named l rest, endsTerm l.token = true →
      Yields (unary (nestedAt n).1 named (nestedAt n).2) (tokens ++ l :: rest) e (l :: rest)

/-- Tokens are an expression, where expressions nest `n` levels deep. -/
def Reads (n : Nat) (tokens : List Lexeme) (e : Expr) : Prop :=
  IsArgument (withConditions (operandAt n)) (tokens, e)

theorem ReadsTerm.readsOperand {n : Nat} {tokens : List Lexeme} (h : ReadsTerm n tokens e) :
    ReadsOperand n tokens e := by
  obtain ⟨⟨l₁, t₁, rfl, h₁⟩, hread⟩ := h
  refine ⟨⟨l₁, t₁, rfl, h₁⟩, ?_⟩
  intro l rest hl
  rw [operandAt_eq]
  exact Yields.operandOf (fun named => hread named l rest (endsTerm_of_endsOperand hl)) h₁ hl

theorem ReadsOperand.reads {n : Nat} {tokens : List Lexeme} (h : ReadsOperand n tokens e) :
    Reads n tokens e := by
  obtain ⟨⟨l₁, t₁, rfl, h₁⟩, hread⟩ := h
  refine ⟨⟨l₁, t₁, rfl, h₁⟩, ?_⟩
  intro l rest hl
  refine Yields.withConditions (hread l rest (endsOperand_of_endsExpression hl)) ?_
  rcases endsExpression_cases hl with h | h | h | h | h <;> rw [h] <;> decide

/-- A primary is a term. -/
theorem readsTerm_primary {n : Nat} {l₀ : Lexeme} {t₀ : List Lexeme}
    (h₀ : startsOperand l₀.token = true)
    (h : ∀ expr l rest, endsTerm l.token = true →
      Yields (primary expr) (l₀ :: t₀ ++ l :: rest) e (l :: rest)) :
    ReadsTerm (n + 1) (l₀ :: t₀) e := by
  obtain ⟨expr, hprim⟩ := nestedAt_succ_snd n
  refine ⟨⟨l₀, t₀, rfl, h₀⟩, fun named l rest hl => ?_⟩
  rw [hprim]
  exact Yields.unary_primary (h expr l rest hl) h₀ hl

theorem readsTerm_string (n : Nat) (v : Text) (line : Nat) :
    ReadsTerm (n + 1) [⟨.string v, line⟩] (.const (.string v) line) :=
  readsTerm_primary rfl fun _ _ _ hl => yields_primary_string v line hl

theorem readsTerm_var (n : Nat) {x : Text} (h : constant? x = none)
    (hnot : x ≠ Keyword.kNot.text) (line : Nat) :
    ReadsTerm (n + 1) [⟨.ident x, line⟩] (.var x line) :=
  readsTerm_primary (by simpa [startsOperand] using hnot) fun _ _ _ _ => yields_primary_var h line

theorem readsTerm_constant (n : Nat) {x : Text} {value : Literal} (h : constant? x = some value)
    (hnot : x ≠ Keyword.kNot.text) (line : Nat) :
    ReadsTerm (n + 1) [⟨.ident x, line⟩] (.const value line) :=
  readsTerm_primary (by simpa [startsOperand] using hnot) fun _ _ _ _ =>
    yields_primary_constant h line

/-- An expression in parentheses. -/
theorem readsTerm_group {n : Nat} {tokens : List Lexeme} (h : Reads n tokens e) (line : Nat) :
    ReadsTerm (n + 2)
      (⟨.symbol .openParen, line⟩ :: tokens ++ [⟨.symbol .closeParen, line⟩]) e := by
  obtain ⟨⟨l₁, t₁, htokens, h₁⟩, hread⟩ := h
  simp only at htokens
  subst htokens
  refine ⟨⟨_, _, rfl, rfl⟩, ?_⟩
  intro named l rest hl
  have hinner := hread ⟨.symbol .closeParen, line⟩ (l :: rest) rfl
  rw [List.append_assoc, List.cons_append, List.singleton_append]
  exact Yields.unary_primary (yields_primary_group hinner h₁) rfl hl

theorem readsOperand_string (n : Nat) (v : Text) (line : Nat) :
    ReadsOperand (n + 1) [⟨.string v, line⟩] (.const (.string v) line) :=
  (readsTerm_string n v line).readsOperand

/-- A call of a variable. -/
theorem readsOperand_call {n : Nat} {f : Text} (hf : constant? f = none)
    (hnot : f ≠ Keyword.kNot.text) {args : List (List Lexeme × Expr)}
    (hargs : ∀ arg ∈ args, Reads n arg.1 arg.2) (hlen : args.length ≤ 2000) (line : Nat) :
    ReadsOperand (n + 1)
      (⟨.ident f, line⟩ :: ⟨.symbol .openParen, line⟩ ::
        (argumentTokens line (args.map Prod.fst) ++ [⟨.symbol .closeParen, line⟩]))
      (.call (.var f line) (positionals args)) := by
  have hstart : startsOperand (.ident f) = true := by simpa [startsOperand] using hnot
  obtain ⟨expr, hprim⟩ := nestedAt_succ_snd n
  refine ⟨⟨_, _, rfl, hstart⟩, ?_⟩
  intro l rest hl
  rw [List.cons_append, List.cons_append, List.append_assoc, List.singleton_append, operandAt_eq,
    nestedAt_succ_fst, hprim]
  refine Yields.operandOf (fun named => ?_) hstart hl
  refine (Yields.signed (yields_primary_var hf line) hstart).bind ?_
  refine (yields_postfixes_call line hargs hlen _ hl).bind ?_
  exact yields_filters_stop (endsTerm_of_endsOperand hl)

/-- The test of an item of a variable: `x["key"] is name`. -/
theorem yields_itemTest {n : Nat} {x name : Text} (hx : constant? x = none)
    (hnot : x ≠ Keyword.kNot.text) (key : Text) (hname : name ≠ Keyword.kNot.text) (line : Nat)
    (hl : endsExpression l.token = true) :
    Yields (operandAt (n + 3))
      (⟨.ident x, line⟩ :: ⟨.symbol .openBracket, line⟩ :: ⟨.string key, line⟩ ::
        ⟨.symbol .closeBracket, line⟩ :: ⟨Keyword.kIs.token, line⟩ :: ⟨.ident name, line⟩ ::
        l :: rest)
      (.test name (.item (.var x line) (.const (.string key) line)) []) (l :: rest) := by
  have hstart : startsOperand (.ident x) = true := by simpa [startsOperand] using hnot
  have hkey := (readsOperand_string (n + 1) key line).reads
  refine Yields.operandOf (fun named => ?_) hstart (endsOperand_of_endsExpression hl)
  refine (Yields.signed (yields_primary_var hx line) hstart).bind ?_
  exact (yields_postfixes_item _ hkey rfl).bind (yields_test _ hname hl)

/-- A conditional expression without `else`. -/
theorem reads_if {n : Nat} {tokens test : List Lexeme} {yes condition : Expr}
    (hyes : ReadsOperand n tokens yes)
    (htest : ∀ l rest, endsExpression l.token = true →
      Yields (operandAt n) (test ++ l :: rest) condition (l :: rest)) (line : Nat) :
    Reads n (tokens ++ ⟨Keyword.kIf.token, line⟩ :: test) (.ifElse condition yes none) := by
  obtain ⟨⟨l₁, t₁, rfl, h₁⟩, hread⟩ := hyes
  refine ⟨⟨l₁, _, rfl, h₁⟩, ?_⟩
  intro l rest hl
  have hne : l.token ≠ Keyword.kElse.token ∧ l.token ≠ Keyword.kIf.token := by
    rcases endsExpression_cases hl with h | h | h | h | h <;> rw [h] <;> decide
  have hfirst := hread ⟨Keyword.kIf.token, line⟩ (test ++ l :: rest) rfl
  simp only [List.append_assoc, List.cons_append] at hfirst ⊢
  refine (yields_remaining _).bind (hfirst.bind ?_)
  refine Yields.iterate_once ?_ ?_ ?_
  · refine Yields.bind (yields_skip _ _ _) ?_
    refine (htest l rest hl).bind ?_
    refine Yields.bind (yields_skip_ne hne.1 _) ?_
    exact Yields.bind (.pure none _) (.pure _ _)
  · simp only [List.length_cons, List.length_append]
    omega
  · exact Yields.bind (yields_skip_ne hne.2 _) (.pure _ _)

/-! ## Bodies -/

/-- One step of reading a body. -/
def bodyStep (statement : Parser Stmt) (n : Nat) (isEnd : Token → Bool)
    (state : List Stmt × Bool) : Parser (Option (List Stmt × Bool)) := do
  if state.2 then return none
  match ← take with
  | none => return some (state.1, true)
  | some ⟨.data text, _⟩ => return some (state.1 ++ [Stmt.data text], false)
  | some ⟨.expressionStart, _⟩ =>
    let e ← expression n
    expect .expressionEnd
    return some (state.1 ++ [Stmt.emit e], false)
  | some ⟨.statementStart, _⟩ =>
    match ← peek with
    | none => fail
    | some t =>
      if isEnd t then return some (state.1, true)
      else
        let s ← statement
        expect .statementEnd
        return some (state.1 ++ [s], false)
  | some _ => fail

/-- The loop over a body, where statements nest `n` levels deep, reads `body` off the start
of `tokens` within as many rounds as it has tokens, and leaves `rest`; `good` says whether
it may have come to the end of the body. -/
def LoopReads (n : Nat) (isEnd : Token → Bool) (good : Bool → Prop) (tokens : List Lexeme)
    (body : List Stmt) (rest : List Lexeme) : Prop :=
  ∀ (done : List Stmt) (k : Nat), tokens.length ≤ k → ∃ closed, good closed ∧
    Yields (repeatUpTo (bodyStep (statement n) n isEnd) k (done, false)) tokens
      (done ++ body, closed) rest

section

variable {n : Nat} {isEnd : Token → Bool} {good : Bool → Prop} {tokens tokens' rest : List Lexeme}
  {body : List Stmt}

/-- One statement is read in one round. -/
theorem LoopReads.step {s : Stmt}
    (hstep : ∀ done, Yields (bodyStep (statement n) n isEnd (done, false)) tokens
      (some (done ++ [s], false)) tokens')
    (hlen : tokens'.length < tokens.length) (h : LoopReads n isEnd good tokens' body rest) :
    LoopReads n isEnd good tokens (s :: body) rest := by
  intro done k hk
  obtain ⟨k, rfl⟩ : ∃ m, k = m + 1 := ⟨k - 1, by omega⟩
  obtain ⟨closed, hgood, hrest⟩ := h (done ++ [s]) k (by omega)
  rw [List.append_assoc, List.singleton_append] at hrest
  exact ⟨closed, hgood, Yields.repeat_step (hstep done) hrest⟩

/-- The loop stops where the tokens end. -/
theorem LoopReads.nil : LoopReads n isEnd (fun _ => True) [] [] [] := by
  intro done k _
  rw [List.append_nil]
  cases k with
  | zero => exact ⟨false, trivial, .pure _ _⟩
  | succ k =>
    refine ⟨true, trivial, Yields.repeat_step (yields_take_nil.bind (.pure _ _)) ?_⟩
    cases k with
    | zero => exact .pure _ _
    | succ k => exact Yields.repeat_stop (.pure _ _)

/-- The loop stops at a statement block that ends the body. -/
theorem LoopReads.stop {t : Token} (ht : isEnd t = true) (line line' : Nat) :
    LoopReads n isEnd (· = true) (⟨.statementStart, line⟩ :: ⟨t, line'⟩ :: rest) []
      (⟨t, line'⟩ :: rest) := by
  intro done k hk
  simp only [List.length_cons] at hk
  obtain ⟨k, rfl⟩ : ∃ m, k = m + 1 + 1 := ⟨k - 2, by omega⟩
  rw [List.append_nil]
  refine ⟨true, rfl, Yields.repeat_step ?_ (Yields.repeat_stop (.pure _ _))⟩
  refine (yields_take _ _).bind ((yields_peek _ _).bind ?_)
  simp only [ht, if_true]
  exact .pure _ _

end

/-- Tokens are statements of a body, where statements nest `n` levels deep: the loop over
the body reads them and goes on behind them. -/
def Items (n : Nat) (tokens : List Lexeme) (body : List Stmt) : Prop :=
  ∀ isEnd good rest more rest', isEnd Keyword.kIf.token = false →
    LoopReads n isEnd good rest more rest' →
    LoopReads n isEnd good (tokens ++ rest) (body ++ more) rest'

section

variable {n : Nat} {tokens : List Lexeme} {body : List Stmt}

theorem Items.nil : Items n [] [] := fun _ _ _ _ _ _ h => h

theorem Items.data {text : Text} {line : Nat} (h : Items n tokens body) :
    Items n (⟨.data text, line⟩ :: tokens) (.data text :: body) := by
  intro isEnd good rest more rest' hif hrest
  exact (h _ _ _ _ _ hif hrest).step (fun done => (yields_take _ _).bind (.pure _ _)) (by simp)

theorem Items.emit {code : List Lexeme} {line line' : Nat} {e : Expr}
    (hcode : ∀ rest, Yields (expression n) (code ++ ⟨.expressionEnd, line'⟩ :: rest) e
      (⟨.expressionEnd, line'⟩ :: rest))
    (h : Items n tokens body) :
    Items n (⟨.expressionStart, line⟩ :: (code ++ ⟨.expressionEnd, line'⟩ :: tokens))
      (.emit e :: body) := by
  intro isEnd good rest more rest' hif hrest
  simp only [List.cons_append, List.append_assoc]
  refine (h _ _ _ _ _ hif hrest).step (fun done => (yields_take _ _).bind ((hcode _).bind ?_)) ?_
  · exact (yields_expect _ _ _).bind (.pure _ _)
  · simp only [List.length_cons, List.length_append]
    omega

/-- A body up to a block that ends it. -/
theorem Items.yields_bodyUpTo (h : Items n tokens body) {k : Keyword} {ends : List Keyword}
    (hk : k ∈ ends) (hif : (ends.any fun k => Keyword.kIf.token = k.token) = false)
    (line line' : Nat) (rest : List Lexeme) :
    Yields (bodyUpTo (statement n) n ends)
      (tokens ++ ⟨.statementStart, line⟩ :: ⟨k.token, line'⟩ :: rest) body
      (⟨k.token, line'⟩ :: rest) := by
  have hend : (ends.any fun k' => k.token = k'.token) = true :=
    List.any_eq_true.2 ⟨k, hk, by simp⟩
  obtain ⟨closed, rfl, hloop⟩ := h (fun t => ends.any fun k => t = k.token) _ _ _ _ hif
    (.stop hend line line') [] _ (Nat.le_refl _)
  rw [List.append_nil] at hloop
  exact Yields.bind ((yields_remaining _).bind hloop) (.pure _ _)

/-- The statement of a condition with two bodies, behind the start of its first block. -/
theorem Items.yields_if {test yesTokens noTokens : List Lexeme} {line l m : Nat}
    {condition : Expr} {yes no : List Stmt}
    (htest : ∀ rest, Yields (operandAt n) (test ++ ⟨.statementEnd, line⟩ :: rest) condition
      (⟨.statementEnd, line⟩ :: rest))
    (hyes : Items n yesTokens yes) (hno : Items n noTokens no) (rest : List Lexeme) :
    Yields (statement (n + 1))
      (⟨Keyword.kIf.token, line⟩ :: (test ++ ⟨.statementEnd, line⟩ ::
        (yesTokens ++ ⟨.statementStart, l⟩ :: ⟨Keyword.kElse.token, l⟩ ::
          ⟨.statementEnd, l⟩ :: (noTokens ++ ⟨.statementStart, m⟩ ::
            ⟨Keyword.kEndif.token, m⟩ :: rest))))
      (.ifElse condition yes no) rest := by
  refine (yields_expectIdent _ _ _).bind ((yields_remaining _).bind ?_)
  refine (htest _).bind ((yields_expect _ _ _).bind ?_)
  refine (hyes.yields_bodyUpTo (k := .kElse) (by simp) (by decide) _ _ _).bind ?_
  refine (yields_take _ _).bind ?_
  simp only [if_true]
  refine Yields.bind (a := no) ?_ (.pure _ _)
  refine (yields_expect _ _ _).bind ?_
  refine (hno.yields_bodyUpTo (k := .kEndif) (by simp) (by decide) _ _ _).bind ?_
  exact (yields_take _ _).bind (.pure _ _)

/-- A condition with two bodies. -/
theorem Items.ifElse {test yesTokens noTokens : List Lexeme} {line l m : Nat}
    {condition : Expr} {yes no : List Stmt}
    (htest : ∀ rest, Yields (operandAt n) (test ++ ⟨.statementEnd, line⟩ :: rest) condition
      (⟨.statementEnd, line⟩ :: rest))
    (hyes : Items n yesTokens yes) (hno : Items n noTokens no) (h : Items (n + 1) tokens body) :
    Items (n + 1)
      (⟨.statementStart, line⟩ :: ⟨Keyword.kIf.token, line⟩ :: (test ++ ⟨.statementEnd, line⟩ ::
        (yesTokens ++ ⟨.statementStart, l⟩ :: ⟨Keyword.kElse.token, l⟩ ::
          ⟨.statementEnd, l⟩ :: (noTokens ++ ⟨.statementStart, m⟩ ::
            ⟨Keyword.kEndif.token, m⟩ :: ⟨.statementEnd, m⟩ :: tokens))))
      (.ifElse condition yes no :: body) := by
  intro isEnd good rest more rest' hif hrest
  simp only [List.cons_append, List.append_assoc]
  refine (h _ _ _ _ _ hif hrest).step (fun done => ?_) ?_
  · refine (yields_take _ _).bind ((yields_peek _ _).bind ?_)
    simp only [hif, Bool.false_eq_true, if_false]
    exact (Items.yields_if htest hyes hno _).bind ((yields_expect _ _ _).bind (.pure _ _))
  · simp only [List.length_cons, List.length_append]
    omega

/-- **A template of items parses to their statements.** -/
theorem parseLexemes_items (h : Items nestingLimit tokens body) :
    parseLexemes template tokens none = .ok body := by
  have hread : Yields template tokens body [] := by
    have hall := h (fun _ => false) _ _ _ _ rfl .nil
    rw [List.append_nil, List.append_nil] at hall
    obtain ⟨closed, -, hloop⟩ := hall [] tokens.length (Nat.le_refl _)
    refine Yields.bind ((yields_remaining _).bind hloop) ?_
    cases closed with
    | true => exact .pure _ _
    | false => exact yields_take_nil.bind (.pure _ _)
  obtain ⟨last, hrun⟩ := hread ⟨tokens, 0, none, [], false⟩ rfl rfl
  unfold parseLexemes
  have hrun' : template.run ⟨tokens, 0, none, [], false⟩ = _ := hrun
  rw [hrun']
  rfl

end

end Parser

end Componentry.Template
