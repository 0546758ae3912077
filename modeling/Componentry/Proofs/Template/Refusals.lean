import Componentry.Proofs.Template.Code

/-! # Code that is refused

A call has at most 2000 arguments, and expressions nest on a limited number of levels.
`Parser.Fails p tokens` says that a parser fails on `tokens`, from whatever state it is
in: it does if its first part does (`Fails.bind`), or if a later part does on what the
parts before it leave (`Yields.fails`).  So a failure in an argument passes up through
all levels of operators to the expression that the call stands in.

`Refused line n w` says of code that its tokens are no operand on `n` levels, whatever
follows them.  A call is refused that has too many arguments, or one that is refused
(`Refused.call`), so is what is refused in parentheses (`Refused.group`), and all code
if there are no levels at all (`Code.refused_zero`).  A template that writes out such
code does not parse (`Refused.parse`).
-/
namespace Componentry.Template

namespace Parser

variable {α β : Type}

/-- A parser fails on `tokens`. -/
def Fails (p : Parser α) (tokens : List Lexeme) : Prop :=
  ∀ s : ParseState, s.rest = tokens → s.fault = none → ∃ fault, p s = .error fault

/-! ## Composition -/

theorem fails_fail (tokens : List Lexeme) : Fails (fail : Parser α) tokens :=
  fun _ _ _ => ⟨_, rfl⟩

theorem Fails.bind {p : Parser α} {t : List Lexeme} (h : Fails p t) (f : α → Parser β) :
    Fails (p >>= f) t := by
  intro s hs hfault
  obtain ⟨fault, hrun⟩ := h s hs hfault
  refine ⟨fault, ?_⟩
  have hbind : (p >>= f) s = (p s >>= fun (a, s') => f a s') := rfl
  rw [hbind, hrun]
  rfl

theorem Yields.fails {p : Parser α} {f : α → Parser β} {t t' : List Lexeme} {a : α}
    (hp : Yields p t a t') (hf : Fails (f a) t') : Fails (p >>= f) t := by
  intro s hs hfault
  obtain ⟨last, hrun⟩ := hp s hs hfault
  obtain ⟨fault, hrun'⟩ := hf { s with rest := t', last := last } rfl hfault
  refine ⟨fault, ?_⟩
  have hbind : (p >>= f) s = (p s >>= fun (a, s') => f a s') := rfl
  rw [hbind, hrun]
  exact hrun'

theorem Fails.lastLine_bind {f : Nat → Parser β} {t : List Lexeme} (h : ∀ n, Fails (f n) t) :
    Fails (lastLine >>= f) t := fun s hs hfault => h s.last s hs hfault

/-- A loop whose first step fails. -/
theorem Fails.iterate {step : α → Parser (Option α)} {a : α} {l : Lexeme} {rest : List Lexeme}
    (h : Fails (step a) (l :: rest)) : Fails (iterate step a) (l :: rest) :=
  (yields_remaining _).fails (h.bind _)

/-! ## Operators -/

variable {expr named prim : Parser Expr} {l₀ l : Lexeme} {t₀ rest : List Lexeme}

theorem Fails.leftChain {operator? : Token → Option BinaryOp} {operand : Parser Expr}
    (h : Fails operand (l₀ :: t₀)) : Fails (leftChain operator? operand) (l₀ :: t₀) :=
  (yields_nextLine l₀ t₀).fails (h.bind _)

/-- A failure of an operand passes through all levels of operators. -/
theorem Fails.disjunction (h : Fails (unary expr named prim) (l₀ :: t₀))
    (h₀ : startsOperand l₀.token = true) : Fails (disjunction expr named prim) (l₀ :: t₀) := by
  have harith : Fails (arithmetic expr named prim) (l₀ :: t₀) :=
    h.leftChain.leftChain.leftChain.leftChain
  have hcomparison : Fails (comparison (arithmetic expr named prim)) (l₀ :: t₀) :=
    Fails.lastLine_bind fun _ => harith.bind _
  have hnegation : Fails (negation (comparison (arithmetic expr named prim))) (l₀ :: t₀) :=
    Yields.fails (Yields.iterate_of_skip rfl (startsOperand_ne h₀).1 rfl) (hcomparison.bind _)
  exact hnegation.leftChain.leftChain

theorem Fails.operandOf (h : ∀ named, Fails (unary expr named prim) (l₀ :: t₀))
    (h₀ : startsOperand l₀.token = true) : Fails (operandOf expr prim) (l₀ :: t₀) :=
  (yields_remaining _).fails (Fails.disjunction (h _) h₀)

theorem Fails.withConditions {operand : Parser Expr} (h : Fails operand (l₀ :: t₀)) :
    Fails (withConditions operand) (l₀ :: t₀) := (yields_remaining _).fails (h.bind _)

/-! ## Arguments -/

/-- An argument that cannot be read. -/
theorem Fails.argument (h : Fails expr (l₀ :: t₀)) (h₀ : startsOperand l₀.token = true)
    (before : List (ArgumentKind × Expr)) : Fails (argument expr named before) (l₀ :: t₀) := by
  have hne := startsOperand_ne h₀
  refine Yields.fails (yields_skip_ne hne.2.2.2.2.2.1 _) ?_
  refine Yields.fails (yields_skip_ne hne.2.2.2.2.2.2 _) ?_
  exact h.bind _

/-- An argument that is one too many. -/
theorem fails_counted {arg : List Lexeme × Expr} (harg : IsArgument expr arg)
    {done : List (List Lexeme × Expr)} (hcount : 2000 ≤ done.length)
    (hl : endsExpression l.token = true) :
    Fails (countedArgument expr named (positionals done)) (arg.1 ++ l :: rest) := by
  refine (yields_argument harg (positionals_all done) hl).fails ?_
  rw [if_pos (by rwa [positionals, List.length_map])]
  exact fails_fail _

/-- The step to an argument that is not taken. -/
theorem fails_argumentStep {before : List (ArgumentKind × Expr)} (hbefore : before.isEmpty = false)
    (h₀ : startsOperand l₀.token = true)
    (h : Fails (countedArgument expr named before) (l₀ :: t₀)) (line : Nat) :
    Fails (argumentStep expr named (before, false)) (⟨.symbol .comma, line⟩ :: l₀ :: t₀) := by
  simp only [argumentStep, hbefore]
  refine Yields.fails (yields_skip_ne (by simp) _) ?_
  refine Yields.fails (yields_expect _ _ _) ?_
  refine Yields.fails (yields_skip_ne (startsOperand_ne h₀).2.2.1 _) ?_
  exact h.bind _

/-- The rest of a list of arguments up to one that is not taken. -/
theorem fails_moreArguments (line : Nat) (h₀ : startsOperand l₀.token = true)
    (more : List (List Lexeme × Expr)) :
    ∀ (done : List (List Lexeme × Expr)) (n : Nat), done ≠ [] →
      (∀ arg ∈ more, IsArgument expr arg) → done.length + more.length ≤ 2000 → more.length < n →
      Fails (countedArgument expr named (positionals (done ++ more))) (l₀ :: t₀) →
      Fails (repeatUpTo (argumentStep expr named) n (positionals done, false))
        (moreArguments line (more.map Prod.fst) ++ ⟨.symbol .comma, line⟩ :: l₀ :: t₀) := by
  induction more with
  | nil =>
    intro done n hdone _ _ hn hlast
    obtain ⟨n, rfl⟩ : ∃ m, n = m + 1 := ⟨n - 1, by simp at hn; omega⟩
    rw [List.append_nil] at hlast
    exact (fails_argumentStep (positionals_isEmpty hdone) h₀ hlast line).bind _
  | cons arg more ih =>
    intro done n hdone hargs hlen hn hlast
    simp only [List.length_cons] at hlen hn
    obtain ⟨n, rfl⟩ : ∃ m, n = m + 1 := ⟨n - 1, by omega⟩
    have hih := ih (done ++ [arg]) n (by simp) (fun a ha => hargs a (by simp [ha]))
      (by simp only [List.length_append, List.length_cons, List.length_nil]; omega) (by omega)
      (by rwa [List.append_assoc, List.singleton_append])
    obtain ⟨l, rest, hrest, hl⟩ := exists_endsExpression line (more.map Prod.fst)
      ⟨.symbol .comma, line⟩ rfl (l₀ :: t₀)
    rw [List.map_cons, moreArguments_cons, List.cons_append, List.append_assoc, hrest]
    rw [hrest] at hih
    exact (yields_argumentStep (hargs arg (by simp)) hdone (by omega) line hl).fails hih

/-- **A list of arguments fails at the one that is not taken.** -/
theorem fails_arguments (line : Nat) {args : List (List Lexeme × Expr)}
    (hread : ∀ arg ∈ args, IsArgument expr arg) (hlen : args.length ≤ 2000)
    (h₀ : startsOperand l₀.token = true)
    (h : Fails (countedArgument expr named (positionals args)) (l₀ :: t₀)) :
    Fails (arguments expr named) (⟨.symbol .openParen, line⟩ ::
      argumentTokens line (args.map Prod.fst ++ [l₀ :: t₀])) := by
  refine (yields_expect _ _ _).fails ?_
  cases args with
  | nil =>
    rw [List.map_nil, List.nil_append, argumentTokens, moreArguments, List.flatMap_nil,
      List.append_nil]
    refine Fails.bind (Fails.iterate ?_) _
    exact Yields.fails (yields_skip_ne (startsOperand_ne h₀).2.2.1 _) (h.bind _)
  | cons arg more =>
    have hform : argumentTokens line ((arg :: more).map Prod.fst ++ [l₀ :: t₀]) =
        arg.1 ++ (moreArguments line (more.map Prod.fst) ++ ⟨.symbol .comma, line⟩ :: l₀ :: t₀) := by
      simp [argumentTokens, moreArguments]
    rw [List.forall_mem_cons] at hread
    simp only [List.length_cons] at hlen
    suffices hloop : ∀ n, more.length + 1 < n →
        Fails (repeatUpTo (argumentStep expr named) n ([], false))
          (argumentTokens line ((arg :: more).map Prod.fst ++ [l₀ :: t₀])) by
      refine Fails.bind ((yields_remaining _).fails (hloop _ ?_)) _
      have hmore := length_moreArguments line (more.map Prod.fst)
      rw [hform]
      simp only [List.length_append, List.length_cons, List.length_map] at *
      omega
    intro n hn
    obtain ⟨n, rfl⟩ : ∃ m, n = m + 1 := ⟨n - 1, by omega⟩
    have hmore := fails_moreArguments line h₀ more [arg] n (by simp) hread.2
      (by simp only [List.length_cons, List.length_nil]; omega) (by omega) h
    obtain ⟨l, rest, hrest, hl⟩ := exists_endsExpression line (more.map Prod.fst)
      ⟨.symbol .comma, line⟩ rfl (l₀ :: t₀)
    rw [hform, hrest]
    rw [hrest] at hmore
    exact (yields_argumentStep_first hread.1 hl).fails hmore

/-- A call of a variable whose arguments fail. -/
theorem fails_call {n : Nat} {f : Text} (hf : constant? f = none) (hnot : f ≠ Keyword.kNot.text)
    (line : Nat)
    (h : ∀ named, Fails (arguments (withConditions (operandAt n)) named)
      (⟨.symbol .openParen, line⟩ :: t₀)) :
    Fails (operandAt (n + 1)) (⟨.ident f, line⟩ :: ⟨.symbol .openParen, line⟩ :: t₀) := by
  have hstart : startsOperand (.ident f) = true := by simpa [startsOperand] using hnot
  obtain ⟨expr, hprim⟩ := nestedAt_succ_snd n
  rw [operandAt_eq, nestedAt_succ_fst, hprim]
  refine Fails.operandOf (fun named => ?_) hstart
  refine (Yields.signed (yields_primary_var hf line) hstart).fails (Fails.bind ?_ _)
  refine Fails.iterate ?_
  refine (yields_peek _ _).fails ?_
  exact (h named).bind _

/-! ## Templates -/

/-- A template whose first expression fails does not parse. -/
theorem parseLexemes_fails {tokens : List Lexeme} {line : Nat}
    (h : Fails (expression nestingLimit) tokens) :
    ∃ fault, parseLexemes template (⟨.expressionStart, line⟩ :: tokens) none = .error fault := by
  have hbody : Fails template (⟨.expressionStart, line⟩ :: tokens) := by
    refine Fails.bind (Fails.iterate ?_) _
    exact (yields_take _ _).fails (h.bind _)
  obtain ⟨fault, hrun⟩ := hbody ⟨_, 0, none, [], false⟩ rfl rfl
  unfold parseLexemes
  have hrun' : template.run ⟨⟨.expressionStart, line⟩ :: tokens, 0, none, [], false⟩ = _ := hrun
  rw [hrun']
  exact ⟨_, rfl⟩

end Parser

open Template.Parser

/-! ## Code -/

theorem Parser.Reads.startsOperand {line n : Nat} {tokens : List Token} {e : Expr}
    (h : Reads n (tokens.map (⟨·, line⟩)) e) :
    ∃ t more, tokens = t :: more ∧ Parser.startsOperand t = true := by
  obtain ⟨⟨l₀, t₀, htokens, h₀⟩, -⟩ := h
  cases tokens with
  | nil => cases htokens
  | cons t more =>
    cases htokens
    exact ⟨t, more, rfl, h₀⟩

/-- The code `w` is no operand on a line, whatever follows it, though it starts like
one and closes all brackets that it opens. -/
def Refused (line n : Nat) (w : Text) : Prop :=
  ∃ tokens, Lexes w tokens ∧ (tokens.map Token.opens).sum = 0 ∧
    (∃ t more, tokens = t :: more ∧ startsOperand t = true) ∧
    ∀ rest, Fails (operandAt n) (tokens.map (⟨·, line⟩) ++ rest)

variable {line n : Nat} {f v w : Text} {e : Expr}

/-- What stands behind an argument, up to the end of its call. -/
theorem argumentTokens_split (line : Nat) (done more : List (List Lexeme)) (arg rest : List Lexeme) :
    argumentTokens line (done ++ arg :: more) ++ rest =
      argumentTokens line (done ++ [arg ++ (moreArguments line more ++ rest)]) := by
  cases done with
  | nil => simp [argumentTokens, moreArguments]
  | cons first done => simp [argumentTokens, moreArguments]

/-- A call is refused at an argument that is not taken, behind others that are read. -/
theorem Refused.of_argument (hf : isIdentifier f = true) (hconst : constant? f = none)
    (hnot : f ≠ Keyword.kNot.text) {done more : List (Text × List Token × Expr)}
    {r : Text × List Token × Expr}
    (hlex : ∀ r' ∈ done ++ r :: more, Lexes r'.1 r'.2.1 ∧ (r'.2.1.map Token.opens).sum = 0)
    (hdone : ∀ d ∈ done, Reads n (d.2.1.map (⟨·, line⟩)) d.2.2) (hlen : done.length ≤ 2000)
    (hstart : ∃ t more, r.2.1 = t :: more ∧ startsOperand t = true)
    (hfails : ∀ named l rest, endsExpression l.token = true →
      Fails (countedArgument (withConditions (operandAt n)) named
        (positionals (done.map fun d => (d.2.1.map (⟨·, line⟩), d.2.2))))
        (r.2.1.map (⟨·, line⟩) ++ l :: rest)) :
    Refused line (n + 1) (Props.call f ((done ++ r :: more).map Prod.fst)) := by
  obtain ⟨hcall, hbalance⟩ := IsSeparator.comma.lexes_read hlex
  have hident : startsOperand (.ident f) = true := by simpa [startsOperand] using hnot
  refine ⟨_, lexes_call hf hcall, opens_call hbalance f, ⟨_, _, rfl, hident⟩, ?_⟩
  intro rest
  obtain ⟨t₀, more₀, htokens, h₀⟩ := hstart
  let readings : List (List Lexeme × Expr) := done.map fun d => (d.2.1.map (⟨·, line⟩), d.2.2)
  have hreadings : ∀ reading ∈ readings,
      IsArgument (withConditions (operandAt n)) reading := by
    intro reading hreading
    obtain ⟨d, hd, rfl⟩ := List.mem_map.1 hreading
    exact hdone d hd
  obtain ⟨l, rest', hrest, hl⟩ := exists_endsExpression line
    (more.map fun r => r.2.1.map (⟨·, line⟩)) ⟨.symbol .closeParen, line⟩ rfl rest
  -- The tokens of the call up to the argument, and behind it.
  have hform : (Token.ident f :: .symbol .openParen ::
      (joinTokens (.symbol .comma) ((done ++ r :: more).map fun r => r.2.1) ++
        [.symbol .closeParen])).map (⟨·, line⟩) ++ rest =
      ⟨.ident f, line⟩ :: ⟨.symbol .openParen, line⟩ ::
        argumentTokens line (readings.map Prod.fst ++
          [r.2.1.map (⟨·, line⟩) ++ l :: rest']) := by
    have hsplit := argumentTokens_split line (done.map fun r => r.2.1.map (⟨·, line⟩))
      (more.map fun r => r.2.1.map (⟨·, line⟩)) (r.2.1.map (⟨·, line⟩))
      (⟨.symbol .closeParen, line⟩ :: rest)
    have hjoined := argumentTokens_joinTokens line ((done ++ r :: more).map fun r => r.2.1)
    rw [hrest] at hsplit
    simp only [List.map_append, List.map_cons, List.map_map, List.map_nil, Function.comp_def,
      readings, List.append_assoc, List.cons_append, List.nil_append] at hsplit hjoined ⊢
    rw [← hjoined, hsplit]
  have hlast := fun named => hfails named l rest' hl
  rw [hform]
  rw [htokens, List.map_cons, List.cons_append] at hlast ⊢
  refine fails_call hconst hnot line fun named => ?_
  exact fails_arguments line hreadings (by simpa [readings] using hlen) h₀ (hlast named)

/-- Tokens of code that is read, unless it is refused. -/
theorem exists_tokens_refused (h : Code line n w e ∨ Refused line n w) :
    ∃ tokens, Lexes w tokens ∧ (tokens.map Token.opens).sum = 0 ∧
      (∃ t more, tokens = t :: more ∧ startsOperand t = true) ∧
      (¬ Refused line n w → Reads n (tokens.map (⟨·, line⟩)) e) ∧
      (Refused line n w → ∀ rest, Fails (operandAt n) (tokens.map (⟨·, line⟩) ++ rest)) := by
  by_cases hrefused : Refused line n w
  · obtain ⟨tokens, hlex, hbalance, hstart, hfails⟩ := id hrefused
    exact ⟨tokens, hlex, hbalance, hstart, fun h => absurd hrefused h, fun _ => hfails⟩
  · obtain ⟨tokens, hlex, hbalance, hread⟩ := h.resolve_right hrefused
    exact ⟨tokens, hlex, hbalance, hread.startsOperand, fun _ => hread, fun h => absurd h hrefused⟩

/-- The first element with a property, or the one behind `k` others. -/
theorem exists_first {α : Type} (p : α → Prop) {l : List α} {k : Nat}
    (h : k < l.length ∨ ∃ a ∈ l, p a) :
    ∃ before a after, l = before ++ a :: after ∧ before.length ≤ k ∧ (∀ b ∈ before, ¬ p b) ∧
      (p a ∨ before.length = k) := by
  induction l generalizing k with
  | nil => simp at h
  | cons a l ih =>
    by_cases ha : p a
    · exact ⟨[], a, l, rfl, Nat.zero_le _, by simp, Or.inl ha⟩
    · cases k with
      | zero => exact ⟨[], a, l, rfl, Nat.le_refl _, by simp, Or.inr rfl⟩
      | succ k =>
        have hmore : k < l.length ∨ ∃ a ∈ l, p a := by
          rcases h with h | ⟨b, hb, hp⟩
          · exact Or.inl (by simpa using h)
          · rcases List.mem_cons.1 hb with rfl | hb
            · exact absurd hp ha
            · exact Or.inr ⟨b, hb, hp⟩
        obtain ⟨before, b, after, rfl, hlen, hbefore, hb⟩ := ih hmore
        refine ⟨a :: before, b, after, rfl, ?_, List.forall_mem_cons.2 ⟨ha, hbefore⟩, ?_⟩
        · simpa using hlen
        · simpa using hb

/-- **A call is refused that has more than 2000 arguments, or one that is refused**, if all
the others are read or refused. -/
theorem Refused.call (hf : isIdentifier f = true) (hconst : constant? f = none)
    (hnot : f ≠ Keyword.kNot.text) {args : List (Text × Expr)}
    (hargs : ∀ arg ∈ args, Code line n arg.1 arg.2 ∨ Refused line n arg.1)
    (h : 2000 < args.length ∨ ∃ arg ∈ args, Refused line n arg.1) :
    Refused line (n + 1) (Props.call f (args.map Prod.fst)) := by
  obtain ⟨read, rfl, hread⟩ := exists_tokens (P := fun w tokens e => Lexes w tokens ∧
    (tokens.map Token.opens).sum = 0 ∧ (∃ t more, tokens = t :: more ∧ startsOperand t = true) ∧
    (¬ Refused line n w → Reads n (tokens.map (⟨·, line⟩)) e) ∧
    (Refused line n w → ∀ rest, Fails (operandAt n) (tokens.map (⟨·, line⟩) ++ rest)))
    fun arg harg => exists_tokens_refused (hargs arg harg)
  have hfirst : 2000 < read.length ∨ ∃ r ∈ read, Refused line n r.1 := by
    rw [List.length_map] at h
    refine h.imp_right ?_
    rintro ⟨arg, harg, hrefused⟩
    obtain ⟨r, hr, rfl⟩ := List.mem_map.1 harg
    exact ⟨r, hr, hrefused⟩
  -- The arguments are read up to the first one that is refused, or up to the limit.
  obtain ⟨done, r, more, rfl, hlen, hdone, hr⟩ := exists_first _ hfirst
  obtain ⟨-, -, hstart, hreads, hfails⟩ := hread r (by simp)
  rw [List.map_map]
  refine Refused.of_argument hf hconst hnot (fun r' hr' => ⟨(hread r' hr').1, (hread r' hr').2.1⟩)
    (fun d hd => (hread d (by simp [hd])).2.2.2.1 (hdone d hd)) hlen hstart ?_
  intro named l rest hl
  by_cases hrefused : Refused line n r.1
  · have hlast := hfails hrefused (l :: rest)
    obtain ⟨t₀, more₀, htokens, h₀⟩ := hstart
    rw [htokens, List.map_cons, List.cons_append] at hlast ⊢
    exact (hlast.withConditions.argument h₀ _).bind _
  · have hcount := hr.resolve_left hrefused
    exact fails_counted (hreads hrefused) (by simp [hcount]) hl

/-- The code of a map with more than 1000 entries is refused. -/
theorem Refused.dict {entries : List (Text × Text × Expr)}
    (h : ∀ e ∈ entries, Code line (n + 1) e.2.1 e.2.2) (hlen : 1000 < entries.length) :
    Refused line (n + 2) (Props.dictSource (entries.map fun e => (e.1, e.2.1))) := by
  have hcount : 2000 < (dictArguments entries line).length := by
    rw [length_dictArguments]
    omega
  rw [dictSource_eq_call entries line]
  exact Refused.call (by decide) (by decide) (by decide)
    (fun arg harg => Or.inl (code_dictArguments h arg harg)) (Or.inl hcount)

/-- A call is refused whose second argument is. -/
theorem Refused.second (hf : isIdentifier f = true) (hconst : constant? f = none)
    (hnot : f ≠ Keyword.kNot.text) (hv : Code line n v e) (hw : Refused line n w) :
    Refused line (n + 1) (Props.call f [v, w]) := by
  have hargs : ∀ arg ∈ [(v, e), (w, e)], Code line n arg.1 arg.2 ∨ Refused line n arg.1 := by
    simp only [List.forall_mem_cons]
    exact ⟨Or.inl hv, Or.inr hw, by simp⟩
  exact Refused.call hf hconst hnot hargs (Or.inr ⟨(w, e), by simp, hw⟩)

/-! ## Levels -/

/-- No level is left for an operand. -/
theorem Refused.of_tokens {tokens : List Token} (hlex : Lexes w tokens)
    (hbalance : (tokens.map Token.opens).sum = 0)
    (hstart : ∃ t more, tokens = t :: more ∧ startsOperand t = true) : Refused line 0 w := by
  obtain ⟨t, more, rfl, h₀⟩ := hstart
  refine ⟨_, hlex, hbalance, ⟨t, more, rfl, h₀⟩, fun rest => ?_⟩
  refine Fails.operandOf (fun named => Fails.bind ?_ _) h₀
  exact Yields.fails (Yields.iterate_of_skip rfl (startsOperand_ne h₀).2.1 rfl)
    ((fails_fail _).bind _)

theorem Code.refused_zero (h : Code line n w e) : Refused line 0 w := by
  obtain ⟨tokens, hlex, hbalance, hread⟩ := h
  exact .of_tokens hlex hbalance hread.startsOperand

theorem Refused.zero (h : Refused line n w) : Refused line 0 w := by
  obtain ⟨tokens, hlex, hbalance, hstart, -⟩ := h
  exact .of_tokens hlex hbalance hstart

theorem Refused.of_succ (h : ∀ n, Refused line (n + 1) w) (n : Nat) : Refused line n w := by
  cases n with
  | zero => exact (h 0).zero
  | succ n => exact h n

theorem Refused.of_group {m : Nat} {inner : Parser Expr}
    (hprim : (nestedAt (m + 1)).2 = primary inner) {tokens : List Token} (hlex : Lexes w tokens)
    (hbalance : (tokens.map Token.opens).sum = 0)
    (hstart : ∃ t more, tokens = t :: more ∧ startsOperand t = true)
    (hfails : ∀ rest, Fails inner (tokens.map (⟨·, line⟩) ++ rest)) :
    Refused line (m + 1) ('(' :: w ++ [')']) := by
  obtain ⟨t, more, rfl, h₀⟩ := hstart
  refine ⟨_, lexes_group hlex, opens_group hbalance, ⟨_, _, rfl, rfl⟩, fun rest => ?_⟩
  have hinner := hfails (⟨.symbol .closeParen, line⟩ :: rest)
  rw [operandAt_eq, hprim]
  rw [List.map_cons, List.cons_append] at hinner
  simp only [List.map_cons, List.map_append, List.map_nil, List.cons_append, List.append_assoc,
    List.nil_append]
  refine Fails.operandOf (fun named => Fails.bind ?_ _) rfl
  refine Yields.fails (Yields.iterate_of_skip rfl (by simp) rfl) (Fails.bind ?_ _)
  refine (yields_takeAny _ _).fails ?_
  exact Yields.fails (yields_skip_ne (startsOperand_ne h₀).2.2.1 _) (hinner.bind _)

/-- An expression in parentheses takes two levels more than what is in them. -/
theorem Refused.group (h : Refused line n w) : Refused line (n + 2) ('(' :: w ++ [')']) := by
  obtain ⟨tokens, hlex, hbalance, ⟨t, more, rfl, h₀⟩, hfails⟩ := h
  exact Refused.of_group rfl hlex hbalance ⟨t, more, rfl, h₀⟩ fun rest =>
    Fails.withConditions (hfails rest)

theorem Code.refused_group (h : Code line n w e) : Refused line 1 ('(' :: w ++ [')']) := by
  obtain ⟨tokens, hlex, hbalance, hread⟩ := h
  exact Refused.of_group rfl hlex hbalance hread.startsOperand fun rest => fails_fail _

/-- **A template that is an expression block of refused code does not parse.** -/
theorem Refused.parse (h : Refused 1 149 w) : ∃ fault, parse (expressionBlock w) = .error fault := by
  obtain ⟨tokens, hlex, hbalance, ⟨t₀, more, rfl, -⟩, hfails⟩ := h
  obtain ⟨hlexed, hfault⟩ := lexFrom_expression 1 (d := []) (by simp) hlex hbalance []
  obtain ⟨hnil, hnofault⟩ := lexFrom_data 1 (d := []) (by simp)
  have hend : ∀ c ∈ (expressionBlock w).getLast?, c ≠ '\n' ∧ c ≠ '\r' := by
    rw [getLast?_expressionBlock]
    simp
  have hline : 1 + lineBreaks [] = 1 := rfl
  rw [List.nil_append, List.append_nil, hline] at hlexed hfault
  rw [Template.parse, lex, dropFinalBreak_of_getLast hend, hlexed, hfault, hnofault]
  exact parseLexemes_fails (hfails _).withConditions

end Componentry.Template
