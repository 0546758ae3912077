import Componentry.Proofs.Template.Lexing
import Componentry.Proofs.Template.Parsing

/-! # The expressions of generated code

Generated code is put together from texts, identifiers and calls.  Each kind of
piece comes with the expression that it is parsed to (`Operand`; `Term` if `~` may join
it to another one), and a template that is one expression block parses to one statement
that writes it out (`parse_expressionBlock`).
-/
namespace Componentry.Template

open Template.Parser

/-- The code `w` is an operand on a line: it closes all brackets that it opens, and
its tokens are read as the expression `e`. -/
def Operand (line n : Nat) (w : Text) (e : Expr) : Prop :=
  ∃ tokens, Lexes w tokens ∧ (tokens.map Token.opens).sum = 0 ∧
    ReadsOperand n (tokens.map (⟨·, line⟩)) e

/-- The code `w` is an operand without operators on a line, which `~` may join to another
one. -/
def Term (line n : Nat) (w : Text) (e : Expr) : Prop :=
  ∃ tokens, Lexes w tokens ∧ (tokens.map Token.opens).sum = 0 ∧
    ReadsTerm n (tokens.map (⟨·, line⟩)) e

/-- The code `w` is an expression on a line. -/
def Code (line n : Nat) (w : Text) (e : Expr) : Prop :=
  ∃ tokens, Lexes w tokens ∧ (tokens.map Token.opens).sum = 0 ∧
    Reads n (tokens.map (⟨·, line⟩)) e

variable {line n : Nat} {w : Text} {e : Expr}

theorem Term.operand (h : Term line n w e) : Operand line n w e := by
  obtain ⟨tokens, hlex, hbalance, hread⟩ := h
  exact ⟨tokens, hlex, hbalance, hread.readsOperand⟩

theorem Operand.code (h : Operand line n w e) : Code line n w e := by
  obtain ⟨tokens, hlex, hbalance, hread⟩ := h
  exact ⟨tokens, hlex, hbalance, hread.reads⟩

theorem Term.string (line n : Nat) (s : Text) :
    Term line (n + 1) (Text.quote s) (.const (.string s) line) :=
  ⟨_, Lexes.string s, rfl, readsTerm_string n s line⟩

theorem Operand.string (line n : Nat) (s : Text) :
    Operand line (n + 1) (Text.quote s) (.const (.string s) line) := (Term.string line n s).operand

theorem Term.constant {x : Text} {value : Literal} (hx : isIdentifier x = true)
    (hconst : constant? x = some value) (hnot : x ≠ Keyword.kNot.text) (line n : Nat) :
    Term line (n + 1) x (.const value line) :=
  ⟨_, Lexes.ident hx, rfl, readsTerm_constant n hconst hnot line⟩

theorem Operand.var {x : Text} (hx : isIdentifier x = true) (hconst : constant? x = none)
    (hnot : x ≠ Keyword.kNot.text) (line n : Nat) : Operand line (n + 1) x (.var x line) :=
  Term.operand ⟨_, Lexes.ident hx, rfl, readsTerm_var n hconst hnot line⟩

/-! ## Pieces in a row -/

theorem Lexes.openParen : Lexes ['('] [.symbol .openParen] := .symbol (by decide)

theorem Lexes.closeParen : Lexes [')'] [.symbol .closeParen] := .symbol (by decide)

theorem lexes_group {tokens : List Token} (h : Lexes w tokens) :
    Lexes ('(' :: w ++ [')']) (.symbol .openParen :: (tokens ++ [.symbol .closeParen])) := by
  have hopen : Lexes ('(' :: w) (.symbol .openParen :: tokens) :=
    Lexes.openParen.append h (.of_last rfl (by decide))
  exact hopen.append Lexes.closeParen (.of_head rfl (by decide))

theorem opens_group {tokens : List Token} (h : (tokens.map Token.opens).sum = 0) :
    ((Token.symbol .openParen :: (tokens ++ [.symbol .closeParen])).map Token.opens).sum = 0 := by
  simp [h, Token.opens]

theorem Term.group (h : Code line n w e) : Term line (n + 2) ('(' :: w ++ [')']) e := by
  obtain ⟨tokens, hlex, hbalance, hread⟩ := h
  refine ⟨_, lexes_group hlex, opens_group hbalance, ?_⟩
  have hgroup := readsTerm_group hread line
  simpa using hgroup

theorem Operand.group (h : Code line n w e) : Operand line (n + 2) ('(' :: w ++ [')']) e :=
  (Term.group h).operand

/-- Tokens for each of many pieces of code. -/
theorem exists_tokens {P : Text → List Token → Expr → Prop} {pieces : List (Text × Expr)}
    (h : ∀ piece ∈ pieces, ∃ tokens, P piece.1 tokens piece.2) :
    ∃ read : List (Text × List Token × Expr), read.map (fun r => (r.1, r.2.2)) = pieces ∧
      ∀ r ∈ read, P r.1 r.2.1 r.2.2 := by
  induction pieces with
  | nil => exact ⟨[], rfl, by simp⟩
  | cons piece pieces ih =>
    rw [List.forall_mem_cons] at h
    obtain ⟨tokens, hfirst⟩ := h.1
    obtain ⟨read, rfl, hmore⟩ := ih h.2
    exact ⟨(piece.1, tokens, piece.2) :: read, rfl, List.forall_mem_cons.2 ⟨hfirst, hmore⟩⟩

/-- Pieces of code with a separator between them. -/
theorem IsSeparator.lexes_read {separator : Text} {t : Token} (hseparator : IsSeparator separator t)
    {read : List (Text × List Token × Expr)}
    (h : ∀ r ∈ read, Lexes r.1 r.2.1 ∧ (r.2.1.map Token.opens).sum = 0) :
    Lexes (Text.join separator (read.map Prod.fst)) (joinTokens t (read.map fun r => r.2.1)) ∧
      ((joinTokens t (read.map fun r => r.2.1)).map Token.opens).sum = 0 := by
  have hlex : ∀ p ∈ read.map fun r => (r.1, r.2.1), Lexes p.1 p.2 := by
    intro p hp
    obtain ⟨r, hr, rfl⟩ := List.mem_map.1 hp
    exact (h r hr).1
  have hbalance : ∀ tokens ∈ read.map fun r => r.2.1, (tokens.map Token.opens).sum = 0 := by
    intro tokens htokens
    obtain ⟨r, hr, rfl⟩ := List.mem_map.1 htokens
    exact (h r hr).2
  have hall := hseparator.lexes_join hlex
  refine ⟨?_, hseparator.opens_join hbalance⟩
  simpa [Function.comp_def] using hall

/-- The tokens of pieces on a line. -/
theorem argumentTokens_joinTokens (line : Nat) (pieces : List (List Token)) :
    argumentTokens line (pieces.map fun tokens => tokens.map (⟨·, line⟩)) =
      (joinTokens (.symbol .comma) pieces).map (⟨·, line⟩) := by
  cases pieces with
  | nil => rfl
  | cons first more =>
    simp [joinTokens, argumentTokens, moreArguments, List.map_flatMap, List.flatMap_map]

theorem lexes_call {f : Text} (hf : isIdentifier f = true) {args : List Text} {tokens : List Token}
    (h : Lexes (Text.join [',', ' '] args) tokens) :
    Lexes (Props.call f args)
      (.ident f :: .symbol .openParen :: (tokens ++ [.symbol .closeParen])) := by
  have hopen : Lexes (f ++ ['(']) [.ident f, .symbol .openParen] :=
    (Lexes.ident hf).append Lexes.openParen (.of_head rfl (by decide))
  have hclosed := (hopen.append h (.of_last List.getLast?_concat (by decide))).append
    Lexes.closeParen (.of_head rfl (by decide))
  simpa [Props.call] using hclosed

theorem opens_call {tokens : List Token} (h : (tokens.map Token.opens).sum = 0) (f : Text) :
    ((Token.ident f :: .symbol .openParen :: (tokens ++ [.symbol .closeParen])).map
      Token.opens).sum = 0 := by
  rw [List.map_cons, List.sum_cons, opens_group h]
  rfl

/-- A call is an operand, if there are not too many arguments. -/
theorem Operand.call {f : Text} (hf : isIdentifier f = true) (hconst : constant? f = none)
    (hnot : f ≠ Keyword.kNot.text) {args : List (Text × Expr)}
    (hargs : ∀ arg ∈ args, Code line n arg.1 arg.2) (hlen : args.length ≤ 2000) :
    Operand line (n + 1) (Props.call f (args.map Prod.fst))
      (.call (.var f line) (args.map fun arg => (.positional, arg.2))) := by
  obtain ⟨read, rfl, hread⟩ := exists_tokens (P := fun w tokens e => Lexes w tokens ∧
    (tokens.map Token.opens).sum = 0 ∧ Reads n (tokens.map (⟨·, line⟩)) e) hargs
  obtain ⟨hlex, hbalance⟩ :=
    IsSeparator.comma.lexes_read fun r hr => ⟨(hread r hr).1, (hread r hr).2.1⟩
  let readings : List (List Lexeme × Expr) := read.map fun r => (r.2.1.map (⟨·, line⟩), r.2.2)
  have hreads : ∀ reading ∈ readings, Reads n reading.1 reading.2 := by
    intro reading hreading
    obtain ⟨r, hr, rfl⟩ := List.mem_map.1 hreading
    exact (hread r hr).2.2
  refine ⟨_, lexes_call hf (by simpa [Function.comp_def] using hlex), opens_call hbalance f, ?_⟩
  have hcall := readsOperand_call hconst hnot hreads (by simpa [readings] using hlen) line
  have htokens := argumentTokens_joinTokens line (read.map fun r => r.2.1)
  simp only [readings, positionals, List.map_map, Function.comp_def] at hcall htokens ⊢
  rw [htokens] at hcall
  simpa using hcall

/-- The call that makes a map of keys and values. -/
def dictExpr (entries : List (Text × Expr)) (line : Nat) : Expr :=
  .call (.var Props.dictName line) (entries.flatMap fun e =>
    [(.positional, .const (.string e.1) line), (.positional, e.2)])

/-- The arguments of the call that makes a map: code and what it is read as. -/
def dictArguments (entries : List (Text × Text × Expr)) (line : Nat) : List (Text × Expr) :=
  entries.flatMap fun e => [(Text.quote e.1, .const (.string e.1) line), (e.2.1, e.2.2)]

theorem length_dictArguments (entries : List (Text × Text × Expr)) (line : Nat) :
    (dictArguments entries line).length = 2 * entries.length := by
  simp only [dictArguments, List.length_flatMap, List.length_cons, List.length_nil,
    List.map_const', List.sum_replicate_nat]
  omega

theorem code_dictArguments {entries : List (Text × Text × Expr)}
    (h : ∀ e ∈ entries, Code line (n + 1) e.2.1 e.2.2) :
    ∀ arg ∈ dictArguments entries line, Code line (n + 1) arg.1 arg.2 := by
  intro arg harg
  obtain ⟨e, he, harg⟩ := List.mem_flatMap.1 harg
  rcases List.mem_cons.1 harg with rfl | harg
  · exact (Operand.string line n e.1).code
  · rw [List.mem_singleton.1 harg]
    exact h e he

theorem dictSource_eq_call (entries : List (Text × Text × Expr)) (line : Nat) :
    Props.dictSource (entries.map fun e => (e.1, e.2.1)) =
      Props.call Props.dictName ((dictArguments entries line).map Prod.fst) := by
  simp [Props.dictSource, dictArguments, List.map_flatMap, List.flatMap_map]

/-- The code of a map, if there are not too many entries. -/
theorem Operand.dict {entries : List (Text × Text × Expr)}
    (h : ∀ e ∈ entries, Code line (n + 1) e.2.1 e.2.2) (hlen : entries.length ≤ 1000) :
    Operand line (n + 2) (Props.dictSource (entries.map fun e => (e.1, e.2.1)))
      (dictExpr (entries.map fun e => (e.1, e.2.2)) line) := by
  have hcount : (dictArguments entries line).length ≤ 2000 := by
    rw [length_dictArguments]
    omega
  have hcall := Operand.call (f := Props.dictName) (by decide) (by decide) (by decide)
    (code_dictArguments h) hcount
  rw [dictSource_eq_call entries line]
  simpa [dictExpr, dictArguments, List.map_flatMap, List.flatMap_map] using hcall

/-! ## Placeholders -/

/-- The test whether something is given for a label. -/
def isGivenExpr (label : Text) (line : Nat) : Expr :=
  .test ['d', 'e', 'f', 'i', 'n', 'e', 'd']
    (.item (.var Attribute.contextVar line) (.const (.string label) line)) []

/-- The call that runs a definition with what a variable holds. -/
def invokeExpr (name props : Text) (line : Nat) : Expr :=
  .call (.var invokeName line)
    [(.positional, .const (.string name) line), (.positional, .var props line)]

theorem Operand.invoke (props : Text) (hprops : isIdentifier props = true)
    (hconst : constant? props = none) (hnot : props ≠ Keyword.kNot.text) (line n : Nat)
    (name : Text) :
    Operand line (n + 3) (Props.call invokeName [Text.quote name, props])
      (invokeExpr name props line) := by
  have hargs : ∀ arg ∈ [(Text.quote name, Expr.const (.string name) line),
      (props, Expr.var props line)], Code line (n + 2) arg.1 arg.2 := by
    simp only [List.forall_mem_cons]
    exact ⟨(Operand.string line (n + 1) name).code,
      (Operand.var hprops hconst hnot line (n + 1)).code, by simp⟩
  exact Operand.call (by decide) (by decide) (by decide) hargs (by simp)

/-- The call that marks a source as slot content. -/
def deferredExpr (source : Text) (line : Nat) : Expr :=
  .call (.var deferredName line) [(.positional, .const (.string source) line)]

theorem Operand.deferred (line n : Nat) (source : Text) :
    Operand line (n + 3) (Props.call deferredName [Text.quote source])
      (deferredExpr source line) := by
  have hargs : ∀ arg ∈ [(Text.quote source, Expr.const (.string source) line)],
      Code line (n + 2) arg.1 arg.2 := by
    intro arg harg
    rw [List.mem_singleton.1 harg]
    exact (Operand.string line (n + 1) source).code
  exact Operand.call (by decide) (by decide) (by decide) hargs (by simp)

/-- The tokens of the test. -/
def isGivenTokens (label : Text) : List Token :=
  [.ident Attribute.contextVar, .symbol .openBracket, .string label, .symbol .closeBracket,
    Keyword.kIs.token, .ident ['d', 'e', 'f', 'i', 'n', 'e', 'd']]

theorem Lexes.isGivenSource (label : Text) : Lexes (isGivenSource label) (isGivenTokens label) := by
  have hitem : Lexes (Attribute.contextVar ++ '[' :: Text.quote label ++ [']'])
      [.ident Attribute.contextVar, .symbol .openBracket, .string label, .symbol .closeBracket] := by
    have hopen := (Lexes.ident (x := Attribute.contextVar) (by decide)).append
      (Lexes.symbol (c := '[') (s := .openBracket) (by decide)) (.of_head rfl (by decide))
    have hkey := hopen.append (Lexes.string label) (.of_last rfl (by decide))
    have hclose := hkey.append (Lexes.symbol (c := ']') (s := .closeBracket) (by decide))
      (.of_head rfl (by decide))
    simpa using hclose
  have htest : Lexes [' ', 'i', 's', ' ', 'd', 'e', 'f', 'i', 'n', 'e', 'd']
      [Keyword.kIs.token, .ident ['d', 'e', 'f', 'i', 'n', 'e', 'd']] := by
    have his := Lexes.blank.append (Lexes.ident (x := ['i', 's']) (by decide))
      (.of_last rfl (by decide))
    have hgap := his.append Lexes.blank (.of_head rfl (by decide))
    exact hgap.append (Lexes.ident (x := ['d', 'e', 'f', 'i', 'n', 'e', 'd']) (by decide))
      (.of_last rfl (by decide))
  have h := hitem.append htest (.of_head rfl (by decide))
  simpa [Componentry.isGivenSource, isGivenTokens] using h

theorem yields_isGiven (label : Text) (line n : Nat) {l : Lexeme} (hl : endsExpression l.token = true)
    (rest : List Lexeme) :
    Yields (operandAt (n + 3)) ((isGivenTokens label).map (⟨·, line⟩) ++ l :: rest)
      (isGivenExpr label line) (l :: rest) :=
  yields_itemTest (by decide) (by decide) label (by decide) line hl

/-- The code of a placeholder. -/
theorem Code.placeholder (line n : Nat) (label : Text) :
    Code line (n + 3) (installedSource label ++ [' ', 'i', 'f', ' '] ++ isGivenSource label)
      (.ifElse (isGivenExpr label line) (invokeExpr label Attribute.contextVar line) none) := by
  obtain ⟨tokens, hlex, hbalance, hread⟩ := Operand.invoke Attribute.contextVar
    (by decide) (by decide) (by decide) line n label
  have hif : Lexes [' ', 'i', 'f', ' '] [Keyword.kIf.token] :=
    (Lexes.blank.append (Lexes.ident (x := ['i', 'f']) (by decide)) (.of_last rfl (by decide))).append
      Lexes.blank (.of_head rfl (by decide))
  have hcode := (hlex.append hif (.of_head rfl (by decide))).append (Lexes.isGivenSource label)
    (.of_last (c := ' ') (by rw [List.getLast?_append]; rfl) (by decide))
  refine ⟨_, hcode, ?_, ?_⟩
  · simp [hbalance, isGivenTokens, Token.opens, Keyword.token]
  · have hreads := reads_if hread (fun l rest hl => yields_isGiven label line n hl rest) line
    simpa using hreads

/-! ## Templates -/

/-- A part of a template: text, and an expression block behind it. -/
structure Part where
  text : Text
  code : Text
  value : Expr

/-- The statement that writes out a text, unless it is empty. -/
def dataStmts (text : Text) : List Stmt := if text.isEmpty then [] else [.data text]

namespace Part

/-- The source of a part. -/
def source (p : Part) : Text := p.text ++ expressionBlock p.code

/-- The statements of a part. -/
def statements (p : Part) : List Stmt := dataStmts p.text ++ [.emit p.value]

/-- The text of a part holds no block and no line break, and its code is read as its
value. -/
structure IsRead (p : Part) : Prop where
  brace : '{' ∉ p.text
  lineFeed : '\n' ∉ p.text
  code : Code 1 149 p.code p.value

end Part

theorem getLast?_expressionBlock (w : Text) : (expressionBlock w).getLast? = some '}' := by
  have hform : expressionBlock w = ('{' :: '{' :: ' ' :: (w ++ [' ', '}'])) ++ ['}'] := by
    simp [expressionBlock]
  rw [hform, List.getLast?_concat]

theorem source_getLast? (p : Part) : p.source.getLast? = some '}' := by
  rw [Part.source, List.getLast?_append, getLast?_expressionBlock]
  rfl

theorem items_dataLexemes {tokens : List Lexeme} {body : List Stmt} (line : Nat) (text : Text)
    (h : Items n tokens body) : Items n (dataLexemes line text ++ tokens) (dataStmts text ++ body) := by
  unfold dataLexemes dataStmts
  split
  · exact h
  · exact .data h

/-- The tokens of parts, with text behind them. -/
theorem items_parts {parts : List Part} (h : ∀ p ∈ parts, p.IsRead) {last : Text}
    (hlast : '{' ∉ last) :
    Items nestingLimit (lexFrom false 1 (parts.flatMap Part.source ++ last)).lexemes
        (parts.flatMap Part.statements ++ dataStmts last) ∧
      (lexFrom false 1 (parts.flatMap Part.source ++ last)).fault = none := by
  induction parts with
  | nil =>
    obtain ⟨hlex, hfault⟩ := lexFrom_data 1 hlast
    refine ⟨?_, hfault⟩
    have hitems := items_dataLexemes (n := nestingLimit) 1 last .nil
    rw [List.append_nil, List.append_nil] at hitems
    rw [List.flatMap_nil, List.flatMap_nil, List.nil_append, List.nil_append, hlex]
    exact hitems
  | cons p parts ih =>
    rw [List.forall_mem_cons] at h
    obtain ⟨hitems, hfault⟩ := ih h.2
    obtain ⟨tokens, hcode, hbalance, hread⟩ := h.1.code
    obtain ⟨hlex, hfault'⟩ := lexFrom_expression 1 h.1.brace hcode hbalance
      (parts.flatMap Part.source ++ last)
    have hline : 1 + lineBreaks p.text = 1 := by
      rw [lineBreaks, List.count_eq_zero_of_not_mem h.1.lineFeed]
    rw [hline] at hlex hfault'
    rw [List.flatMap_cons, List.flatMap_cons, Part.source, List.append_assoc]
    refine ⟨?_, hfault'.trans hfault⟩
    rw [hlex, Part.statements, List.append_assoc, List.append_assoc]
    exact items_dataLexemes 1 p.text (.emit (fun rest => hread.2 _ rest rfl) hitems)

theorem getLast?_parts {parts : List Part} {last : Text}
    (hend : ∀ c ∈ last.getLast?, c ≠ '\n' ∧ c ≠ '\r') :
    ∀ c ∈ (parts.flatMap Part.source ++ last).getLast?, c ≠ '\n' ∧ c ≠ '\r' := by
  intro c hc
  rw [List.getLast?_append, Option.mem_def, Option.or_eq_some_iff] at hc
  rcases hc with hc | ⟨-, hc⟩
  · exact hend c hc
  · -- The source of a part ends in a brace.
    rw [List.getLast?_flatMap] at hc
    obtain ⟨p, -, hp⟩ := List.exists_of_findSome?_eq_some hc
    rw [source_getLast?] at hp
    cases hp
    decide

/-- **A template of parts parses to their statements**, if it does not end in a line
break. -/
theorem parse_parts {parts : List Part} (h : ∀ p ∈ parts, p.IsRead) {last : Text}
    (hlast : '{' ∉ last) (hend : ∀ c ∈ last.getLast?, c ≠ '\n' ∧ c ≠ '\r') :
    parse (parts.flatMap Part.source ++ last) =
      .ok (parts.flatMap Part.statements ++ dataStmts last) := by
  obtain ⟨hitems, hfault⟩ := items_parts h hlast
  rw [parse, lex, dropFinalBreak_of_getLast (getLast?_parts hend), hfault]
  exact parseLexemes_items hitems

/-- A template without blocks is text, without the line break at its end. -/
theorem parse_data {text : Text} (hbrace : '{' ∉ text) :
    parse text = .ok (dataStmts (dropFinalBreak text)) := by
  have hdropped : '{' ∉ dropFinalBreak text := fun h => hbrace ((dropFinalBreak_sublist text).mem h)
  obtain ⟨hlex, hfault⟩ := lexFrom_data 1 hdropped
  have hitems := items_dataLexemes (n := nestingLimit) 1 (dropFinalBreak text) .nil
  rw [List.append_nil, List.append_nil, ← hlex] at hitems
  rw [parse, lex, hfault]
  exact parseLexemes_items hitems

/-- A template without blocks writes out its text. -/
theorem parse_text {text : Text} (hbrace : '{' ∉ text)
    (hend : ∀ c ∈ text.getLast?, c ≠ '\n' ∧ c ≠ '\r') : parse text = .ok (dataStmts text) := by
  rw [parse_data hbrace, dropFinalBreak_of_getLast hend]

/-- **A template that is one expression block** writes out its expression. -/
theorem parse_expressionBlock (h : Code 1 149 w e) :
    parse (expressionBlock w) = .ok [.emit e] := by
  have hread : Part.IsRead ⟨[], w, e⟩ := ⟨by simp, by simp, h⟩
  have hparts : ∀ p ∈ [Part.mk [] w e], p.IsRead := by simpa using hread
  have hparse := parse_parts hparts (List.not_mem_nil) (by simp)
  simpa [Part.source, Part.statements, dataStmts] using hparse

/-- The statement that runs a slot's definition with the caller's data. -/
theorem parse_deferredInvocation (unit : Text) :
    parse (deferredInvocation unit) = .ok [.emit (invokeExpr unit callerVar 1)] := by
  have hcall := Operand.invoke callerVar (by decide) (by decide) (by decide) 1 146 unit
  exact parse_expressionBlock hcall.code

/-! ## Placeholders with a fallback -/

/-- The tokens of a placeholder with a fallback. -/
theorem items_placeholderWithFallback (label : Text) {fallback : Text} (hfallback : '{' ∉ fallback) :
    ∃ tokens, LexesTo 1 (placeholderWithFallback label fallback) tokens ∧
      Items nestingLimit tokens
        [.ifElse (isGivenExpr label 1) [.emit (invokeExpr label Attribute.contextVar 1)]
          (dataStmts fallback)] := by
  obtain ⟨tokens, hinstalled, hbalance, hread⟩ := (Operand.invoke Attribute.contextVar
    (by decide) (by decide) (by decide) 1 145 label).code
  have hif : Lexes (['i', 'f', ' '] ++ isGivenSource label)
      (Keyword.kIf.token :: isGivenTokens label) :=
    ((Lexes.ident (x := ['i', 'f']) (by decide)).append Lexes.blank
      (.of_head rfl (by decide))).append (.isGivenSource label) (.of_last rfl (by decide))
  have helse : Lexes ['e', 'l', 's', 'e'] [Keyword.kElse.token] := .ident (by decide)
  have hendif : Lexes ['e', 'n', 'd', 'i', 'f'] [Keyword.kEndif.token] := .ident (by decide)
  have hnil : LexesTo (1 + lineBreaks fallback) [] [] := lexFrom_data _ List.not_mem_nil
  have hlast := hnil.statement hfallback hendif rfl fun _ => rfl
  have hmiddle : LexesTo 1 (statementBlock ['e', 'l', 's', 'e'] ++
      (fallback ++ statementBlock ['e', 'n', 'd', 'i', 'f'] ++ [])) _ :=
    hlast.statement (d := []) List.not_mem_nil helse rfl fun _ => rfl
  have hall : LexesTo 1 (statementBlock (['i', 'f', ' '] ++ isGivenSource label) ++
      (expressionBlock (installedSource label) ++ (statementBlock ['e', 'l', 's', 'e'] ++
        (fallback ++ statementBlock ['e', 'n', 'd', 'i', 'f'] ++ [])))) _ :=
    (hmiddle.expression hinstalled hbalance).statement (d := []) List.not_mem_nil hif rfl
      fun _ => rfl
  have hsource : placeholderWithFallback label fallback =
      statementBlock (['i', 'f', ' '] ++ isGivenSource label) ++
        (expressionBlock (installedSource label) ++ (statementBlock ['e', 'l', 's', 'e'] ++
          (fallback ++ statementBlock ['e', 'n', 'd', 'i', 'f'] ++ []))) := by
    simp [placeholderWithFallback]
  refine ⟨_, hsource ▸ hall, ?_⟩
  have hyes : Items 149 (⟨.expressionStart, 1⟩ :: (tokens.map (⟨·, 1⟩) ++ [⟨.expressionEnd, 1⟩]))
      [.emit (invokeExpr label Attribute.contextVar 1)] :=
    .emit (fun rest => hread.2 _ rest rfl) .nil
  have hno := items_dataLexemes (n := 149) 1 fallback .nil
  rw [List.append_nil, List.append_nil] at hno
  have htest : ∀ rest, Yields (operandAt 149)
      ((isGivenTokens label).map (⟨·, 1⟩) ++ ⟨.statementEnd, 1⟩ :: rest) (isGivenExpr label 1)
      (⟨.statementEnd, 1⟩ :: rest) := fun rest => yields_isGiven label 1 146 rfl rest
  have hitems : Items nestingLimit _ _ :=
    Items.ifElse (l := 1) (m := 1 + lineBreaks fallback) htest hyes hno .nil
  have hline : lineBreaks [] = 0 := rfl
  simpa [dataLexemes, hline] using hitems

/-- A placeholder with a fallback is a condition. -/
theorem parse_placeholderWithFallback (label : Text) {fallback : Text} (hfallback : '{' ∉ fallback) :
    parse (placeholderWithFallback label fallback) =
      .ok [.ifElse (isGivenExpr label 1) [.emit (invokeExpr label Attribute.contextVar 1)]
        (dataStmts fallback)] := by
  have hend : ∀ c ∈ (placeholderWithFallback label fallback).getLast?, c ≠ '\n' ∧ c ≠ '\r' := by
    intro c hc
    rw [placeholderWithFallback, List.getLast?_append] at hc
    cases hc
    decide
  obtain ⟨tokens, ⟨hlex, hfault⟩, hitems⟩ := items_placeholderWithFallback label hfallback
  rw [parse, lex, dropFinalBreak_of_getLast hend, hlex, hfault]
  exact parseLexemes_items hitems

end Componentry.Template
