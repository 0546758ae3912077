import Componentry.Proofs.Template.Results

/-! # Paths, and terms in a row

A **path** is a variable with the names of members behind it, `page.user.name`
(`MemberPath`): it is read as a chain of members (`MemberPath.term`) and evaluates to
the value that is found member by member (`MemberPath.eval_expr`).

Terms may be joined by `~`: any number of them is read from left to right, on one level
of nesting (`Operand.row`), and evaluates to the texts of their values one behind the
other (`gives_row`).
-/
namespace Componentry.Template

namespace Parser

variable {α β : Type}

/-- Behind a piece comes the next one, or the token behind them all. -/
theorem exists_follows (follows : Lexeme → Prop) {pieces : List (List Lexeme × β)}
    (h : ∀ p ∈ pieces, ∃ l t, p.1 = l :: t ∧ follows l) {l : Lexeme} (hl : follows l)
    (rest : List Lexeme) :
    ∃ l' rest', pieces.flatMap Prod.fst ++ l :: rest = l' :: rest' ∧ follows l' := by
  cases pieces with
  | nil => exact ⟨l, rest, rfl, hl⟩
  | cons p pieces =>
    obtain ⟨l', t, hp, hl'⟩ := h p List.mem_cons_self
    refine ⟨l', t ++ (pieces.flatMap Prod.fst ++ l :: rest), ?_, hl'⟩
    rw [List.flatMap_cons, hp]
    simp

/-- A loop over pieces, each of which its step reads where a token follows that may stand
behind a piece. -/
theorem Yields.repeat_pieces {step : α → Parser (Option α)} {f : α → β → α}
    (follows : Lexeme → Prop) {l : Lexeme} {rest : List Lexeme} (hl : follows l)
    (hstop : ∀ a, Yields (step a) (l :: rest) none (l :: rest))
    (pieces : List (List Lexeme × β))
    (hstep : ∀ p ∈ pieces, (∃ l t, p.1 = l :: t ∧ follows l) ∧
      ∀ a l rest, follows l → Yields (step a) (p.1 ++ l :: rest) (some (f a p.2)) (l :: rest)) :
    ∀ (a : α) (n : Nat), pieces.length < n →
      Yields (repeatUpTo step n a) (pieces.flatMap Prod.fst ++ l :: rest)
        (pieces.foldl (fun a p => f a p.2) a) (l :: rest) := by
  induction pieces with
  | nil =>
    intro a n hn
    obtain ⟨n, rfl⟩ : ∃ m, n = m + 1 := ⟨n - 1, by simp at hn; omega⟩
    exact Yields.repeat_stop (hstop a)
  | cons p pieces ih =>
    intro a n hn
    rw [List.length_cons] at hn
    obtain ⟨n, rfl⟩ : ∃ m, n = m + 1 := ⟨n - 1, by omega⟩
    rw [List.forall_mem_cons] at hstep
    have hrest := ih hstep.2 (f a p.2) n (by omega)
    obtain ⟨l', rest', htokens, hl'⟩ :=
      exists_follows follows (fun p hp => (hstep.2 p hp).1) hl rest
    rw [List.flatMap_cons, List.append_assoc, htokens]
    rw [htokens] at hrest
    exact Yields.repeat_step (hstep.1.2 a l' rest' hl') hrest

theorem Yields.iterate_pieces {step : α → Parser (Option α)} {f : α → β → α}
    (follows : Lexeme → Prop) {l : Lexeme} {rest : List Lexeme} (hl : follows l)
    (hstop : ∀ a, Yields (step a) (l :: rest) none (l :: rest))
    {pieces : List (List Lexeme × β)}
    (hstep : ∀ p ∈ pieces, (∃ l t, p.1 = l :: t ∧ follows l) ∧
      ∀ a l rest, follows l → Yields (step a) (p.1 ++ l :: rest) (some (f a p.2)) (l :: rest))
    (a : α) :
    Yields (iterate step a) (pieces.flatMap Prod.fst ++ l :: rest)
      (pieces.foldl (fun a p => f a p.2) a) (l :: rest) := by
  refine (yields_remaining _).bind (Yields.repeat_pieces follows hl hstop pieces hstep a _ ?_)
  have hlen : pieces.length ≤ (pieces.flatMap Prod.fst).length := by
    clear hstop
    induction pieces with
    | nil => exact Nat.le_refl _
    | cons p pieces ih =>
      rw [List.forall_mem_cons] at hstep
      obtain ⟨⟨⟨l, t, hp, -⟩, -⟩, hmore⟩ := hstep
      have hrest := ih hmore
      rw [List.flatMap_cons, List.length_append, hp]
      simp only [List.length_cons]
      omega
  simp only [List.length_append, List.length_cons]
  omega

/-- The tokens of members behind a variable. -/
def memberTokens (members : List Text) : List Token :=
  members.flatMap fun m => [.symbol .dot, .ident m]

/-- A variable with members behind it. -/
theorem readsTerm_members (n : Nat) {x : Text} (h : constant? x = none)
    (hnot : x ≠ Keyword.kNot.text) (members : List Text) (line : Nat) :
    ReadsTerm (n + 1) ((Token.ident x :: memberTokens members).map (⟨·, line⟩))
      (members.foldl .member (.var x line)) := by
  have hstart : startsOperand (.ident x) = true := by simpa [startsOperand] using hnot
  obtain ⟨expr, hprim⟩ := nestedAt_succ_snd n
  refine ⟨⟨_, _, rfl, hstart⟩, ?_⟩
  intro named l rest hl
  let pieces : List (List Lexeme × Text) :=
    members.map fun m => ([⟨.symbol .dot, line⟩, ⟨.ident m, line⟩], m)
  have htokens : (memberTokens members).map (Lexeme.mk · line) = pieces.flatMap Prod.fst := by
    simp [memberTokens, pieces, List.map_flatMap, List.flatMap_map]
  have hmembers : members.foldl Expr.member (.var x line) =
      pieces.foldl (fun e p => .member e p.2) (.var x line) := by
    simp [pieces, List.foldl_map]
  have hchain : Yields (postfixes (nestedAt (n + 1)).1 named (.var x line))
      (pieces.flatMap Prod.fst ++ l :: rest)
      (pieces.foldl (fun e p => .member e p.2) (.var x line)) (l :: rest) := by
    refine Yields.iterate_pieces (f := fun e m => Expr.member e m)
      (fun l => l.token = .symbol .dot ∨ endsTerm l.token = true) (Or.inr hl) ?_ ?_ _
    · intro e
      refine (yields_peek _ _).bind ?_
      rcases endsTerm_cases hl with h | h | h | h | h | h | h <;>
        · rw [h]
          exact .pure _ _
    · intro p hp
      obtain ⟨m, -, rfl⟩ := List.mem_map.1 hp
      refine ⟨⟨_, _, rfl, Or.inl rfl⟩, fun e l rest _ => ?_⟩
      refine (yields_peek _ _).bind ((yields_take _ _).bind ?_)
      refine Yields.bind ?_ (.pure _ _)
      exact (yields_takeAny _ _).bind (.pure _ _)
  rw [hprim, List.map_cons, List.cons_append, htokens, hmembers]
  refine (Yields.signed (yields_primary_var h line) hstart).bind (hchain.bind ?_)
  exact yields_filters_stop hl

/-- The tokens of terms behind a first one. -/
def rowTokens (line : Nat) (more : List (List Lexeme × Expr)) : List Lexeme :=
  more.flatMap fun term => ⟨.symbol .tilde, line⟩ :: term.1

/-- Terms joined from left to right. -/
def rowExpr (line : Nat) (first : Expr) (more : List Expr) : Expr :=
  more.foldl (fun left right => .binary .concat left right line) first

/-- A term is read on the level of operators on which `~` joins it to others. -/
theorem ReadsTerm.joined {n : Nat} {tokens : List Lexeme} {e : Expr} (h : ReadsTerm n tokens e)
    (named : Parser Expr) {l : Lexeme} (hl : endsTerm l.token = true) (rest : List Lexeme) :
    Yields (Parser.joined (nestedAt n).1 named (nestedAt n).2) (tokens ++ l :: rest) e
      (l :: rest) := by
  obtain ⟨⟨l₀, t₀, rfl, -⟩, hread⟩ := h
  exact (hread named l rest hl).joined hl

/-- **Terms in a row are an operand**, on the level of the terms. -/
theorem readsOperand_row {n line : Nat} (first : List Lexeme × Expr)
    {more : List (List Lexeme × Expr)} (hfirst : ReadsTerm n first.1 first.2)
    (hline : ∀ l ∈ first.1, l.line = line) (hmore : ∀ term ∈ more, ReadsTerm n term.1 term.2) :
    ReadsOperand n (first.1 ++ rowTokens line more) (rowExpr line first.2 (more.map Prod.snd)) := by
  obtain ⟨tokens, e⟩ := first
  obtain ⟨l₀, t₀, rfl, h₀⟩ := hfirst.1
  refine ⟨⟨l₀, _, rfl, h₀⟩, ?_⟩
  intro l rest hl
  let pieces : List (List Lexeme × Expr) :=
    more.map fun term => (⟨.symbol .tilde, line⟩ :: term.1, term.2)
  have htokens : rowTokens line more = pieces.flatMap Prod.fst := by
    simp [rowTokens, pieces, List.flatMap_map]
  have hexpr : rowExpr line e (more.map Prod.snd) =
      pieces.foldl (fun left p => .binary .concat left p.2 line) e := by
    simp [rowExpr, pieces, List.foldl_map]
  rw [operandAt_eq, hexpr, htokens, List.append_assoc, List.cons_append]
  refine Yields.operandOf_row (fun named => ?_) h₀ hl
  have hpieces : ∀ p ∈ pieces, ∃ l t, p.1 = l :: t ∧ endsTerm l.token = true := by
    intro p hp
    obtain ⟨term, -, rfl⟩ := List.mem_map.1 hp
    exact ⟨_, _, rfl, rfl⟩
  obtain ⟨l', rest', hnext, hl'⟩ := exists_follows (fun l => endsTerm l.token = true) hpieces
    (endsTerm_of_endsOperand hl) rest
  have hread := hfirst.joined named hl' rest'
  rw [← hnext] at hread
  refine (yields_nextLine _ _).bind (hread.bind ?_)
  rw [hline l₀ (by simp)]
  refine Yields.iterate_pieces (f := fun left right => Expr.binary .concat left right line)
    (fun l => endsTerm l.token = true) (endsTerm_of_endsOperand hl) ?_ ?_ _
  · intro left
    refine (yields_peek _ _).bind ?_
    rcases endsOperand_cases hl with h | h | h | h | h | h <;>
      · rw [h]
        exact .pure _ _
  · intro p hp
    obtain ⟨term, hterm, rfl⟩ := List.mem_map.1 hp
    refine ⟨⟨_, _, rfl, rfl⟩, fun left l rest hl => ?_⟩
    refine (yields_peek _ _).bind ((yields_take _ _).bind ?_)
    exact ((hmore term hterm).joined named hl rest).bind (.pure _ _)

end Parser

open Template.Parser Run

variable {line n : Nat}

/-! ## Paths -/

/-- A path: a variable that is no keyword, and members behind it. -/
structure MemberPath where
  root : Text
  members : List Text
  isIdentifier_root : isIdentifier root = true
  constant?_root : constant? root = none
  root_ne_not : root ≠ Keyword.kNot.text
  isIdentifier_members : ∀ m ∈ members, isIdentifier m = true

namespace MemberPath

/-- The source of a path. -/
def source (p : MemberPath) : Text := p.root ++ p.members.flatMap ('.' :: ·)

/-- The expression that a path is read as. -/
def expr (p : MemberPath) (line : Nat) : Expr := p.members.foldl .member (.var p.root line)

/-- The value at a path, with data at hand, in a memory. -/
def value (p : MemberPath) (data : Value) (scope : Scope) (mem : Memory) : Except Cause Value :=
  p.members.foldlM Value.member (mem.seen (scope.lookup data p.root))

/-- A path consists of characters of identifiers, and dots. -/
theorem source_chars (p : MemberPath) {c : Char} (h : c ∈ p.source) :
    isIdentChar c = true ∨ c = '.' := by
  rcases List.mem_append.1 h with h | h
  · exact Or.inl (isIdentifier_chars p.isIdentifier_root c h)
  · obtain ⟨m, hm, h⟩ := List.mem_flatMap.1 h
    rcases List.mem_cons.1 h with rfl | h
    · exact Or.inr rfl
    · exact Or.inl (isIdentifier_chars (p.isIdentifier_members m hm) c h)

theorem lexes_members {members : List Text} (h : ∀ m ∈ members, isIdentifier m = true) :
    Lexes (members.flatMap ('.' :: ·)) (memberTokens members) := by
  induction members with
  | nil => exact .nil
  | cons m members ih =>
    rw [List.forall_mem_cons] at h
    have hdot : Lexes ('.' :: m) [.symbol .dot, .ident m] :=
      (Lexes.symbol (by decide)).append (Lexes.ident h.1) (.of_last rfl (by decide))
    have hapart : Apart ('.' :: m) (members.flatMap ('.' :: ·)) := by
      cases members with
      | nil => exact .nil _
      | cons m' members => exact .of_head rfl (by decide)
    exact hdot.append (ih h.2) hapart

theorem lexes (p : MemberPath) : Lexes p.source (.ident p.root :: memberTokens p.members) := by
  refine (Lexes.ident p.isIdentifier_root).append (lexes_members p.isIdentifier_members) ?_
  cases p.members with
  | nil => exact .nil _
  | cons m members => exact .of_head rfl (by decide)

theorem opens_memberTokens (members : List Text) :
    ((memberTokens members).map Token.opens).sum = 0 := by
  induction members with
  | nil => rfl
  | cons m members ih => simpa [memberTokens, Token.opens] using ih

theorem term (p : MemberPath) (line n : Nat) : Term line (n + 1) p.source (p.expr line) := by
  refine ⟨_, p.lexes, ?_, readsTerm_members n p.constant?_root p.root_ne_not p.members line⟩
  rw [List.map_cons, List.sum_cons, opens_memberTokens]
  rfl

variable {h : Host} {scope : Scope} {mem : Memory}

theorem gives_members (members : List Text) :
    ∀ {e : Expr} {w v : Value}, (e.eval h scope).GivesIn mem w → members.foldlM Value.member w = .ok v →
      ((members.foldl Expr.member e).eval h scope).GivesIn mem v := by
  induction members with
  | nil =>
    rintro e w v he ⟨⟩
    exact he
  | cons m members ih =>
    intro e w v he hv
    rw [List.foldlM_cons] at hv
    cases hm : w.member m with
    | error cause =>
      rw [hm] at hv
      cases hv
    | ok u =>
      rw [hm] at hv
      refine ih (e := .member e m) (w := u) ?_ hv
      rw [Expr.eval]
      refine he.bind (GivesIn.atLine ?_ _)
      rw [hm]
      exact .pure u

/-- **A path evaluates to the value at it.** -/
theorem gives (p : MemberPath) {v : Value} (hv : p.value h.data scope mem = .ok v) (line : Nat) :
    ((p.expr line).eval h scope).GivesIn mem v := by
  have hroot : ((Expr.var p.root line).eval h scope).GivesIn mem (mem.seen (scope.lookup h.data p.root)) := by
    rw [Expr.eval]
    exact .refresh _
  exact gives_members p.members hroot hv

end MemberPath

/-! ## Rows -/

/-- **Terms in a row are an operand.** -/
theorem Operand.row {first : Text × Expr} {more : List (Text × Expr)}
    (h : ∀ term ∈ first :: more, Term line n term.1 term.2) :
    Operand line n (Text.join [' ', '~', ' '] ((first :: more).map Prod.fst))
      (rowExpr line first.2 (more.map Prod.snd)) := by
  obtain ⟨read, hmap, hread⟩ := exists_tokens (P := fun w tokens e => Lexes w tokens ∧
    (tokens.map Token.opens).sum = 0 ∧ ReadsTerm n (tokens.map (⟨·, line⟩)) e) h
  obtain ⟨r, read, rfl⟩ : ∃ r more, read = r :: more := by
    cases read with
    | nil => cases hmap
    | cons r read => exact ⟨r, read, rfl⟩
  obtain ⟨rfl, rfl⟩ := List.cons.inj hmap
  obtain ⟨hlex, hbalance⟩ :=
    IsSeparator.tilde.lexes_read fun r hr => ⟨(hread r hr).1, (hread r hr).2.1⟩
  have hfirst : ∀ l ∈ r.2.1.map (⟨·, line⟩), Lexeme.line l = line := by
    intro l hl
    obtain ⟨t, -, rfl⟩ := List.mem_map.1 hl
    rfl
  have hmore : ∀ term ∈ read.map fun r => (r.2.1.map (Lexeme.mk · line), r.2.2),
      ReadsTerm n term.1 term.2 := by
    intro term hterm
    obtain ⟨r', hr', rfl⟩ := List.mem_map.1 hterm
    exact (hread r' (by simp [hr'])).2.2
  have hrow := readsOperand_row (r.2.1.map (⟨·, line⟩), r.2.2)
    (hread r (by simp)).2.2 hfirst hmore
  refine ⟨_, by simpa [Function.comp_def] using hlex, hbalance, ?_⟩
  simpa [joinTokens, rowTokens, List.map_flatMap, List.flatMap_map, Function.comp_def] using hrow

/-- **Two or more terms in a row evaluate to the texts of their values in a row.** -/
theorem gives_row {h : Host} {scope : Scope} {mem : Memory} {more : List (Expr × Value)}
    (hmore : ∀ e ∈ more, (e.1.eval h scope).GivesIn mem e.2) (hne : more ≠ []) (line : Nat) :
    ∀ {first : Expr} {v : Value}, (first.eval h scope).GivesIn mem v →
      ((rowExpr line first (more.map Prod.fst)).eval h scope).GivesIn mem
        (.ofText (v.text ++ more.flatMap fun e => e.2.text)) := by
  induction more with
  | nil => exact absurd rfl hne
  | cons e more ih =>
    intro first v hfirst
    rw [List.forall_mem_cons] at hmore
    have hjoined : ((Expr.binary .concat first e.1 line).eval h scope).GivesIn mem
        (.ofText (v.text ++ e.2.text)) := by
      rw [Expr.eval]
      exact hfirst.bind (hmore.1.bind (GivesIn.atLine (.pure _) _))
    cases more with
    | nil =>
      rw [List.flatMap_cons, List.flatMap_nil, List.append_nil]
      exact hjoined
    | cons e' more =>
      have hrow := ih hmore.2 (by simp) hjoined
      rw [List.flatMap_cons, ← List.append_assoc]
      exact hrow

end Componentry.Template
