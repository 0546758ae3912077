import Componentry.Proofs.Provenance.Expressions

/-! # Parsing such tokens gives trusted code

A template whose tokens mention the function for slot sources only as `MentionsOnly` allows is
trusted (`Stmt.allOf_of_mentionsOnly`).  A statement may end with an expression, so that what
is left behind it is as behind a key (`ReadsStatement`); a body ends where a block starts
(`ReadsBody`).
-/
namespace Componentry.Template

open Parser

variable {p : Text → Bool} {ts : List Token}

/-! ## Targets -/

theorem Target.allOf_eq (t : Tests) (targets : List Target) :
    Target.allOf t targets = targets.all (·.all t) := by
  induction targets with
  | nil => rfl
  | cons target targets ih => rw [Target.allOf, ih, List.all_cons]

/-- An expression that is trusted can be assigned to as a target. -/
theorem Expr.all_target?_of_isTrusted {e : Expr} (he : e.isTrusted p = true) :
    (e.target?.all fun target => target.all (.trusted p)) = true := by
  cases e with
  | list items line =>
    rw [Expr.isTrusted, Expr.itemsTrusted_eq, List.all_eq_true] at he
    rw [Option.all_eq_true]
    intro target htarget
    obtain ⟨targets, htargets, rfl⟩ := Option.map_eq_some_iff.1 htarget
    rw [Target.all, Target.allOf_eq, List.all_eq_true]
    intro target hmem
    obtain ⟨item, hitem, heq⟩ := Filter.exists_of_mapM htargets target hmem
    have htrusted := he item hitem
    split at heq
    · cases heq
      exact htrusted
    · cases heq
  | _ => first | exact he | rfl

theorem keeps_assignedName : Keeps (MentionsOnly p) assignedName fun name ts =>
    (name != deferredName) = true ∧ MentionsOnly p ts :=
  keeps_ident.and_bind fun _ hname => .ite (fun _ => .fail) fun _ => .pure fun _ h => ⟨hname, h⟩

/-- Where a value may stand a name may be that of the function for slot sources, but then it
is called. -/
theorem keeps_nameAtValue : Keeps (AtValue p) assignedName fun name ts =>
    ((name != deferredName) = true ∧ MentionsOnly p ts) ∨
      ts.head? = some (.symbol .openParen) := by
  refine .or (keeps_assignedName.weaken fun _ _ => Or.inl) ?_
  refine keeps_expectIdent.bind fun r => .ite (fun _ => .fail) fun _ => .pure fun ts h => Or.inr ?_
  obtain ⟨source, rest, heq, -⟩ := h
  exact congrArg List.head? (List.cons.inj (List.cons.inj heq).2).2

theorem keeps_assignedPath (attributes : Bool) : Keeps (MentionsOnly p) (assignedPath attributes)
    fun target ts => target.all (.trusted p) = true ∧ MentionsOnly p ts := by
  let read (path : Expr) (ts : List Token) : Prop := path.isTrusted p = true ∧ MentionsOnly p ts
  refine keeps_nextLine.bind fun line => keeps_assignedName.and_bind fun name hname => ?_
  refine Keeps.and_bind ((Keeps.iterate (q := read) (fun path => ?_) _).strengthen
    fun ts h => ⟨hname, h⟩) fun path hpath => .pure fun ts h => ⟨?_, h⟩
  · cases attributes with
    | false => exact .pure_bind (.pure fun ts h => h)
    | true =>
      refine .skip_ite ?_ (.pure fun ts h => h)
      refine .assume (fun ts h => h.1) fun hpath => ?_
      exact (keeps_ident.strengthen fun ts h => h.2.tail (by simp)).and_bind fun _ _ =>
        .pure fun ts h => ⟨hpath, h⟩
  · cases path <;> first | exact hname | exact hpath

theorem keeps_targets (attributes : Bool) (n : Nat) : Keeps (MentionsOnly p) (targets attributes n)
    fun target ts => target.all (.trusted p) = true ∧ MentionsOnly p ts := by
  induction n with
  | zero => exact .fail
  | succ n ih =>
    let read (r : List Target × Bool × Bool) (ts : List Token) : Prop :=
      (∀ target ∈ r.1, target.all (.trusted p) = true) ∧ MentionsOnly p ts
    refine keeps_nextLine.bind fun line => ?_
    refine Keeps.bind ((Keeps.iterate (q := read) (fun r => ?_) _).strengthen
      fun ts h => ⟨(by simp), h⟩) fun r => ?_
    · obtain ⟨items, isList, closed⟩ := r
      cases closed with
      | true => exact .pure fun ts h => h
      | false =>
        refine .assume (fun ts h => h.1) fun hitems => ?_
        have hitem (item : Target) (hitem : item.all (.trusted p) = true) :
            Keeps (MentionsOnly p) (do
              if ← isNext (.symbol .comma) then return some (items ++ [item], true, false)
              else return some (items ++ [item], isList, true))
              fun r => read (r.getD (items, isList, false)) := by
          have hall : ∀ target ∈ items ++ [item], target.all (.trusted p) = true :=
            List.forall_mem_append.2 ⟨hitems, by simpa using hitem⟩
          refine (keeps_isNext _).bind fun isComma => .ite (fun _ => ?_) fun _ => ?_ <;>
            exact .pure fun ts h => ⟨hall, h.2⟩
        simp only [Bool.false_eq_true, if_false]
        refine Keeps.when_bind (q := MentionsOnly p) (fun _ => ?_) ?_ ?_
        · exact (keeps_expect _).weaken fun _ ts h => h.2.tail (by simp)
        · exact fun _ ts h => h.2
        refine keeps_peek.bind fun next => .ite (fun _ => ?_) fun _ => ?_
        · exact .pure fun ts h => ⟨hitems, h.2⟩
        refine Keeps.strengthen (.skip_ite ?_ ?_) fun ts h => h.2
        · refine (ih.strengthen fun ts h => h.tail (by simp)).and_bind fun inner hinner => ?_
          refine (keeps_expect _).bind fun _ => .pure_bind ?_
          exact (hitem inner hinner).strengthen fun ts h => h.tail (by simp)
        · exact (keeps_assignedPath attributes).and_bind hitem
    · obtain ⟨items, isList, closed⟩ := r
      refine .assume (fun ts h => h.1) fun hitems => ?_
      have hlist : (Target.list items line).all (.trusted p) = true := by
        simpa [Target.all, Target.allOf_eq] using hitems
      dsimp only
      split
      · exact .pure fun ts h => ⟨by simpa using hitems, h.2⟩
      · exact .pure fun ts h => ⟨hlist, h.2⟩

theorem keeps_assignment (attributes : Bool) : Keeps (MentionsOnly p) (assignment attributes)
    fun target ts => target.all (.trusted p) = true ∧ MentionsOnly p ts :=
  keeps_remaining.bind fun _ => (keeps_targets attributes _).strengthen fun _ h => h.2

/-! ## Values, filters and parameters -/

theorem AtValue.of_head (h : AtValue p ts) (hhead : ts.head? ≠ some (.ident deferredName)) :
    MentionsOnly p ts := by
  rcases h with h | ⟨source, rest, heq, -⟩
  · exact h
  · exact absurd (congrArg List.head? (List.cons.inj heq).2) hhead

theorem keeps_assignedValue (n : Nat) : Keeps (MentionsOnly p) (assignedValue n) fun e ts =>
    e.isTrusted p = true ∧ BehindKey p ts := by
  have hexpr := (readsTrusted_expression (p := p) n)
  refine keeps_nextLine.bind fun line => hexpr.plain.and_bind fun first hfirst => ?_
  refine (keeps_isNext _).bind fun isList => .ite (fun _ => ?_) fun _ => ?_
  rotate_left
  · exact .pure fun ts h => ⟨hfirst, h.2⟩
  let read (items : List Expr) (ts : List Token) : Prop :=
    (∀ e ∈ items, e.isTrusted p = true) ∧ BehindKey p ts
  refine Keeps.and_bind ((Keeps.iterate (q := read) (fun items => ?_) [first]).strengthen ?_)
    fun items hitems => .pure fun ts h => ⟨?_, h⟩
  · refine (keeps_skip _).bind fun skipped => ?_
    cases skipped with
    | false => exact .pure fun ts h => h.1
    | true =>
      refine (keeps_isNext _).bind fun ends => .ite (fun hends => .pure fun ts h => ?_) fun _ => ?_
      · obtain ⟨hhead, hitems, hts⟩ := h
        refine ⟨hitems, Or.inl (hts.atValue.of_head ?_)⟩
        rw [hhead.1 hends]
        simp
      · refine .assume (fun ts h => h.2.1) fun hitems => ?_
        refine (hexpr.value.strengthen fun ts h => h.2.2.atValue).and_bind fun e he => ?_
        exact .pure fun ts h => ⟨List.forall_mem_append.2 ⟨hitems, by simpa using he⟩, h⟩
  · exact fun ts h => ⟨by simpa using hfirst, h.2⟩
  · simpa [Expr.isTrusted, Expr.itemsTrusted_eq] using hitems

theorem keeps_filterChain (n : Nat) : Keeps (MentionsOnly p) (filterChain n) fun filters ts =>
    allFilters (Expr.isTrusted p) filters = true ∧ MentionsOnly p ts := by
  let read (filters : List FilterCall) (ts : List Token) : Prop :=
    allFilters (Expr.isTrusted p) filters = true ∧ MentionsOnly p ts
  refine Keeps.and_bind ((Keeps.iterate (q := read) (fun filters => ?_) []).strengthen
    fun ts h => ⟨rfl, h⟩) fun filters hfilters => ?_
  · refine (keeps_isNext _).bind fun ends => .ite (fun _ => .pure fun ts h => h.2) fun _ => ?_
    refine .assume (fun ts h => h.2.1) fun hfilters => ?_
    refine Keeps.when_bind (q := MentionsOnly p) (fun _ => ?_) ?_ ?_
    · exact (keeps_expect _).weaken fun _ ts h => h.2.2.tail (by simp)
    · exact fun _ ts h => h.2.2
    refine keeps_dottedName.bind fun name => ?_
    refine keeps_argumentsIfAny (readsTrusted_expression n) (readsTrusted_operandAt n)
      fun args hargs => .pure fun ts h => ⟨?_, h⟩
    simp only [allFilters, Option.getD_some, List.all_append, Bool.and_eq_true] at hfilters ⊢
    exact ⟨hfilters, by simpa using hargs⟩
  · exact .ite (fun _ => .fail) fun _ => .pure fun ts h => ⟨hfilters, h⟩

theorem keeps_parameters (n : Nat) : Keeps (MentionsOnly p) (parameters n) fun r ts =>
    (r.1.all (· != deferredName) = true ∧ r.2.all (Expr.isTrusted p) = true) ∧
      MentionsOnly p ts := by
  let good (a : Text × Option Expr) : Prop :=
    (a.1 != deferredName) = true ∧ a.2.all (Expr.isTrusted p) = true
  have hitem (before : List (Text × Option Expr)) : Keeps (AtValue p) (do
      let name ← assignedName
      if ← skipSymbol .assign then return (name, some (← expression n))
      else if before.any (·.2.isSome) then
        expectSymbol .assign
        return (name, none)
      else return (name, none)) (IsItem p good) := by
    refine keeps_nameAtValue.bind fun name => ?_
    have hassign (ts : List Token) (h : ((name != deferredName) = true ∧
        MentionsOnly p (.symbol .assign :: ts)) ∨
          (Token.symbol .assign :: ts).head? = some (.symbol .openParen)) :
        (name != deferredName) = true ∧ MentionsOnly p ts :=
      h.elim (fun h => ⟨h.1, h.2.tail (by simp)⟩) (by simp)
    refine .skip_ite (.assume (fun ts h => (hassign ts h).1) fun hname => ?_)
      (.ite (fun _ => ?_) fun _ => ?_)
    · refine ((readsTrusted_expression n).plain.strengthen
        fun ts h => (hassign ts h).2).and_bind fun e he => ?_
      exact .pure fun ts h => Or.inl ⟨⟨hname, he⟩, h⟩
    · refine (keeps_expect _).bind fun _ => .pure fun ts h => ?_
      exact Or.inl ⟨⟨(hassign ts h).1, rfl⟩, Or.inl (hassign ts h).2⟩
    · exact .pure fun ts h => h.imp_left fun h => ⟨⟨h.1, rfl⟩, Or.inl h.2⟩
  refine (Keeps.commaList (by decide) (by decide) hitem).and_bind fun items hitems =>
    .pure fun ts h => ⟨?_, h⟩
  simp only [List.all_eq_true, List.forall_mem_map, List.mem_filterMap]
  refine ⟨fun a ha => (hitems a ha).1, ?_⟩
  rintro e ⟨a, ha, he⟩
  have hdefault := (hitems a ha).2
  rw [he] at hdefault
  exact hdefault

section Keywords

/-! What is known behind keywords that may be skipped. -/

variable {q : List Token → Prop} (hq : ∀ (k : Keyword) (ts : List Token), q (k.token :: ts) → q ts)

include hq

theorem keeps_skipKeyword (k : Keyword) : Keeps q (skipKeyword k) fun _ => q :=
  (keeps_skip _).weaken fun skipped ts h => by
    cases skipped with
    | true => exact hq k ts h
    | false => exact h.1

theorem keeps_skipContext : Keeps q skipContext fun _ => q := by
  have hcontext (found : Bool) : Keeps q (do
      if found then expectKeyword .kContext
      return found) fun _ => q := by
    refine Keeps.when_bind (fun _ => ?_) (fun _ ts h => h) (.pure fun ts h => h)
    exact (keeps_expect _).weaken fun _ ts h => hq _ ts h
  refine (keeps_skipKeyword hq _).bind fun found => .ite (fun _ => ?_) fun _ => ?_
  · exact .pure_bind (hcontext true)
  · exact (keeps_skipKeyword hq _).bind hcontext

end Keywords

theorem mentionsOnly_of_keyword (k : Keyword) (ts : List Token)
    (h : MentionsOnly p (k.token :: ts)) : MentionsOnly p ts := h.tail (by simp)

theorem behindKey_of_keyword (k : Keyword) (ts : List Token)
    (h : BehindKey p (k.token :: ts)) : BehindKey p ts := Or.inl (h.tail (by simp) (by simp))

/-! ## Bodies -/

/-- What is left behind a token that may be taken at the end of a body. -/
theorem behindKey_of_behind {l : Option Lexeme} (h : Behind (MentionsOnly p) l ts) :
    BehindKey p ts := by
  cases l with
  | none => exact Or.inl h.2
  | some l => exact MentionsOnly.behindKey h

theorem keeps_blockEnd : Keeps (BehindKey p) (expect .statementEnd) fun _ => MentionsOnly p :=
  (keeps_expect _).weaken fun _ _ h => h.tail (by simp) (by simp)

/-- A parser of statements. -/
def ReadsStatement (p : Text → Bool) (x : Parser Stmt) : Prop :=
  Keeps (MentionsOnly p) x fun s ts => s.all (.trusted p) = true ∧ BehindKey p ts

theorem Stmt.allOf_append (t : Tests) (body body' : List Stmt) :
    Stmt.allOf t (body ++ body') = (Stmt.allOf t body && Stmt.allOf t body') := by
  induction body with
  | nil => rfl
  | cons s body ih => rw [List.cons_append, Stmt.allOf, ih, Stmt.allOf, Bool.and_assoc]

section Bodies

variable {stmt : Parser Stmt} (hstmt : ReadsStatement p stmt)

include hstmt

theorem keeps_bodyUntil (n : Nat) (isEnd : Token → Bool) :
    Keeps (MentionsOnly p) (bodyUntil stmt n isEnd) fun body ts =>
      Stmt.allOf (.trusted p) body = true ∧ MentionsOnly p ts := by
  -- A body that no block ends is read to the end of the tokens.
  let read (m : Nat) (r : List Stmt × Bool) (ts : List Token) : Prop :=
    Stmt.allOf (.trusted p) r.1 = true ∧ MentionsOnly p ts ∧ (r.2 = true ∨ ts.length ≤ m)
  refine Keeps.bind ((Keeps.iterate_counted (q := read) (fun m r => ?_) ([], false)).strengthen
    fun ts h => ⟨rfl, h, Or.inr (Nat.le_refl _)⟩) fun r => ?_
  · obtain ⟨body, closed⟩ := r
    cases closed with
    | true => exact .pure fun ts h => ⟨h.1, h.2.1, Or.inl rfl⟩
    | false =>
      refine .assume (fun ts h => h.1) fun hbody => ?_
      have hmore {s : Stmt} (hs : s.all (.trusted p) = true) :
          Stmt.allOf (.trusted p) (body ++ [s]) = true := by
        rw [Stmt.allOf_append, hbody, Stmt.allOf, hs, Stmt.allOf]
        rfl
      have htail {t : Token} (ht : ∀ v, t ≠ .string v) (ts : List Token)
          (h : read (m + 1) (body, false) (t :: ts)) : MentionsOnly p ts ∧ ts.length ≤ m :=
        ⟨h.2.1.tail ht, Nat.le_of_succ_le_succ (h.2.2.resolve_left (by simp))⟩
      refine keeps_take.bind fun l => ?_
      split
      · exact .pure fun ts h => ⟨hbody, h.2.2.1, Or.inl rfl⟩
      · exact .pure fun ts h => ⟨hmore rfl, (htail (t := .data _) (by simp) ts h).imp_right Or.inr⟩
      · refine (((readsTrusted_expression n).plain.within m).strengthen
          (htail (t := .expressionStart) (by simp))).bind fun e => ?_
        refine (keeps_expect _).bind fun _ => .pure fun ts h => ?_
        exact ⟨hmore h.1.1, h.1.2.tail (by simp) (by simp), Or.inr (Nat.le_of_succ_le h.2)⟩
      · refine (keeps_peek.strengthen (htail (t := .statementStart) (by simp))).bind fun next => ?_
        cases next with
        | none => exact .fail
        | some t =>
          refine .ite (fun _ => .pure fun ts h => ⟨hbody, h.2.1, Or.inl rfl⟩) fun _ => ?_
          refine ((hstmt.within m).strengthen fun ts h => h.2).bind fun s => ?_
          refine (keeps_expect _).bind fun _ => .pure fun ts h => ?_
          exact ⟨hmore h.1.1, h.1.2.tail (by simp) (by simp), Or.inr (Nat.le_of_succ_le h.2)⟩
      · exact .fail
  · obtain ⟨body, closed⟩ := r
    refine .assume (fun ts h => h.1) fun hbody => ?_
    cases closed with
    | true => exact .pure fun ts h => ⟨hbody, h.2.1⟩
    | false =>
      refine keeps_take.bind fun l => .pure fun ts h => ⟨hbody, ?_⟩
      cases l with
      | none => exact h.2.2.1
      | some l => exact absurd (h.2.2.resolve_left (by simp)) (Nat.not_succ_le_zero _)

theorem keeps_bodyThrough (n : Nat) (stop : Keyword) :
    Keeps (BehindKey p) (bodyThrough stmt n stop) fun body ts =>
      Stmt.allOf (.trusted p) body = true ∧ BehindKey p ts := by
  refine keeps_blockEnd.bind fun _ => ?_
  refine (keeps_bodyUntil hstmt n _).and_bind fun body hbody => keeps_take.bind fun l => ?_
  exact .pure fun ts h => ⟨hbody, behindKey_of_behind h⟩

/-! ## Statements -/

theorem readsStatement_ifStatement (n k : Nat) : ReadsStatement p (ifStatement stmt n k) := by
  induction k with
  | zero => exact .fail
  | succ k ih =>
    refine (readsTrusted_operandAt n).plain.and_bind fun test htest => ?_
    refine keeps_blockEnd.bind fun _ => ?_
    refine (keeps_bodyUntil hstmt n _).and_bind fun yes hyes => keeps_take.bind fun l => ?_
    have hdone {no : List Stmt} (hno : Stmt.allOf (.trusted p) no = true) :
        (Stmt.ifElse test yes no).all (.trusted p) = true := by
      rw [Stmt.all, hyes, hno]
      simpa [Tests.trusted] using htest
    cases l with
    | none => exact .pure fun ts h => ⟨hdone rfl, Or.inl h.2⟩
    | some l =>
      refine .ite (fun _ => ?_) fun _ => .ite (fun helif => ?_) fun _ => ?_
      · refine ((keeps_bodyThrough hstmt n _).strengthen fun ts h => ?_).and_bind fun no hno => ?_
        · exact MentionsOnly.behindKey h
        · exact .pure fun ts h => ⟨hdone hno, h⟩
      · refine Keeps.and_bind (ih.strengthen fun ts h => ?_) fun s hs => .pure fun ts h => ?_
        · have hnext : MentionsOnly p (Keyword.kElif.token :: ts) := helif ▸ id h
          exact hnext.tail (by simp)
        · exact ⟨hdone (by rw [Stmt.allOf, hs]; rfl), h⟩
      · exact .pure fun ts h => ⟨hdone rfl, MentionsOnly.behindKey h⟩

omit hstmt in
/-- A condition that may be left out. -/
theorem keeps_conditionIfAny {α : Type} {post : α → List Token → Prop} (n : Nat) (k : Keyword)
    {g : Option Expr → Parser α}
    (hg : ∀ e, e.all (Expr.isTrusted p) = true → Keeps (BehindKey p) (g e) post) :
    Keeps (BehindKey p) (skipKeyword k >>= fun found =>
      if found = true then some <$> expression n >>= g else pure none >>= g) post := by
  refine .skip_ite ?_ (.pure_bind (hg none rfl))
  exact .map_and_bind some ((readsTrusted_expression n).plain.strengthen
    fun ts h => h.tail (by simp) (by simp)) fun e he => hg (some e) he

/-- A second body that may be left out. -/
theorem keeps_bodyIfAny {α : Type} {post : α → List Token → Prop} (n : Nat) (k : Keyword)
    (ends : List Keyword) {g : List Stmt → Parser α}
    (hg : ∀ body, Stmt.allOf (.trusted p) body = true → Keeps (MentionsOnly p) (g body) post) :
    Keeps (MentionsOnly p) (skipKeyword k >>= fun found =>
      if found = true then expect .statementEnd >>= fun _ => bodyUpTo stmt n ends >>= g
      else pure [] >>= g) post := by
  refine .skip_ite ?_ (.pure_bind (hg [] rfl))
  refine (keeps_blockEnd.strengthen fun ts h => MentionsOnly.behindKey h).bind fun _ => ?_
  exact (keeps_bodyUntil hstmt n _).and_bind hg

theorem readsStatement_forStatement (n : Nat) : ReadsStatement p (forStatement stmt n) := by
  refine (keeps_assignment false).and_bind fun target htarget => ?_
  refine ((keeps_expect _).weaken fun _ ts h => h.tail (by simp)).bind fun _ => ?_
  refine (readsTrusted_operandAt n).plain.and_bind fun items hitems => ?_
  refine keeps_conditionIfAny n _ fun condition hcondition => ?_
  refine (keeps_skipKeyword behindKey_of_keyword _).bind fun recursive => ?_
  refine keeps_blockEnd.bind fun _ => ?_
  refine (keeps_bodyUntil hstmt n _).and_bind fun body hbody => ?_
  refine keeps_bodyIfAny hstmt n _ _ fun otherwise hotherwise => keeps_take.bind fun l => ?_
  refine .pure fun ts h => ⟨?_, behindKey_of_behind h⟩
  rw [Stmt.all, htarget, hbody, hotherwise]
  simpa [Tests.trusted] using And.intro hitems hcondition

theorem readsStatement_setStatement (n : Nat) : ReadsStatement p (setStatement stmt n) := by
  refine (keeps_assignment true).and_bind fun target htarget => keeps_peek.bind fun next => ?_
  refine .ite (fun _ => ?_) fun _ => ?_
  · have hdone {filters : List FilterCall}
        (hfilters : allFilters (Expr.isTrusted p) filters = true) : Keeps (MentionsOnly p)
          (do return Stmt.setBlock target filters (← bodyThrough stmt n .kEndset))
          fun s ts => s.all (.trusted p) = true ∧ BehindKey p ts := by
      refine ((keeps_bodyThrough hstmt n _).strengthen fun ts h => Or.inl h).and_bind
        fun body hbody => .pure fun ts h => ⟨?_, h⟩
      rw [Stmt.all, htarget, hbody]
      simpa [Tests.trusted] using hfilters
    refine .skip_ite ?_ (.pure_bind ((hdone rfl).strengthen fun ts h => h.2))
    exact ((keeps_filterChain n).strengthen fun ts h => h.2.tail (by simp)).and_bind
      fun filters hfilters => hdone hfilters
  · refine (keeps_expect _).bind fun _ => ?_
    refine ((keeps_assignedValue n).strengthen fun ts h => h.2.tail (by simp)).and_bind
      fun e he => ?_
    refine .pure fun ts h => ⟨?_, h⟩
    rw [Stmt.all, htarget]
    exact he

omit hstmt in
/-- The assignments of a statement that makes them for one body. -/
theorem keeps_assignments (n : Nat) : Keeps (MentionsOnly p) (iterate (fun assignments => do
      if ← isNext .statementEnd then return none
      if !assignments.isEmpty then expectSymbol .comma
      let target ← if ← skipSymbol .openParen then do
          let t ← assignment false
          expectSymbol .closeParen
          pure t
        else Target.var <$> assignedName
      expectSymbol .assign
      return some (assignments ++ [(target, ← expression n)])) []) fun assignments ts =>
    (∀ a ∈ assignments, a.1.all (.trusted p) = true ∧ a.2.isTrusted p = true) ∧
      BehindKey p ts := by
  let read (assignments : List (Target × Expr)) (ts : List Token) : Prop :=
    (∀ a ∈ assignments, a.1.all (.trusted p) = true ∧ a.2.isTrusted p = true) ∧
      BehindKey p ts ∧ (assignments = [] → MentionsOnly p ts)
  refine ((Keeps.iterate (q := read) (fun assignments => ?_) []).weaken
    fun _ _ h => ⟨h.1, h.2.1⟩).strengthen fun ts h => ⟨(by simp), Or.inl h, fun _ => h⟩
  refine (keeps_isNext _).bind fun ends => .ite (fun _ => .pure fun ts h => h.2) fun _ => ?_
  refine .assume (fun ts h => h.2.1) fun hassignments => ?_
  have hvalue (target : Target) : Keeps (fun ts => (target.all (.trusted p) = true ∧
      MentionsOnly p ts) ∨ ts.head? = some (.symbol .openParen)) (do
        expectSymbol .assign
        return some (assignments ++ [(target, ← expression n)]))
      fun r => read (r.getD assignments) := by
    have hassign : Keeps (fun ts => (target.all (.trusted p) = true ∧ MentionsOnly p ts) ∨
        ts.head? = some (.symbol .openParen)) (expectSymbol .assign) fun _ ts =>
          target.all (.trusted p) = true ∧ MentionsOnly p ts :=
      (keeps_expect _).weaken fun _ ts h => h.elim (fun h => ⟨h.1, h.2.tail (by simp)⟩) (by simp)
    refine hassign.and_bind fun _ htarget => ?_
    refine (readsTrusted_expression n).plain.and_bind fun e he => ?_
    refine .pure fun ts h => ⟨List.forall_mem_append.2 ⟨hassignments, ?_⟩, h, ?_⟩
    · simpa using And.intro htarget he
    · simp
  refine Keeps.when_bind (q := AtValue p) (fun _ => ?_) (fun hfirst ts h => ?_) ?_
  · exact (keeps_expect _).weaken fun _ ts h => h.2.2.1.atValue
  · exact Or.inl (h.2.2.2 (by simpa using hfirst))
  have htail (ts : List Token) (h : AtValue p (.symbol .openParen :: ts)) : MentionsOnly p ts :=
    (h.mentionsOnly (by simp)).tail (by simp)
  refine .skip_ite (((keeps_assignment false).strengthen htail).bind fun target => ?_) ?_
  · refine (keeps_expect _).bind fun _ => .pure_bind ((hvalue target).strengthen fun ts h => ?_)
    exact Or.inl ⟨h.1, h.2.tail (by simp)⟩
  · exact .map_bind Target.var keeps_nameAtValue fun name => hvalue (.var name)

theorem readsStatement_withStatement (n : Nat) : ReadsStatement p (withStatement stmt n) := by
  refine (keeps_assignments n).and_bind fun assignments hassignments => ?_
  refine (keeps_bodyThrough hstmt n _).and_bind fun body hbody => .pure fun ts h => ⟨?_, h⟩
  rw [Stmt.all, hbody, Bool.and_true, List.all_eq_true]
  exact fun a ha => Bool.and_eq_true_iff.2 (hassignments a ha)

theorem readsStatement_blockStatement (n : Nat) : ReadsStatement p (blockStatement stmt n) := by
  refine keeps_lastLine.bind fun line => keeps_get.bind fun s => .ite (fun _ => .fail) fun _ => ?_
  refine keeps_ident.and_bind fun name _ => ?_
  refine keeps_get.bind fun s' => .ite (fun _ => .fail) fun _ => ?_
  refine (keeps_modify (by exact fun _ => rfl)).bind fun _ => ?_
  refine (keeps_skipKeyword mentionsOnly_of_keyword _).bind fun _ => ?_
  refine (keeps_skipKeyword mentionsOnly_of_keyword _).bind fun required => ?_
  refine ((keeps_bodyThrough hstmt n _).strengthen fun ts h => Or.inl h).and_bind
    fun body hbody => .ite (fun _ => .fail) fun _ => ?_
  refine keeps_peek.bind fun next => ?_
  split
  · refine .ite (fun _ => ?_) fun _ => .fail
    exact keeps_take_peeked.bind fun _ => .pure fun ts h =>
      ⟨hbody, Or.inl (h.tail (by simp) (by simp))⟩
  · exact .pure fun ts h => ⟨hbody, h.2⟩

omit hstmt in
theorem readsStatement_includeStatement (n : Nat) : ReadsStatement p (includeStatement n) := by
  refine (readsTrusted_expression n).plain.and_bind fun name hname => ?_
  refine (keeps_skipContext behindKey_of_keyword).bind fun _ => ?_
  refine (keeps_skipKeyword behindKey_of_keyword _).bind fun ignoreMissing =>
    .ite (fun _ => ?_) fun _ => ?_
  · refine ((keeps_expect _).weaken fun _ => behindKey_of_keyword _).bind fun _ => ?_
    exact (keeps_skipContext behindKey_of_keyword).bind fun _ => .pure fun ts h => ⟨hname, h⟩
  · exact .pure fun ts h => ⟨hname, h⟩

omit hstmt in
theorem readsStatement_fromStatement (n : Nat) : ReadsStatement p (fromStatement n) := by
  refine (readsTrusted_expression n).plain.and_bind fun name hname => ?_
  refine ((keeps_expect _).weaken fun _ ts h => h.tail (by simp) (by simp)).bind fun _ => ?_
  let read (names : List (Text × Option Text)) (ts : List Token) : Prop :=
    (∀ x ∈ names, (x.1 != deferredName) = true ∧ (x.2.getD x.1 != deferredName) = true) ∧
      MentionsOnly p ts
  refine Keeps.and_bind ((Keeps.iterate (q := read) (fun names => ?_) []).strengthen
    fun ts h => ⟨(by simp), h⟩) fun names hnames => .pure fun ts h => ⟨?_, Or.inl h⟩
  · refine (keeps_isNext _).bind fun ends => .ite (fun _ => .pure fun ts h => h.2) fun _ => ?_
    refine .assume (fun ts h => h.2.1) fun hnames => ?_
    have hcontext {g : Parser (Option (List (Text × Option Text)))}
        (hg : Keeps (MentionsOnly p) g fun r => read (r.getD names)) : Keeps (MentionsOnly p)
        (do if ← skipContext then return none else g) fun r => read (r.getD names) :=
      (keeps_skipContext mentionsOnly_of_keyword).bind fun found =>
        .ite (fun _ => .pure fun ts h => ⟨hnames, h⟩) fun _ => hg
    have hname : Keeps (MentionsOnly p) (do
        let name ← assignedName
        let renamed ← if ← skipKeyword .kAs then some <$> assignedName else pure none
        return some (names ++ [(name, renamed)])) fun r => read (r.getD names) := by
      refine keeps_assignedName.and_bind fun name hname => ?_
      have hdone (renamed : Option Text) (hrenamed : (renamed.getD name != deferredName) = true) :
          Keeps (MentionsOnly p) (return some (names ++ [(name, renamed)]))
            fun r => read (r.getD names) :=
        .pure fun ts h =>
          ⟨List.forall_mem_append.2 ⟨hnames, by simpa using And.intro hname hrenamed⟩, h⟩
      refine .skip_ite ?_ (.pure_bind (hdone none hname))
      exact .map_and_bind some (keeps_assignedName.strengthen (mentionsOnly_of_keyword _))
        fun renamed hrenamed => hdone (some renamed) hrenamed
    refine (hcontext (.ite (fun _ => ?_) fun _ => hname)).strengthen fun ts h => h.2.2
    refine ((keeps_expect _).weaken fun _ ts h => h.tail (by simp)).bind fun _ => ?_
    refine (keeps_isNext _).bind fun ends => .ite (fun _ => ?_) fun _ => ?_
    · exact .pure fun ts h => ⟨hnames, h.2⟩
    · exact (hcontext hname).strengthen fun ts h => h.2
  · refine Bool.and_eq_true_iff.2 ⟨hname, List.all_eq_true.2 fun x hx => ?_⟩
    exact Bool.and_eq_true_iff.2 (hnames x hx)

theorem keeps_macroBody (n : Nat) (stop : Keyword) : Keeps (BehindKey p) (macroBody stmt n stop)
    fun body ts => Stmt.allOf (.trusted p) body = true ∧ BehindKey p ts := by
  refine keeps_get.bind fun s => (keeps_modify (by exact fun _ => rfl)).bind fun _ => ?_
  refine (keeps_bodyThrough hstmt n _).and_bind fun body hbody => ?_
  exact (keeps_modify (by exact fun _ => rfl)).bind fun _ => .pure fun ts h => ⟨hbody, h⟩

theorem readsStatement_macroStatement (n : Nat) : ReadsStatement p (macroStatement stmt n) := by
  refine keeps_ident.and_bind fun name hname => ?_
  refine ((keeps_expect _).weaken fun _ ts h => h.tail (by simp)).bind fun _ => ?_
  refine (keeps_parameters n).and_bind fun r hr => ?_
  refine ((keeps_macroBody hstmt n _).strengthen fun ts h => Or.inl h).and_bind fun body hbody => ?_
  refine .pure fun ts h => ⟨?_, h⟩
  exact Bool.and_eq_true_iff.2 ⟨Bool.and_eq_true_iff.2
    ⟨Bool.and_eq_true_iff.2 ⟨hname, hr.1⟩, hr.2⟩, hbody⟩

/-- A call and the body that is passed to it. -/
theorem readsStatement_callBody (n : Nat) {params : List Text} {defaults : List Expr}
    (hparams : params.all (· != deferredName) = true ∧ defaults.all (Expr.isTrusted p) = true) :
    ReadsStatement p (do
      let call ← expression n
      match call with
      | .call _ _ => return Stmt.callBlock call params defaults (← macroBody stmt n .kEndcall)
      | _ => fail) := by
  refine Keeps.and_bind (readsTrusted_expression n .plain) fun call hcall => ?_
  split
  · refine (keeps_macroBody hstmt n _).and_bind fun body hbody => .pure fun ts h => ⟨?_, h⟩
    exact Bool.and_eq_true_iff.2 ⟨Bool.and_eq_true_iff.2
      ⟨Bool.and_eq_true_iff.2 ⟨hcall, hparams.1⟩, hparams.2⟩, hbody⟩
  · exact .fail

theorem readsStatement_callStatement (n : Nat) : ReadsStatement p (callStatement stmt n) := by
  have hnone : [].all (· != deferredName) = true ∧ [].all (Expr.isTrusted p) = true := ⟨rfl, rfl⟩
  refine .skip_ite ?_ (.pure_bind (readsStatement_callBody hstmt n hnone))
  exact ((keeps_parameters n).strengthen fun ts h => h.tail (by simp)).and_bind fun r hr =>
    readsStatement_callBody hstmt n hr

omit hstmt in
theorem readsStatement_doStatement (n : Nat) : ReadsStatement p (doStatement n) := by
  refine (readsTrusted_expression n).plain.and_bind fun call hcall => ?_
  split
  · exact .pure fun ts h => ⟨hcall, h⟩
  · exact .fail

omit hstmt in
theorem readsStatement_importStatement (n : Nat) : ReadsStatement p (do
    let name ← expression n
    expectKeyword .kAs
    let target ← expression n
    let _ ← skipContext
    return .importAs name target) := by
  refine (readsTrusted_expression n).plain.and_bind fun name hname => ?_
  refine ((keeps_expect _).weaken fun _ ts h => h.tail (by simp) (by simp)).bind fun _ => ?_
  refine (readsTrusted_expression n).plain.and_bind fun target htarget => ?_
  refine (keeps_skipContext behindKey_of_keyword).bind fun _ => .pure fun ts h => ⟨?_, h⟩
  exact Bool.and_eq_true_iff.2 ⟨hname, Expr.all_target?_of_isTrusted htarget⟩

theorem readsStatement_statementOf (n : Nat) (word : Text) :
    ReadsStatement p (statementOf stmt n word) := by
  refine .ite (fun _ => readsStatement_forStatement hstmt n) fun _ => ?_
  refine .ite (fun _ => ?_) fun _ => ?_
  · refine keeps_remaining.bind fun m => ?_
    exact Keeps.strengthen (readsStatement_ifStatement hstmt n _) fun ts h => h.2
  refine .ite (fun _ => readsStatement_withStatement hstmt n) fun _ => ?_
  refine .ite (fun _ => readsStatement_setStatement hstmt n) fun _ => ?_
  refine .ite (fun _ => ?_) fun _ => ?_
  · refine (readsTrusted_expression n).plain.and_bind fun e he => ?_
    refine (keeps_bodyThrough hstmt n _).and_bind fun body hbody => .pure fun ts h => ⟨?_, h⟩
    exact Bool.and_eq_true_iff.2 ⟨he, hbody⟩
  refine .ite (fun _ => ?_) fun _ => ?_
  · refine (keeps_filterChain n).and_bind fun filters hfilters => ?_
    refine ((keeps_bodyThrough hstmt n _).strengthen fun ts h => Or.inl h).and_bind
      fun body hbody => ?_
    exact .pure fun ts h => ⟨Bool.and_eq_true_iff.2 ⟨hfilters, hbody⟩, h⟩
  refine .ite (fun _ => readsStatement_blockStatement hstmt n) fun _ => ?_
  refine .ite (fun _ => ?_) fun _ => ?_
  · exact (readsTrusted_expression n).plain.and_bind fun e he => .pure fun ts h => ⟨he, h⟩
  refine .ite (fun _ => readsStatement_includeStatement n) fun _ => ?_
  refine .ite (fun _ => readsStatement_importStatement n) fun _ => ?_
  refine .ite (fun _ => readsStatement_fromStatement n) fun _ => ?_
  refine .ite (fun _ => readsStatement_macroStatement hstmt n) fun _ => ?_
  refine .ite (fun _ => readsStatement_callStatement hstmt n) fun _ => ?_
  exact .ite (fun _ => readsStatement_doStatement n) fun _ => .fail

end Bodies

/-! ## Templates -/

theorem readsStatement_statement (n : Nat) : ReadsStatement p (statement n) := by
  induction n with
  | zero => exact .fail
  | succ n ih => exact keeps_ident.and_bind fun r _ => readsStatement_statementOf ih n r.1

/-- **A template is trusted** if its tokens mention the function for slot sources only as the
value of an entry, with a text that passes the test. -/
theorem Stmt.allOf_of_mentionsOnly {source : Text} {body : List Stmt}
    (h : mentionsOnly p ((lex source).lexemes.map Lexeme.token) = true)
    (hparse : Template.parse source = .ok body) : Stmt.allOf (.trusted p) body = true := by
  rw [Template.parse, parseLexemes] at hparse
  cases hrun : template.run ⟨(lex source).lexemes, 0, (lex source).fault, [], false⟩ with
  | error fault =>
    rw [hrun] at hparse
    cases hparse
  | ok r =>
    rw [hrun] at hparse
    cases hparse
    have htemplate : Keeps (MentionsOnly p) template fun body ts =>
        Stmt.allOf (.trusted p) body = true ∧ MentionsOnly p ts :=
      keeps_bodyUntil (readsStatement_statement _) _ _
    exact (htemplate _ _ _ hrun (.of_mentionsOnly h)).1.1

end Componentry.Template
