import Componentry.Proofs.Provenance.Tokens

/-! # Parsing such tokens gives trusted code

If tokens mention the function for slot sources only as `MentionsOnly` allows, then what they
are parsed to is trusted (`Stmt.allOf_of_mentionsOnly`).  For each parser it is shown what it
keeps; the parser of an expression is looked at from three places (`Place`), since one that is
the value of an entry may be a slot source, and since the argument of a slot source has to be
read as what it is.
-/
namespace Componentry.Template

open Parser

variable {p : Text → Bool}

/-! ## Places -/

/-- Where an expression is read. -/
inductive Place where
  /-- Where no slot source stands. -/
  | plain
  /-- Behind a comma, where one may stand. -/
  | value
  /-- As the argument of the function that makes it. -/
  | argument (source : Text) (rest : List Token)

namespace Expr

theorem isTrusted_of_callParts {e : Expr} (h : e.callParts (isTrusted p) = true) :
    e.isTrusted p = true := by
  cases e with
  | call f arguments =>
    simp only [callParts, Bool.and_eq_true] at h
    cases f with
    | var name line =>
      have hname : (name != deferredName) = true := h.1
      simp [isTrusted, argumentsTrusted_eq, h.2, hname]
    | _ => simpa [isTrusted, argumentsTrusted_eq, called] using h
  | _ => exact h

theorem callParts_call {f : Expr} {arguments : List (ArgumentKind × Expr)}
    (hf : f.isTrusted p = true) (ha : ∀ a ∈ arguments, a.2.isTrusted p = true) :
    (call f arguments).callParts (isTrusted p) = true := by
  rw [callParts, Bool.and_eq_true, List.all_eq_true]
  refine ⟨?_, ha⟩
  cases f <;> exact hf

end Expr

namespace Place

/-- What is known of the tokens where an expression is read. -/
def Pre (p : Text → Bool) : Place → List Token → Prop
  | plain, ts => MentionsOnly p ts
  | value, ts => AtValue p ts
  | argument source rest, ts => ts = .string source :: .symbol .closeParen :: rest

/-- What is known of an expression and of the tokens behind it.  Where no slot source stands it
is none, so that it could be called with more arguments. -/
def Post (p : Text → Bool) : Place → Expr → List Token → Prop
  | plain, e, ts => e.callParts (Expr.isTrusted p) = true ∧ BehindKey p ts
  | value, e, ts => e.isTrusted p = true ∧ BehindKey p ts
  | argument source rest, e, ts =>
    (∃ line, e = .const (.string source) line) ∧ ts = .symbol .closeParen :: rest

variable {place : Place} {t : Token} {ts : List Token} {e : Expr}

/-- What is known elsewhere follows from what is known where no slot source stands. -/
def IsOpen (p : Text → Bool) (place : Place) : Prop :=
  ∀ e ts, plain.Post p e ts → place.Post p e ts

theorem isOpen_plain : plain.IsOpen p := fun _ _ h => h

theorem isOpen_value : value.IsOpen p := fun _ _ h => ⟨Expr.isTrusted_of_callParts h.1, h.2⟩

/-- Behind a token that neither is a text nor makes a slot source no slot source stands. -/
theorem Pre.tail (h : place.Pre p (t :: ts)) (hname : t ≠ .ident deferredName)
    (hstring : ∀ v, t ≠ .string v) : MentionsOnly p ts ∧ place.IsOpen p := by
  cases place with
  | plain => exact ⟨MentionsOnly.tail h hstring, isOpen_plain⟩
  | value => exact ⟨(AtValue.mentionsOnly h hname).tail hstring, isOpen_value⟩
  | argument source rest => exact absurd (List.cons.inj h).1 (hstring source)

/-- Nor does one where an expression goes on. -/
theorem Post.goesOn (h : place.Post p e (t :: ts)) (hcomma : t ≠ .symbol .comma)
    (hclose : t ≠ .symbol .closeParen) :
    e.isTrusted p = true ∧ MentionsOnly p (t :: ts) ∧ place.IsOpen p := by
  cases place with
  | plain => exact ⟨Expr.isTrusted_of_callParts h.1, h.2.mentionsOnly hcomma, isOpen_plain⟩
  | value => exact ⟨h.1, h.2.mentionsOnly hcomma, isOpen_value⟩
  | argument source rest => exact absurd (List.cons.inj h.2).1 hclose

end Place

/-- A parser of expressions that takes a slot source for what it is. -/
def ReadsTrusted (p : Text → Bool) (x : Parser Expr) : Prop :=
  ∀ place : Place, Keeps (place.Pre p) x (place.Post p)

theorem readsTrusted_fail : ReadsTrusted p fail := fun _ => .fail

/-- Whether a token may go on with an expression, and is no text. -/
def Token.continues : Token → Bool
  | .string _ | .symbol .comma | .symbol .closeParen => false
  | _ => true

namespace Token

variable {t : Token}

theorem ne_of_continues {u : Token} (h : t.continues = true) (hu : u.continues = false) :
    t ≠ u := by
  rintro rfl
  rw [h] at hu
  cases hu

theorem ne_string_of_continues (h : t.continues = true) (v : Text) : t ≠ .string v :=
  ne_of_continues h rfl

theorem continues_of_sumOperator? {op : BinaryOp} (h : sumOperator? t = some op) :
    t.continues = true := by
  unfold sumOperator? at h
  split at h <;> first | rfl | cases h

theorem continues_of_concatOperator? {op : BinaryOp} (h : concatOperator? t = some op) :
    t.continues = true := by
  unfold concatOperator? at h
  split at h <;> first | rfl | cases h

theorem continues_of_productOperator? {op : BinaryOp} (h : productOperator? t = some op) :
    t.continues = true := by
  unfold productOperator? at h
  split at h <;> first | rfl | cases h

theorem continues_of_powerOperator? {op : BinaryOp} (h : powerOperator? t = some op) :
    t.continues = true := by
  unfold powerOperator? at h
  split at h <;> first | rfl | cases h

theorem continues_of_orOperator? {op : BinaryOp} (h : orOperator? t = some op) :
    t.continues = true := by
  unfold orOperator? at h
  split at h
  · subst t; rfl
  · cases h

theorem continues_of_andOperator? {op : BinaryOp} (h : andOperator? t = some op) :
    t.continues = true := by
  unfold andOperator? at h
  split at h
  · subst t; rfl
  · cases h

theorem continues_of_compareOperator? {op : CompareOp} (h : compareOperator? t = some op) :
    t.continues = true := by
  unfold compareOperator? at h
  split at h <;> first | rfl | skip
  split at h
  · subst t; rfl
  · cases h

end Token

/-- Behind an expression and a token that goes on with it no slot source stands. -/
theorem Parser.Keeps.behind {α : Type} {place : Place} {e : Expr} {t : Token}
    (ht : t.continues = true) {x : Parser α} {post : α → List Token → Prop}
    (h : e.isTrusted p = true → place.IsOpen p → Keeps (MentionsOnly p) x post) :
    Keeps (fun ts => place.Post p e (t :: ts)) x post := by
  have hgoesOn (ts : List Token) (hts : place.Post p e (t :: ts)) :
      (e.isTrusted p = true ∧ place.IsOpen p) ∧ MentionsOnly p ts := by
    obtain ⟨he, hmentions, hopen⟩ :=
      hts.goesOn (Token.ne_of_continues ht rfl) (Token.ne_of_continues ht rfl)
    exact ⟨⟨he, hopen⟩, hmentions.tail (Token.ne_string_of_continues ht)⟩
  refine .assume (fun ts hts => (hgoesOn ts hts).1) fun hgood => ?_
  exact (h hgood.1 hgood.2).strengthen fun ts hts => (hgoesOn ts hts).2

/-- Behind a token that is neither a comma nor a key no slot source stands. -/
theorem BehindKey.tail {t : Token} {ts : List Token} (h : BehindKey p (t :: ts))
    (hcomma : t ≠ .symbol .comma) (hstring : ∀ v, t ≠ .string v) : MentionsOnly p ts :=
  (h.mentionsOnly hcomma).tail hstring

namespace ReadsTrusted

variable {operand : Parser Expr}

theorem plain (h : ReadsTrusted p operand) : Keeps (MentionsOnly p) operand fun e ts =>
    e.isTrusted p = true ∧ BehindKey p ts :=
  Keeps.weaken (h .plain) fun _ _ he => ⟨Expr.isTrusted_of_callParts he.1, he.2⟩

theorem value (h : ReadsTrusted p operand) : Keeps (AtValue p) operand fun e ts =>
    e.isTrusted p = true ∧ BehindKey p ts := h .value

/-! ## Operators -/

theorem leftChain {operator? : Token → Option BinaryOp} (h : ReadsTrusted p operand)
    (hoperator : ∀ t op, operator? t = some op → t.continues = true) :
    ReadsTrusted p (leftChain operator? operand) := by
  refine fun place => keeps_nextLine.bind fun line => (h place).bind fun first => ?_
  refine Keeps.iterate (q := place.Post p) (fun left => keeps_peek.bind fun next => ?_) first
  cases hop : next.bind operator? with
  | none => exact .pure fun ts h => h.2
  | some op =>
    obtain ⟨t, rfl, ht⟩ := Option.bind_eq_some_iff.1 hop
    refine keeps_take_peeked.bind fun _ => .behind (hoperator t op ht) fun hleft hopen => ?_
    refine h.plain.bind fun right => .pure fun ts hright => hopen _ _ ⟨?_, hright.2⟩
    simp [Expr.callParts, Expr.isTrusted, hleft, hright.1]

theorem keeps_compareOperator {place : Place} {e : Expr} :
    Keeps (place.Post p e) compareOperator fun op ts =>
      if op.isSome then e.isTrusted p = true ∧ place.IsOpen p ∧ MentionsOnly p ts
      else place.Post p e ts := by
  refine keeps_peek.bind fun next => ?_
  cases next with
  | none => exact .pure fun ts h => h.2
  | some t =>
    refine .ite (fun ht => ?_) fun _ => ?_
    · subst ht
      refine keeps_take_peeked.bind fun _ => .behind rfl fun he hopen => ?_
      refine (keeps_expect _).bind fun _ => .pure fun ts h => ⟨he, hopen, ?_⟩
      exact h.tail (Token.ne_string_of_continues rfl)
    · cases hop : compareOperator? t with
      | none => exact .pure fun ts h => h.2
      | some op =>
        refine keeps_take_peeked.bind fun _ =>
          .behind (Token.continues_of_compareOperator? hop) fun he hopen => ?_
        exact .pure fun ts h => ⟨he, hopen, h⟩

theorem comparison (h : ReadsTrusted p operand) : ReadsTrusted p (comparison operand) := by
  refine fun place => keeps_lastLine.bind fun line => (h place).bind fun first => ?_
  -- What has been read so far is the comparison that would be returned.
  let read (rest : List (CompareOp × Expr)) : Expr :=
    if rest.isEmpty then first else .compare first rest line
  have hread (rest : List (CompareOp × Expr)) : (read rest).isTrusted p = true ↔
      first.isTrusted p = true ∧ ∀ e ∈ rest, e.2.isTrusted p = true := by
    cases rest <;> simp [read, Expr.isTrusted, Expr.restTrusted_eq]
  refine (Keeps.iterate (q := fun rest => place.Post p (read rest)) (fun rest => ?_) []).bind
    fun rest => .pure fun ts h => h
  refine keeps_compareOperator.bind fun op => ?_
  cases op with
  | none => exact .pure fun ts h => h
  | some op =>
    refine .assume (fun ts hts => And.intro hts.1 hts.2.1) fun hbefore => ?_
    obtain ⟨htrusted, hopen⟩ := hbefore
    refine (h.plain.strengthen fun ts hts => hts.2.2).bind fun e => .pure fun ts he => ?_
    have hmore : (read (rest ++ [(op, e)])).isTrusted p = true := by
      obtain ⟨hfirst, hrest⟩ := (hread rest).1 htrusted
      exact (hread _).2 ⟨hfirst, List.forall_mem_append.2 ⟨hrest, by simpa using he.1⟩⟩
    refine hopen _ _ ⟨?_, he.2⟩
    have hcompare : read (rest ++ [(op, e)]) = .compare first (rest ++ [(op, e)]) line := by
      simp [read]
    show (read (rest ++ [(op, e)])).callParts _ = true
    rw [hcompare] at hmore ⊢
    exact hmore

/-- Behind signs in front of an expression no slot source stands. -/
def BehindSigns (p : Text → Bool) (place : Place) (lines : List Nat) (ts : List Token) : Prop :=
  match lines with
  | [] => place.Pre p ts
  | _ :: _ => place.IsOpen p ∧ MentionsOnly p ts

theorem keeps_signs {place : Place} {t : Token} (ht : t ≠ .ident deferredName)
    (hstring : ∀ v, t ≠ .string v) :
    Keeps (place.Pre p) (iterate (fun lines => do
      if ← skip t then return some (lines ++ [← lastLine]) else return none) [])
      (BehindSigns p place) := by
  refine Keeps.iterate (q := BehindSigns p place) (fun lines => ?_) []
  refine (keeps_skip t).bind fun skipped => ?_
  cases skipped with
  | false => exact .pure fun ts h => h.1
  | true =>
    refine keeps_lastLine.bind fun line => .pure fun ts h => ?_
    have hplain : place.IsOpen p ∧ MentionsOnly p ts := by
      cases lines with
      | nil => exact (Place.Pre.tail h ht hstring).symm
      | cons l lines => exact ⟨h.1, h.2.tail hstring⟩
    cases lines <;> exact hplain

theorem isTrusted_signs (op : UnaryOp) {e : Expr} (lines : List Nat) :
    (lines.foldr (fun line e => .unary op e line) e).isTrusted p = e.isTrusted p := by
  induction lines with
  | nil => rfl
  | cons line lines ih => exact ih

theorem negation (h : ReadsTrusted p operand) : ReadsTrusted p (negation operand) := by
  intro place
  refine (keeps_signs (t := Keyword.kNot.token) (by decide) (by simp)).bind fun lines => ?_
  cases lines with
  | nil => exact (h place).bind fun e => .pure fun ts he => he
  | cons line lines =>
    refine .assume (fun ts hts => hts.1) fun hopen => ?_
    refine (h.plain.strengthen fun ts hts => hts.2).bind fun e => .pure fun ts he => ?_
    exact hopen _ _ ⟨(isTrusted_signs .not lines).trans he.1, he.2⟩

theorem conditional (h : ReadsTrusted p operand) (n : Nat) :
    ReadsTrusted p (conditional operand n) := by
  induction n with
  | zero => exact h
  | succ n ih =>
    refine fun place => (h place).bind fun first => ?_
    refine Keeps.iterate (q := place.Post p) (fun yes => .skip_ite ?_ ?_) first
    · refine .behind rfl fun hyes hopen => h.plain.and_bind fun test htest => ?_
      have hdone (no : Option Expr) (hno : ∀ e ∈ no, e.isTrusted p = true) :
          (Expr.ifElse test yes no).isTrusted p = true := by
        cases no <;> simp_all [Expr.isTrusted, Expr.optionTrusted]
      refine .skip_ite ?_ (.pure_bind (.pure fun ts hts => hopen _ _ ⟨hdone none (by simp), hts⟩))
      refine .map_and_bind some (ih.plain.strengthen fun ts hts => hts.tail (by simp) (by simp)) ?_
      exact fun no hno => .pure fun ts hts => hopen _ _ ⟨hdone (some no) (by simpa using hno), hts⟩
    · exact .pure fun ts h => h

end ReadsTrusted

/-! ## Arguments -/

section Operands

variable {expr named : Parser Expr} (hexpr : ReadsTrusted p expr)

include hexpr

section

variable (hnamed : ReadsTrusted p named)

include hnamed

theorem keeps_argument (before : List (ArgumentKind × Expr)) :
    Keeps (AtValue p) (argument expr named before) (IsItem p fun a => a.2.isTrusted p = true) := by
  have hstar (s : Symbol) (kind : ArgumentKind) : Keeps (fun ts => AtValue p (.symbol s :: ts))
      (do return (kind, ← expr)) (IsItem p fun a => a.2.isTrusted p = true) := by
    refine (hexpr.plain.strengthen fun ts hts => ?_).bind fun e => .pure fun ts he => Or.inl he
    exact (hts.mentionsOnly (by simp)).tail (by simp)
  have hplain (c : Prop) [Decidable c] (e : Expr) :
      Keeps (fun ts => e.isTrusted p = true ∧ BehindKey p ts)
        (if c then fail else return (ArgumentKind.positional, e))
        (IsItem p fun a => a.2.isTrusted p = true) :=
    .ite (fun _ => .fail) fun _ => .pure fun ts he => Or.inl he
  refine .skip_ite (hstar _ _) (.skip_ite (hstar _ _) (hexpr.value.bind fun e => ?_))
  cases e with
  | var name line =>
    refine .skip_bind ?_ (hplain _ _)
    refine (hnamed.plain.strengthen fun ts hts => hts.2.tail (by simp) (by simp)).bind fun e => ?_
    exact .pure fun ts he => Or.inl he
  | _ => exact .pure_bind (hplain _ _)

theorem keeps_arguments : Keeps (MentionsOnly p) (arguments expr named) fun args ts =>
    (∀ a ∈ args, a.2.isTrusted p = true) ∧ MentionsOnly p ts := by
  refine (keeps_expect _).bind fun _ => ?_
  refine (Keeps.commaList (by decide) (by decide) fun before => ?_).strengthen ?_
  · refine (keeps_argument hexpr hnamed before).bind fun a => ?_
    exact .ite (fun _ => .fail) fun _ => .pure fun _ h => h
  · exact fun ts hts => hts.tail (by simp)

end

/-- The argument of the function for slot sources is read as it is. -/
theorem keeps_sourceArgument {source : Text} {rest : List Token} :
    Keeps (fun ts => ts = sourceArgument source ++ rest)
      (arguments expr named) fun args ts =>
        (∃ line, args = [(.positional, .const (.string source) line)]) ∧ ts = rest := by
  let read (r : List (ArgumentKind × Expr) × Bool) (ts : List Token) : Prop :=
    r = ([], false) ∧ ts = .string source :: .symbol .closeParen :: rest ∨
      (∃ line, r.1 = [(.positional, .const (.string source) line)]) ∧
        ts = if r.2 then rest else .symbol .closeParen :: rest
  have hargument : Keeps (fun ts => ts = .string source :: .symbol .closeParen :: rest)
      (do
        let a ← argument expr named []
        if 2000 ≤ ([] : List (ArgumentKind × Expr)).length then fail else return a)
      fun a ts => (∃ line, a = (.positional, .const (.string source) line)) ∧
        ts = .symbol .closeParen :: rest := by
    refine Keeps.bind (.skip_ite (.vacuous (by simp)) (.skip_ite (.vacuous (by simp)) ?_))
      fun a => .ite (fun _ => .fail) fun _ => .pure fun ts h => h
    refine (hexpr (.argument source rest)).bind fun e => .assume (fun ts h => h.1) ?_
    rintro ⟨line, rfl⟩
    exact .pure_bind (.ite (fun _ => .fail) fun _ => .pure fun ts h => ⟨⟨line, rfl⟩, h.2⟩)
  -- The list ends behind its one item.
  have hclose {items : List (ArgumentKind × Expr)} {ts : List Token}
      (h : read (items, false) (.symbol .closeParen :: ts)) :
      (∃ line, items = [(.positional, .const (.string source) line)]) ∧ ts = rest := by
    rcases h with ⟨-, hts⟩ | ⟨hitems, hts⟩
    · cases hts
    · exact ⟨hitems, (List.cons.inj hts).2⟩
  refine (keeps_expect _).bind fun _ => ?_
  refine Keeps.bind ((Keeps.iterate (q := read) (fun r => ?_) ([], false)).strengthen ?_)
    fun r => ?_
  · obtain ⟨items, closed⟩ := r
    cases closed with
    | true => exact .pure fun _ h => h
    | false =>
      refine .skip_ite (.pure fun ts h => Or.inr (hclose h)) ?_
      cases items with
      | nil =>
        refine (hargument.strengthen fun ts h => ?_).bind fun a => .pure fun ts h => ?_
        · rcases h with ⟨-, hts⟩ | ⟨⟨line, hitems⟩, -⟩
          · exact hts
          · cases hitems
        · obtain ⟨⟨line, rfl⟩, hts⟩ := h
          exact Or.inr ⟨⟨line, rfl⟩, hts⟩
      | cons a items =>
        refine (keeps_expect _).bind fun _ => .vacuous fun ts h => ?_
        rcases h with ⟨hitems, -⟩ | ⟨-, hts⟩
        · cases hitems
        · cases hts
  · exact fun ts h => Or.inl ⟨rfl, (List.cons.inj h).2⟩
  · obtain ⟨items, closed⟩ := r
    cases closed with
    | false => exact (keeps_expect _).bind fun _ => .pure fun ts h => hclose h
    | true =>
      refine .pure fun ts h => ?_
      rcases h with ⟨hitems, -⟩ | h
      · cases hitems
      · exact h

/-! ## Primaries -/

theorem keeps_parenthesis (line : Nat) : Keeps (MentionsOnly p) (parenthesis expr line) fun e ts =>
    e.callParts (Expr.isTrusted p) = true ∧ MentionsOnly p ts := by
  refine .skip_ite (.pure fun ts hts => ⟨rfl, hts.tail (by simp)⟩) ?_
  refine (hexpr .plain).bind fun first => ?_
  have hitem : Keeps (AtValue p) expr (IsItem p fun e => e.isTrusted p = true) :=
    hexpr.value.weaken fun e ts he => Or.inl he
  refine (keeps_isNext _).bind fun isList => .ite (fun _ => ?_) fun _ => ?_
  · refine Keeps.bind ((Keeps.iterate (q := ListSoFar p fun e : Expr => e.isTrusted p = true)
      (fun r => ?_) ([first], false)).strengthen fun ts hts => ?_) fun r => ?_
    · obtain ⟨items, closed⟩ := r
      cases closed with
      | true => exact .pure fun ts h => h
      | false =>
        exact .skip_ite (.pure fun ts h => h.closed (by decide) (by decide)) (keeps_nextItem hitem)
    · refine Or.inl ⟨?_, hts.2.2, (by simp)⟩
      simpa using Expr.isTrusted_of_callParts hts.2.1
    · obtain ⟨items, closed⟩ := r
      have hlist {ts : List Token} (h : (∀ e ∈ items, e.isTrusted p = true) ∧ MentionsOnly p ts) :
          (Expr.list items line).callParts (Expr.isTrusted p) = true ∧ MentionsOnly p ts := by
        refine ⟨?_, h.2⟩
        simpa [Expr.callParts, Expr.isTrusted, Expr.itemsTrusted_eq] using h.1
      cases closed with
      | true => exact .pure fun ts h => hlist h
      | false =>
        exact (keeps_expect _).bind fun _ => .pure fun ts h =>
          hlist (ListSoFar.closed (by decide) (by decide) h)
  · exact (keeps_expect _).bind fun _ => .pure fun ts h => ⟨h.2.1, h.2.2.tail (by simp) (by simp)⟩

omit hexpr in
theorem keeps_moreStrings {place : Place} (value : Text) :
    Keeps (fun ts => place.Pre p (.string value :: ts)) (moreStrings value) fun v ts =>
      ∀ line, place.Post p (.const (.string v) line) ts := by
  refine keeps_remaining.bind fun n => ?_
  refine (Keeps.repeatUpTo (q := fun v ts => ∀ line, place.Post p (.const (.string v) line) ts)
    (fun v => keeps_skipString.bind fun more => ?_) _ _).strengthen fun ts h line => ?_
  · cases more with
    | none => exact .pure fun ts h => h
    | some w =>
      refine .pure fun ts h line => ?_
      obtain ⟨-, hts, hopen⟩ := (h line).goesOn (by simp) (by simp)
      exact hopen _ _ ⟨rfl, hts.behindKey⟩
  · cases place with
    | plain => exact ⟨rfl, MentionsOnly.behindKey h.2⟩
    | value => exact ⟨rfl, (AtValue.mentionsOnly h.2 (by simp)).behindKey⟩
    | argument source rest =>
      obtain ⟨heq, hts⟩ := List.cons.inj h.2
      exact ⟨⟨line, by rw [Token.string.inj heq]⟩, hts⟩

/-- A variable that is the function for slot sources, in front of its arguments. -/
def IsPending (p : Text → Bool) (e : Expr) (ts : List Token) : Prop :=
  (∃ line, e = .var deferredName line) ∧ ∃ source rest, p source = true ∧ MentionsOnly p rest ∧
    ts = sourceArgument source ++ rest

/-- What is known of a primary, which may be the function for slot sources. -/
def PrimaryPost (p : Text → Bool) (place : Place) (e : Expr) (ts : List Token) : Prop :=
  place.Post p e ts ∨ place = .value ∧ IsPending p e ts

/-- A parser of primaries. -/
def ReadsPrimary (p : Text → Bool) (x : Parser Expr) : Prop :=
  ∀ place : Place, Keeps (place.Pre p) x (PrimaryPost p place)

theorem readsPrimary_primary : ReadsPrimary p (primary expr) := by
  intro place
  refine keeps_takeAny.bind fun l => ?_
  obtain ⟨token, line⟩ := l
  have hplain {t : Token} (ht : t ≠ .ident deferredName) (hstring : ∀ v, t ≠ .string v)
      {x : Parser Expr} (hx : Keeps (MentionsOnly p) x (Place.Post p .plain)) :
      Keeps (fun ts => place.Pre p (t :: ts)) x (PrimaryPost p place) := by
    refine .assume (fun ts h => (h.tail ht hstring).2) fun hopen => ?_
    exact (hx.strengthen fun ts h => (h.tail ht hstring).1).weaken fun e ts he =>
      Or.inl (hopen e ts he)
  have hitem : Keeps (AtValue p) expr (IsItem p fun e => e.isTrusted p = true) :=
    hexpr.value.weaken fun e ts he => Or.inl he
  cases token with
  | ident name =>
    cases hconst : constant? name with
    | some value =>
      refine hplain ?_ (by simp) ?_
      · rintro ⟨⟩
        cases hconst.symm.trans (by decide : constant? deferredName = none)
      · simp only [hconst]
        exact .pure fun ts h => ⟨rfl, Or.inl h⟩
    | none =>
      simp only [hconst]
      by_cases hname : name = deferredName
      · subst hname
        refine .pure fun ts h => ?_
        cases place with
        | plain => exact absurd rfl (MentionsOnly.ne_deferred h)
        | value =>
          rcases h with h | ⟨source, rest, heq, hsource, hrest⟩
          · exact absurd rfl h.ne_deferred
          · have hts := (List.cons.inj (List.cons.inj heq).2).2
            exact Or.inr ⟨rfl, ⟨line, rfl⟩, source, rest, hsource, hrest, hts⟩
        | argument source rest => cases h
      · refine hplain (by simpa using hname) (by simp) ?_
        exact .pure fun ts h => ⟨by simpa [Expr.callParts, Expr.isTrusted] using hname, Or.inl h⟩
  | string value =>
    exact (keeps_moreStrings value).bind fun v => .pure fun ts h => Or.inl (h line)
  | integer value =>
    refine hplain ?_ ?_ ?_
    · simp
    · simp
    · exact .pure fun ts h => ⟨rfl, Or.inl h⟩
  | float digits exponent =>
    refine hplain ?_ ?_ ?_
    · simp
    · simp
    · exact .pure fun ts h => ⟨rfl, Or.inl h⟩
  | symbol s =>
    refine hplain (by simp) (by simp) ?_
    cases s with
    | openParen => exact (keeps_parenthesis hexpr line).weaken fun e ts h => ⟨h.1, Or.inl h.2⟩
    | openBracket =>
      refine (Keeps.commaList (by decide) (by decide) fun _ => hitem).bind fun items => ?_
      refine .pure fun ts h => ⟨?_, Or.inl h.2⟩
      simpa [Expr.callParts, Expr.isTrusted, Expr.itemsTrusted_eq] using h.1
    | openBrace =>
      have hpair : Keeps (AtValue p) (do
          let key ← expr
          expectSymbol .colon
          return (key, ← expr))
          (IsItem p fun e => e.1.isTrusted p = true ∧ e.2.isTrusted p = true) := by
        refine hexpr.value.and_bind fun key hkey => (keeps_expect _).bind fun _ => ?_
        refine (hexpr.plain.strengthen fun ts h => h.tail (by simp) (by simp)).bind fun value => ?_
        exact .pure fun ts h => Or.inl ⟨⟨hkey, h.1⟩, h.2⟩
      refine (Keeps.commaList (by decide) (by decide) fun _ => hpair).bind fun pairs => ?_
      refine .pure fun ts h => ⟨?_, Or.inl h.2⟩
      simpa [Expr.callParts, Expr.isTrusted, Expr.pairsTrusted_eq] using h.1
    | _ => exact .fail
  | _ => exact .fail

omit hexpr in
theorem keeps_signed {prim : Parser Expr} (hprim : ReadsPrimary p prim) (place : Place) :
    Keeps (place.Pre p) (signed prim) (PrimaryPost p place) := by
  refine (ReadsTrusted.keeps_signs (t := .symbol .minus) (by decide) (by simp)).bind fun lines => ?_
  cases lines with
  | nil => exact (hprim place).bind fun e => .pure fun ts he => he
  | cons line lines =>
    refine .assume (fun ts hts => hts.1) fun hopen => ?_
    refine ((hprim .plain).strengthen fun ts hts => hts.2).bind fun e => .pure fun ts he => ?_
    rcases he with he | ⟨hplace, -⟩
    · refine Or.inl (hopen _ _ ⟨?_, he.2⟩)
      exact (ReadsTrusted.isTrusted_signs .negate lines).trans (Expr.isTrusted_of_callParts he.1)
    · cases hplace

/-! ## Postfixes -/

/-- What is read behind an operand at once, if anything is. -/
def postfixStep (expr named : Parser Expr) (e : Expr) : Parser (Option Expr) := do
  match ← peek with
  | some (.symbol .dot) =>
    let _ ← take
    return some (← pointed e)
  | some (.symbol .openBracket) =>
    let _ ← take
    return some (← subscript expr e)
  | some (.symbol .openParen) => return some (.call e (← arguments expr named))
  | _ => return none

omit hexpr in
theorem keeps_pointed {e : Expr} (he : e.isTrusted p = true) :
    Keeps (MentionsOnly p) (pointed e) (Place.Post p .plain) := by
  refine keeps_takeAny.bind fun l => ?_
  obtain ⟨token, line⟩ := l
  cases token with
  | ident name => exact .pure fun ts h => ⟨he, Or.inl (h.tail (by simp))⟩
  | integer value =>
    refine .pure fun ts h => ⟨?_, Or.inl (h.tail (by simp))⟩
    simp [Expr.callParts, Expr.isTrusted, he]
  | _ => exact .fail

/-- An expression that may be left out. -/
theorem keeps_option {α : Type} {post : α → List Token → Prop} {c : Prop} [Decidable c]
    {g : Option Expr → Parser α}
    (hg : ∀ e, (∀ e' ∈ e, e'.isTrusted p = true) → Keeps (BehindKey p) (g e) post) :
    Keeps (MentionsOnly p) (if c then pure none >>= g else some <$> expr >>= g) post := by
  refine .ite (fun _ => .pure_bind ?_) fun _ => ?_
  · exact (hg none (by simp)).strengthen fun ts h => Or.inl h
  exact .map_and_bind some hexpr.plain fun e he => hg (some e) (by simpa using he)

theorem keeps_subscript {e : Expr} (he : e.isTrusted p = true) :
    Keeps (MentionsOnly p) (subscript expr e) (Place.Post p .plain) := by
  refine (keeps_isNext _).bind fun b => ?_
  refine (keeps_option hexpr fun start hstart => .skip_ite ?_ ?_).strengthen fun ts h => h.2
  · refine keeps_peek.bind fun next => ?_
    refine (keeps_option hexpr fun stop hstop => ?_).strengthen fun ts h =>
      h.2.tail (by simp) (by simp)
    have hdone (step : Option Expr) (hstep : ∀ e ∈ step, e.isTrusted p = true) :
        Keeps (BehindKey p)
          (do expectSymbol .closeBracket; return Expr.slice e start stop step)
          (Place.Post p .plain) := by
      refine (keeps_expect _).bind fun _ => .pure fun ts h =>
        ⟨?_, Or.inl (h.tail (by simp) (by simp))⟩
      cases start <;> cases stop <;> cases step <;>
        simp_all [Expr.callParts, Expr.isTrusted, Expr.optionTrusted]
    refine .skip_ite ?_ (hdone none (by simp))
    refine (keeps_isNext _).bind fun closes => .ite (fun _ => ?_) fun _ => ?_
    · refine (hexpr.plain.strengthen fun ts h => h.2.tail (by simp) (by simp)).and_bind
        fun step hstep => ?_
      exact hdone (some step) (by simpa using hstep)
    · exact (hdone none (by simp)).strengthen fun ts h => Or.inl (h.2.tail (by simp) (by simp))
  · refine (keeps_expect _).bind fun _ => ?_
    cases start with
    | none => exact .fail
    | some key =>
      refine .pure fun ts h => ⟨?_, Or.inl (h.tail (by simp) (by simp))⟩
      have hkey := hstart key rfl
      simp [Expr.callParts, Expr.isTrusted, he, hkey]

theorem keeps_sourceCall {e : Expr} :
    Keeps (IsPending p e) (do return some (Expr.call e (← arguments expr named)))
      fun r => Place.value.Post p (r.getD e) := by
  rintro s a s' hrun ⟨⟨line, rfl⟩, source, rest, hsource, hrest, hts⟩
  have hcall : Keeps
      (fun ts => ts = sourceArgument source ++ rest)
      (do return some (Expr.call (.var deferredName line) (← arguments expr named)))
      fun r => Place.value.Post p (r.getD (.var deferredName line)) := by
    refine (keeps_sourceArgument hexpr).bind fun args => .pure ?_
    rintro ts ⟨⟨line', rfl⟩, rfl⟩
    refine ⟨?_, Or.inl hrest⟩
    simp [Expr.isTrusted, Expr.argumentsTrusted, isSourceArgument, hsource]
  exact hcall s a s' hrun hts

section

variable (hnamed : ReadsTrusted p named)

include hnamed

theorem keeps_calledWith {place : Place} {e : Expr} :
    Keeps (fun ts => some (.symbol .openParen) = ts.head? ∧ place.Post p e ts)
      (do return some (Expr.call e (← arguments expr named)))
      fun r => place.Post p (r.getD e) := by
  have hgoesOn {ts : List Token} (h : some (.symbol .openParen) = ts.head? ∧ place.Post p e ts) :
      e.isTrusted p = true ∧ MentionsOnly p ts ∧ place.IsOpen p := by
    cases ts with
    | nil => cases h.1
    | cons t ts =>
      cases Option.some.inj h.1
      exact h.2.goesOn (by simp) (by simp)
  refine .assume (fun ts h => (hgoesOn h).imp_right And.right) fun hbefore => ?_
  obtain ⟨he, hopen⟩ := hbefore
  refine ((keeps_arguments hexpr hnamed).strengthen fun ts h => (hgoesOn h).2.1).bind fun args => ?_
  exact .pure fun ts h => hopen _ _ ⟨Expr.callParts_call he h.1, Or.inl h.2⟩

theorem keeps_postfixStep {place : Place} (e : Expr) : Keeps (place.Post p e)
    (postfixStep expr named e) fun r => place.Post p (r.getD e) := by
  refine keeps_peek.bind fun next => ?_
  split
  · refine keeps_take_peeked.bind fun _ => .behind rfl fun he hopen => ?_
    exact (keeps_pointed he).bind fun e' => .pure fun ts h => hopen _ _ h
  · refine keeps_take_peeked.bind fun _ => .behind rfl fun he hopen => ?_
    exact (keeps_subscript hexpr he).bind fun e' => .pure fun ts h => hopen _ _ h
  · exact keeps_calledWith hexpr hnamed
  · exact .pure fun ts h => h.2

theorem keeps_postfixes {place : Place} (e : Expr) :
    Keeps (PrimaryPost p place e) (postfixes expr named e) (place.Post p) := by
  have hsteps : Keeps (place.Post p e) (postfixes expr named e) (place.Post p) :=
    Keeps.iterate (keeps_postfixStep hexpr hnamed) e
  refine hsteps.or (.assume (fun ts h => h.1) fun hplace => ?_)
  subst hplace
  -- A slot source is called before anything else.
  have hfirst : Keeps (IsPending p e) (postfixStep expr named e)
      fun r => Place.value.Post p (r.getD e) := by
    refine keeps_peek.bind fun next => ?_
    have hnext (ts : List Token) (h : next = ts.head? ∧ IsPending p e ts) :
        next = some (.symbol .openParen) := by
      obtain ⟨hnext, -, source, rest, -, -, rfl⟩ := h
      exact hnext
    refine .assume hnext fun heq => ?_
    subst heq
    exact (keeps_sourceCall hexpr).strengthen fun ts h => h.2
  have hrest (e : Expr) : Keeps (Place.value.Post p e) (postfixStep expr named e)
      fun r => Place.value.Post p (r.getD e) := keeps_postfixStep hexpr hnamed e
  refine (Keeps.iterate_first ?_ hfirst hrest).strengthen fun ts h => h.2
  rintro ts ⟨-, source, rest, -, -, rfl⟩
  simp [sourceArgument]

end

/-! ## Filters and tests -/

omit hexpr in
/-- A token that may be skipped is no key. -/
theorem keeps_skipped {t : Token} (ht : ∀ v, t ≠ .string v) :
    Keeps (MentionsOnly p) (skip t) fun _ => MentionsOnly p :=
  (keeps_skip t).weaken fun skipped ts h => by
    cases skipped with
    | true => exact MentionsOnly.tail h ht
    | false => exact h.1

omit hexpr in
theorem keeps_dottedName : Keeps (MentionsOnly p) dottedName fun _ => MentionsOnly p := by
  have hident : Keeps (MentionsOnly p) expectIdent fun _ => MentionsOnly p :=
    keeps_expectIdent.weaken fun _ ts h => h.tail (by simp)
  refine hident.bind fun r => ?_
  refine (Keeps.iterate (q := fun _ => MentionsOnly p) (fun name => ?_) _).bind fun name =>
    .pure fun ts h => h
  refine .skip_ite ?_ (.pure fun ts h => h)
  refine (hident.strengthen fun ts h => h.tail (by simp)).bind fun r => .pure fun ts h => h

section

variable (hnamed : ReadsTrusted p named)

include hnamed

/-- Arguments that may be left out. -/
theorem keeps_argumentsIfAny {α : Type} {post : α → List Token → Prop}
    {g : List (ArgumentKind × Expr) → Parser α}
    (hg : ∀ args, (∀ a ∈ args, a.2.isTrusted p = true) → Keeps (MentionsOnly p) (g args) post) :
    Keeps (MentionsOnly p) (isNext (.symbol .openParen) >>= fun isCall =>
      if isCall = true then arguments expr named >>= g else pure [] >>= g) post := by
  refine (keeps_isNext _).bind fun isCall => .ite (fun _ => ?_) fun _ => ?_
  · exact ((keeps_arguments hexpr hnamed).strengthen fun ts h => h.2).and_bind hg
  · exact .pure_bind ((hg [] (by simp)).strengthen fun ts h => h.2)

variable {prim : Parser Expr} (hprim : ReadsPrimary p prim)

include hprim

/-- The arguments of a test, which may be one without parentheses. -/
theorem keeps_testArguments {α : Type} {post : α → List Token → Prop}
    {g : List (ArgumentKind × Expr) → Parser α}
    (hg : ∀ args, (∀ a ∈ args, a.2.isTrusted p = true) → Keeps (BehindKey p) (g args) post) :
    Keeps (MentionsOnly p) (do
      match ← peek with
      | some (.symbol .openParen) => arguments expr named >>= g
      | some t =>
        if startsTestArgument t then
          let arg ← postfixes expr named (← signed prim)
          pure [(ArgumentKind.positional, arg)] >>= g
        else pure [] >>= g
      | none => pure [] >>= g) post := by
  have hnone : Keeps (MentionsOnly p) (g []) post :=
    (hg [] (by simp)).strengthen fun _ h => Or.inl h
  refine keeps_peek.bind fun next => ?_
  split
  · refine ((keeps_arguments hexpr hnamed).strengthen fun ts h => h.2).and_bind fun args hargs => ?_
    exact (hg args hargs).strengthen fun ts h => Or.inl h
  · refine .ite (fun _ => ?_) fun _ => .pure_bind (hnone.strengthen fun ts h => h.2)
    refine ((keeps_signed hprim .plain).strengthen fun ts h => h.2).bind fun e => ?_
    refine (keeps_postfixes hexpr hnamed e).bind fun arg => .pure_bind ?_
    refine .assume (fun ts h => Expr.isTrusted_of_callParts h.1) fun harg => ?_
    exact (hg [(.positional, arg)] (by simpa using harg)).strengthen fun ts h => h.2
  · exact .pure_bind (hnone.strengthen fun ts h => h.2)

theorem keeps_filtersAndTests {place : Place} (e : Expr) :
    Keeps (place.Post p e) (filtersAndTests expr named prim e) (place.Post p) := by
  refine Keeps.iterate (q := place.Post p) (fun e => keeps_peek.bind fun next => ?_) e
  split
  · refine keeps_take_peeked.bind fun _ => .behind rfl fun he hopen => ?_
    refine keeps_dottedName.bind fun name => ?_
    refine keeps_argumentsIfAny hexpr hnamed fun args hargs => .pure fun ts h => ?_
    refine hopen _ _ ⟨?_, Or.inl h⟩
    simpa [Expr.callParts, Expr.isTrusted, Expr.argumentsTrusted_eq, he] using hargs
  · rename_i t
    refine .ite (fun ht => ?_) fun _ => .pure fun ts h => h.2
    subst ht
    refine keeps_take_peeked.bind fun _ => .behind rfl fun he hopen => ?_
    refine keeps_lastLine.bind fun line => ?_
    refine (keeps_skipped (t := Keyword.kNot.token) (by simp)).bind fun negated => ?_
    refine keeps_dottedName.bind fun name => ?_
    refine keeps_testArguments hexpr hnamed hprim fun args hargs => .pure fun ts h => ?_
    have htest : (Expr.test name.1 e args).isTrusted p = true := by
      simpa [Expr.isTrusted, Expr.argumentsTrusted_eq, he] using hargs
    refine hopen _ _ ⟨?_, h⟩
    cases negated <;> exact htest
  · exact .pure fun ts h => h.2

/-! ## Expressions -/

theorem readsTrusted_unary : ReadsTrusted p (unary expr named prim) := by
  intro place
  refine (keeps_signed hprim place).bind fun e => (keeps_postfixes hexpr hnamed e).bind fun e => ?_
  exact keeps_filtersAndTests hexpr hnamed hprim e

theorem readsTrusted_disjunction : ReadsTrusted p (disjunction expr named prim) := by
  have harithmetic : ReadsTrusted p (arithmetic expr named prim) := by
    refine .leftChain (.leftChain (.leftChain (.leftChain ?_ ?_) ?_) ?_) ?_
    · exact readsTrusted_unary hexpr hnamed hprim
    · exact fun t op => Token.continues_of_powerOperator?
    · exact fun t op => Token.continues_of_productOperator?
    · exact fun t op => Token.continues_of_concatOperator?
    · exact fun t op => Token.continues_of_sumOperator?
  refine .leftChain (.leftChain (.negation (.comparison harithmetic)) ?_) ?_
  · exact fun t op => Token.continues_of_andOperator?
  · exact fun t op => Token.continues_of_orOperator?

omit hnamed in
theorem readsTrusted_operandOf : ReadsTrusted p (operandOf expr prim) := by
  have hwithin (k : Nat) : ReadsTrusted p (operandWithin expr prim k) := by
    induction k with
    | zero => exact readsTrusted_disjunction hexpr readsTrusted_fail hprim
    | succ k ih => exact readsTrusted_disjunction hexpr ih hprim
  exact fun place => keeps_remaining.bind fun n => (hwithin n place).strengthen fun ts h => h.2

end

end Operands

theorem readsPrimary_fail : ReadsPrimary p fail := fun _ => .fail

theorem readsTrusted_withConditions {operand : Parser Expr} (h : ReadsTrusted p operand) :
    ReadsTrusted p (withConditions operand) := fun place =>
  keeps_remaining.bind fun n => (h.conditional n place).strengthen fun _ hts => hts.2

theorem readsTrusted_operandAt (n : Nat) : ReadsTrusted p (operandAt n) := by
  fun_induction operandAt n with
  | case1 => exact readsTrusted_operandOf readsTrusted_fail readsPrimary_fail
  | case2 ih =>
    exact readsTrusted_operandOf (readsTrusted_withConditions ih)
      (readsPrimary_primary readsTrusted_fail)
  | case3 n ih ih' =>
    exact readsTrusted_operandOf (readsTrusted_withConditions ih)
      (readsPrimary_primary (readsTrusted_withConditions ih'))

theorem readsTrusted_expression (n : Nat) : ReadsTrusted p (expression n) := by
  cases n with
  | zero => exact readsTrusted_fail
  | succ n => exact readsTrusted_withConditions (readsTrusted_operandAt n)

end Componentry.Template
