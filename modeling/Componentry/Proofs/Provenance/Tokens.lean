import Componentry.Proofs.Provenance.Code
import Componentry.Template.Parser.Statement

/-! # Tokens in which the function for slot sources is only called

Where a slot is passed to a component, the generated code has an entry whose value is a slot
source: behind the key stand the tokens `, deferred("…")`.  Tokens **mention** the function
only in such entries if they hold its name nowhere else (`MentionsOnly`).

What a parser makes of such tokens is shown by `Parser.Keeps pre x post`: if what is left to be
read is as `pre` says and `x` succeeds, then `post` holds of its result and of what is left
behind it.  The parsers that take a token hand on what was known with the token in front, so
that `pre (t :: rest)` says what is known of `rest` behind `t`.
-/
namespace Componentry.Template

/-! ## Tokens -/

/-- The argument of the function that makes slot sources. -/
def sourceArgument (source : Text) : List Token :=
  [.symbol .openParen, .string source, .symbol .closeParen]

/-- The tokens behind the key of an entry whose value is a slot source. -/
def slotValueTokens (source : Text) : List Token :=
  .symbol .comma :: .ident deferredName :: sourceArgument source

@[simp] theorem Keyword.token_ne_symbol (k : Keyword) (s : Symbol) : k.token ≠ .symbol s := by
  simp [token]

@[simp] theorem Keyword.token_ne_string (k : Keyword) (v : Text) : k.token ≠ .string v := by
  simp [token]

/-- Tokens in which the function that makes slot sources is only called as the value of an
entry, with a text that passes a test. -/
inductive MentionsOnly (p : Text → Bool) : List Token → Prop where
  | nil : MentionsOnly p []
  | token {t : Token} {ts : List Token} (ht : t ≠ .ident deferredName) (hts : MentionsOnly p ts) :
    MentionsOnly p (t :: ts)
  | source {key source : Text} {ts : List Token} (hsource : p source = true)
    (hts : MentionsOnly p ts) : MentionsOnly p (.string key :: (slotValueTokens source ++ ts))

/-- Whether tokens mention the function that makes slot sources only as the value of an
entry, with a text that passes a test. -/
def mentionsOnly (p : Text → Bool) : List Token → Bool
  | .string _ :: .symbol .comma :: .ident f :: .symbol .openParen :: .string source ::
      .symbol .closeParen :: ts => (f != deferredName || p source) && mentionsOnly p ts
  | .ident x :: ts => x != deferredName && mentionsOnly p ts
  | _ :: ts => mentionsOnly p ts
  | [] => true

variable {p : Text → Bool} {t : Token} {ts : List Token}

theorem MentionsOnly.of_mentionsOnly (h : mentionsOnly p ts = true) : MentionsOnly p ts := by
  fun_induction mentionsOnly p ts with
  | case1 key f source ts ih =>
    rw [Bool.and_eq_true] at h
    have hts := ih h.2
    by_cases hf : f = deferredName
    · subst hf
      exact .source (by simpa using h.1) hts
    · refine .token (by simp) (.token (by simp) (.token (by simpa using hf) ?_))
      exact .token (by simp) (.token (by simp) (.token (by simp) hts))
  | case2 x ts ih =>
    rw [Bool.and_eq_true, bne_iff_ne] at h
    exact .token (by simpa using h.1) (ih h.2)
  | case3 t ts hentry hident ih => exact .token (fun heq => hident _ heq) (ih h)
  | case4 => exact .nil

/-! ## What may be left to read -/

/-- Tokens behind a string: a slot source may follow, as the value of its key. -/
def BehindKey (p : Text → Bool) (ts : List Token) : Prop :=
  MentionsOnly p ts ∨
    ∃ source rest, ts = slotValueTokens source ++ rest ∧ p source = true ∧ MentionsOnly p rest

/-- Tokens where a value is read: it may be a slot source. -/
def AtValue (p : Text → Bool) (ts : List Token) : Prop :=
  MentionsOnly p ts ∨
    ∃ source rest, .symbol .comma :: ts = slotValueTokens source ++ rest ∧ p source = true ∧
      MentionsOnly p rest

namespace MentionsOnly

theorem behindKey (h : MentionsOnly p (t :: ts)) : BehindKey p ts := by
  cases h with
  | token ht hts => exact Or.inl hts
  | source hsource hts => exact Or.inr ⟨_, _, rfl, hsource, hts⟩

theorem ne_deferred (h : MentionsOnly p (t :: ts)) : t ≠ .ident deferredName := by
  cases h with
  | token ht hts => exact ht
  | source hsource hts => simp

theorem tail (h : MentionsOnly p (t :: ts)) (ht : ∀ v, t ≠ .string v) : MentionsOnly p ts := by
  cases h with
  | token _ hts => exact hts
  | source hsource hts => exact absurd rfl (ht _)

end MentionsOnly

theorem BehindKey.mentionsOnly (h : BehindKey p (t :: ts)) (ht : t ≠ .symbol .comma) :
    MentionsOnly p (t :: ts) := by
  rcases h with h | ⟨source, rest, heq, -⟩
  · exact h
  · exact absurd (List.cons.inj heq).1 ht

theorem BehindKey.atValue (h : BehindKey p (.symbol .comma :: ts)) : AtValue p ts := by
  rcases h with h | h
  · exact Or.inl (h.tail (by simp))
  · exact Or.inr h

theorem AtValue.mentionsOnly (h : AtValue p (t :: ts)) (ht : t ≠ .ident deferredName) :
    MentionsOnly p (t :: ts) := by
  rcases h with h | ⟨source, rest, heq, -⟩
  · exact h
  · exact absurd (List.cons.inj (List.cons.inj heq).2).1 ht

/-! ## What parsers keep -/

namespace Parser

variable {α β : Type} {pre pre' : List Token → Prop} {post post' : α → List Token → Prop}

/-- Where the tokens that are left are as a condition says, what a parser reads off them and
the tokens behind it are as another one says.  No token is put back. -/
def Keeps (pre : List Token → Prop) (x : Parser α) (post : α → List Token → Prop) : Prop :=
  ∀ s a s', x.run s = .ok (a, s') → pre (s.rest.map Lexeme.token) →
    post a (s'.rest.map Lexeme.token) ∧ s'.rest.length ≤ s.rest.length

namespace Keeps

theorem pure {a : α} (h : ∀ ts, pre ts → post a ts) : Keeps pre (Pure.pure a) post := by
  rintro _ _ _ ⟨⟩ hpre
  exact ⟨h _ hpre, Nat.le_refl _⟩

theorem bind {x : Parser α} {f : α → Parser β} {post' : β → List Token → Prop}
    (hx : Keeps pre x post) (hf : ∀ a, Keeps (post a) (f a) post') : Keeps pre (x >>= f) post' := by
  intro s b s' hrun hpre
  rw [StateT.run_bind] at hrun
  cases hfirst : x.run s with
  | error fault =>
    rw [hfirst] at hrun
    cases hrun
  | ok r =>
    rw [hfirst] at hrun
    obtain ⟨hmid, hshorter⟩ := hx s r.1 r.2 hfirst hpre
    exact (hf r.1 r.2 b s' hrun hmid).imp_right fun h => Nat.le_trans h hshorter

/-- What a parser gives may be good without regard to what is left. -/
theorem and_bind {good : α → Prop} {q : List Token → Prop} {x : Parser α} {f : α → Parser β}
    {post : β → List Token → Prop} (hx : Keeps pre x fun a ts => good a ∧ q ts)
    (hf : ∀ a, good a → Keeps q (f a) post) : Keeps pre (x >>= f) post :=
  hx.bind fun a => fun s b s' hrun h => hf a h.1 s b s' hrun h.2

theorem pure_bind {a : α} {f : α → Parser β} {post : β → List Token → Prop}
    (h : Keeps pre (f a) post) : Keeps pre (Pure.pure a >>= f) post := h

theorem map_bind {γ : Type} {x : Parser α} (f : α → β) {g : β → Parser γ}
    {post' : γ → List Token → Prop} (hx : Keeps pre x post)
    (hg : ∀ a, Keeps (post a) (g (f a)) post') : Keeps pre (f <$> x >>= g) post' := by
  rw [bind_map_left]
  exact hx.bind hg

theorem map_and_bind {γ : Type} {good : α → Prop} {q : List Token → Prop} {x : Parser α}
    (f : α → β) {g : β → Parser γ} {post' : γ → List Token → Prop}
    (hx : Keeps pre x fun a ts => good a ∧ q ts)
    (hg : ∀ a, good a → Keeps q (g (f a)) post') : Keeps pre (f <$> x >>= g) post' := by
  rw [bind_map_left]
  exact hx.and_bind hg

theorem weaken {x : Parser α} (h : Keeps pre x post) (hpost : ∀ a ts, post a ts → post' a ts) :
    Keeps pre x post' := fun s a s' hrun hpre => (h s a s' hrun hpre).imp_left (hpost _ _)

theorem strengthen {x : Parser α} (h : Keeps pre x post) (hpre : ∀ ts, pre' ts → pre ts) :
    Keeps pre' x post := fun s a s' hrun hts => h s a s' hrun (hpre _ hts)

/-- Nothing is read where nothing can be left. -/
theorem vacuous {x : Parser α} (h : ∀ ts, ¬pre ts) : Keeps pre x post :=
  fun _ _ _ _ hpre => (h _ hpre).elim

theorem ite {c : Prop} [Decidable c] {x y : Parser α} (hx : c → Keeps pre x post)
    (hy : ¬c → Keeps pre y post) : Keeps pre (if c then x else y) post := by
  split
  · exact hx ‹_›
  · exact hy ‹_›

theorem or {x : Parser α} (h : Keeps pre x post) (h' : Keeps pre' x post) :
    Keeps (fun ts => pre ts ∨ pre' ts) x post :=
  fun s a s' hrun hpre => hpre.elim (h s a s' hrun) (h' s a s' hrun)

/-- Something may be read first. -/
theorem when_bind {c : Prop} [Decidable c] {x : Parser Unit} {f : Unit → Parser β}
    {q : List Token → Prop} {post : β → List Token → Prop} (hx : c → Keeps pre x fun _ => q)
    (hpre : ¬c → ∀ ts, pre ts → q ts) (hf : Keeps q (f ()) post) :
    Keeps pre (if c then x >>= f else f ()) post :=
  ite (fun hc => (hx hc).bind fun _ => hf) fun hc => hf.strengthen (hpre hc)

/-- What is known of the tokens may be used. -/
theorem assume {x : Parser α} {fact : Prop} (hfact : ∀ ts, pre ts → fact)
    (h : fact → Keeps pre x post) : Keeps pre x post :=
  fun s a s' hrun hpre => h (hfact _ hpre) s a s' hrun hpre

theorem fail : Keeps pre Parser.fail post := by
  rintro s a s' ⟨⟩

/-- There are never more tokens left. -/
theorem within {x : Parser α} (h : Keeps pre x post) (n : Nat) :
    Keeps (fun ts => pre ts ∧ ts.length ≤ n) x fun a ts => post a ts ∧ ts.length ≤ n := by
  intro s a s' hrun hpre
  obtain ⟨hpost, hshorter⟩ := h s a s' hrun hpre.1
  refine ⟨⟨hpost, ?_⟩, hshorter⟩
  have hlength := hpre.2
  rw [List.length_map] at hlength ⊢
  exact Nat.le_trans hshorter hlength

end Keeps

/-! ### Tokens -/

theorem keeps_get : Keeps pre get fun _ => pre := by
  rintro _ _ _ ⟨⟩ hpre
  exact ⟨hpre, Nat.le_refl _⟩

theorem keeps_modify {f : ParseState → ParseState} (hf : ∀ s, (f s).rest = s.rest) :
    Keeps pre (modify f) fun _ => pre := by
  rintro s _ _ ⟨⟩ hpre
  rw [hf]
  exact ⟨hpre, Nat.le_refl _⟩

theorem keeps_lastLine : Keeps pre lastLine fun _ => pre := by
  rintro s _ _ ⟨⟩ hpre
  exact ⟨hpre, Nat.le_refl _⟩

theorem keeps_nextLine : Keeps pre nextLine fun _ => pre := by
  rintro s _ _ ⟨⟩ hpre
  exact ⟨hpre, Nat.le_refl _⟩

theorem keeps_remaining : Keeps pre remaining fun n ts => n = ts.length ∧ pre ts := by
  rintro s _ _ ⟨⟩ hpre
  exact ⟨⟨by simp, hpre⟩, Nat.le_refl _⟩

theorem keeps_peek : Keeps pre peek fun t ts => t = ts.head? ∧ pre ts := by
  rintro ⟨rest, last, fault, blocks, inMacro⟩ a s' hrun hpre
  rcases rest with - | ⟨l, rest⟩
  · cases fault with
    | none =>
      cases hrun
      exact ⟨⟨rfl, hpre⟩, Nat.le_refl _⟩
    | some fault => cases fault <;> cases hrun
  · cases hrun
    exact ⟨⟨rfl, hpre⟩, Nat.le_refl _⟩

/-- What is known behind a token that may have been taken. -/
def Behind (pre : List Token → Prop) (l : Option Lexeme) (ts : List Token) : Prop :=
  match l with
  | some l => pre (l.token :: ts)
  | none => ts = [] ∧ pre ts

theorem keeps_take : Keeps pre take (Behind pre) := by
  rintro ⟨rest, last, fault, blocks, inMacro⟩ a s' hrun hpre
  rcases rest with - | ⟨l, rest⟩
  · cases fault with
    | none =>
      cases hrun
      exact ⟨⟨rfl, hpre⟩, Nat.le_refl _⟩
    | some fault => cases fault <;> cases hrun
  · cases hrun
    exact ⟨hpre, Nat.le_succ _⟩

/-- A token that has been looked at is the one that is taken. -/
theorem keeps_take_peeked {t : Token} :
    Keeps (fun ts => some t = ts.head? ∧ pre ts) take fun _ ts => pre (t :: ts) := by
  refine keeps_take.weaken fun l ts h => ?_
  cases l with
  | none => exact absurd h.2.1 (by rw [h.1]; simp)
  | some l => exact Option.some.inj h.1 ▸ h.2

theorem keeps_takeAny : Keeps pre takeAny fun l ts => pre (l.token :: ts) := by
  refine keeps_take.bind fun l => ?_
  cases l with
  | none => exact .fail
  | some l => exact .pure fun _ h => h

theorem keeps_expect (t : Token) : Keeps pre (expect t) fun _ ts => pre (t :: ts) := by
  refine keeps_takeAny.bind fun l => ?_
  split
  · rename_i heq
    exact .pure fun _ h => heq ▸ h
  · exact .fail

theorem keeps_expectIdent :
    Keeps pre expectIdent fun r ts => pre (.ident r.1 :: ts) := by
  refine keeps_takeAny.bind fun l => ?_
  split
  · rename_i name hname
    exact .pure fun _ h => hname ▸ h
  · exact .fail

theorem keeps_ident {p : Text → Bool} : Keeps (MentionsOnly p) expectIdent fun r ts =>
    (r.1 != deferredName) = true ∧ MentionsOnly p ts :=
  keeps_expectIdent.weaken fun _ _ h =>
    ⟨bne_iff_ne.2 fun heq => h.ne_deferred (congrArg _ heq), h.tail (by simp)⟩

theorem keeps_isNext (t : Token) :
    Keeps pre (isNext t) fun b ts => (b = true ↔ ts.head? = some t) ∧ pre ts := by
  refine keeps_peek.bind fun next => .pure fun ts h => ⟨?_, h.2⟩
  rw [decide_eq_true_iff, h.1]

/-- What is known behind a token that is skipped if it comes next. -/
def Skipped (pre : List Token → Prop) (t : Token) (skipped : Bool) (ts : List Token) : Prop :=
  if skipped then pre (t :: ts) else pre ts ∧ ts.head? ≠ some t

theorem keeps_skip (t : Token) : Keeps pre (skip t) (Skipped pre t) := by
  refine (keeps_isNext t).bind fun b => ?_
  cases b with
  | false => exact .pure fun ts h => ⟨h.2, fun heq => by simpa using h.1.2 heq⟩
  | true =>
    have hnext : ∀ ts, (true = true ↔ ts.head? = some t) ∧ pre ts → some t = ts.head? ∧ pre ts :=
      fun ts h => ⟨(h.1.1 rfl).symm, h.2⟩
    exact (keeps_take_peeked.strengthen hnext).bind fun _ => .pure fun ts h => h

/-- What comes behind a token that is skipped if it comes next. -/
theorem Keeps.skip_bind {t : Token} {f : Bool → Parser α}
    (htrue : Keeps (fun ts => pre (t :: ts)) (f true) post) (hfalse : Keeps pre (f false) post) :
    Keeps pre (skip t >>= f) post := by
  refine (keeps_skip t).bind fun skipped => ?_
  cases skipped with
  | true => exact htrue
  | false => exact hfalse.strengthen fun ts h => h.1

theorem Keeps.skip_ite {t : Token} {x y : Parser α}
    (hx : Keeps (fun ts => pre (t :: ts)) x post) (hy : Keeps pre y post) :
    Keeps pre (skip t >>= fun skipped => if skipped = true then x else y) post :=
  skip_bind hx hy

theorem keeps_skipString : Keeps pre skipString fun v ts =>
    match v with
    | some v => pre (.string v :: ts)
    | none => pre ts := by
  rintro ⟨rest, last, fault, blocks, inMacro⟩ a s' hrun hpre
  rcases rest with - | ⟨⟨token, line⟩, rest⟩
  · cases hrun
    exact ⟨hpre, Nat.le_refl _⟩
  · cases token <;>
    · cases hrun
      exact ⟨hpre, by simp⟩

/-! ### Loops -/

namespace Keeps

variable {q : α → List Token → Prop} {step : α → Parser (Option α)}

/-- What a step keeps, a loop keeps, which may count the rounds that are left. -/
theorem repeatUpTo_counted {q : Nat → α → List Token → Prop}
    (h : ∀ n a, Keeps (q (n + 1) a) (step a) fun r ts => r.elim (q 0 a ts) fun b => q n b ts)
    (n : Nat) (a : α) : Keeps (q n a) (Parser.repeatUpTo step n a) (q 0) := by
  induction n generalizing a with
  | zero => exact .pure fun _ h => h
  | succ n ih =>
    refine (h n a).bind fun r => ?_
    cases r with
    | none => exact .pure fun _ h => h
    | some b => exact ih b

theorem repeatUpTo (h : ∀ a, Keeps (q a) (step a) fun r => q (r.getD a)) (n : Nat) (a : α) :
    Keeps (q a) (Parser.repeatUpTo step n a) q :=
  repeatUpTo_counted (q := fun _ => q) (fun _ a => (h a).weaken fun r _ hr => by
    cases r <;> exact hr) n a

theorem iterate (h : ∀ a, Keeps (q a) (step a) fun r => q (r.getD a)) (a : α) :
    Keeps (q a) (Parser.iterate step a) q :=
  keeps_remaining.bind fun n => (repeatUpTo h n a).strengthen fun _ h => h.2

/-- A loop makes as many rounds as there are tokens left. -/
theorem iterate_counted {q : Nat → α → List Token → Prop}
    (h : ∀ n a, Keeps (q (n + 1) a) (step a) fun r ts => r.elim (q 0 a ts) fun b => q n b ts)
    (a : α) : Keeps (fun ts => q ts.length a ts) (Parser.iterate step a) (q 0) :=
  keeps_remaining.bind fun n => (repeatUpTo_counted h n a).strengthen fun _ h => h.1 ▸ h.2

/-- A loop that has tokens to read makes a first step. -/
theorem iterate_first {a : α} (hpre : ∀ ts, pre ts → ts ≠ [])
    (hfirst : Keeps pre (step a) fun r => q (r.getD a))
    (h : ∀ a, Keeps (q a) (step a) fun r => q (r.getD a)) :
    Keeps pre (Parser.iterate step a) q := by
  refine keeps_remaining.bind fun n => ?_
  cases n with
  | zero => exact .vacuous fun ts h => hpre ts h.2 (List.length_eq_zero_iff.1 h.1.symm)
  | succ n =>
    refine (hfirst.strengthen fun _ h => h.2).bind fun r => ?_
    cases r with
    | none => exact .pure fun _ h => h
    | some b => exact repeatUpTo h n b

end Keeps

/-- What is left where an item of a list is read: only the opening of something, where no list
goes on, or what is good behind a good item. -/
def IsItem (p : Text → Bool) (good : α → Prop) (a : α) (ts : List Token) : Prop :=
  good a ∧ BehindKey p ts ∨ ts.head? = some (.symbol .openParen)

/-- What is known of a list that has been read so far, perhaps to its end. -/
def ListSoFar (p : Text → Bool) (good : α → Prop) (r : List α × Bool) (ts : List Token) : Prop :=
  if r.2 then (∀ a ∈ r.1, good a) ∧ MentionsOnly p ts
  else ((∀ a ∈ r.1, good a) ∧ BehindKey p ts ∧ (r.1 = [] → MentionsOnly p ts)) ∨
    (r.1 ≠ [] ∧ ts.head? = some (.symbol .openParen))

section Lists

variable {p : Text → Bool} {good : α → Prop} {close : Symbol}

theorem ListSoFar.closed (hcomma : close ≠ .comma) (hopen : close ≠ .openParen) {items : List α}
    {ts : List Token} (h : ListSoFar p good (items, false) (.symbol close :: ts)) :
    (∀ a ∈ items, good a) ∧ MentionsOnly p ts := by
  rcases h with ⟨hgood, hts, -⟩ | ⟨-, hhead⟩
  · exact ⟨hgood, (hts.mentionsOnly (by simpa using hcomma)).tail (by simp)⟩
  · exact absurd (Option.some.inj hhead) (by simpa using hopen)

theorem keeps_item {items : List α} {item : Parser α}
    (hitem : Keeps (AtValue p) item (IsItem p good)) :
    Keeps (fun ts => (∀ a ∈ items, good a) ∧ AtValue p ts)
      (do let a ← item; return some (items ++ [a], false))
      fun r => ListSoFar p good (r.getD (items, false)) := by
  refine .assume (fun ts hts => hts.1) fun hgood => ?_
  refine (hitem.strengthen fun ts hts => hts.2).bind fun a => .pure fun ts h => ?_
  rcases h with ⟨ha, hts⟩ | hhead
  · exact Or.inl ⟨List.forall_mem_append.2 ⟨hgood, by simpa using ha⟩, hts, by simp⟩
  · exact Or.inr ⟨by simp, hhead⟩

/-- Behind an item a list goes on with a comma. -/
theorem keeps_nextItem {items : List α} {item : Parser α}
    (hitem : Keeps (AtValue p) item (IsItem p good)) :
    Keeps (ListSoFar p good (items, false)) (do
      expectSymbol .comma
      if ← skipSymbol close then return some (items, true)
      let a ← item
      return some (items ++ [a], false)) fun r => ListSoFar p good (r.getD (items, false)) := by
  have hread : Keeps (ListSoFar p good (items, false)) (expectSymbol .comma) fun _ ts =>
      (∀ a ∈ items, good a) ∧ AtValue p ts := by
    refine (keeps_expect _).weaken fun _ ts h => ?_
    rcases h with ⟨hgood, hts, -⟩ | ⟨-, hhead⟩
    · exact ⟨hgood, hts.atValue⟩
    · cases hhead
  refine hread.bind fun _ => .skip_ite (.pure fun ts h => ⟨h.1, ?_⟩) (keeps_item hitem)
  exact (h.2.mentionsOnly (by simp)).tail (by simp)

/-- **Lists are good if their items are.**  An item may be a slot source, except for the first
one. -/
theorem Keeps.commaList (hcomma : close ≠ .comma) (hopen : close ≠ .openParen)
    {item : List α → Parser α}
    (hitem : ∀ before, Keeps (AtValue p) (item before) (IsItem p good)) :
    Keeps (MentionsOnly p) (Parser.commaList close item) fun items ts =>
      (∀ a ∈ items, good a) ∧ MentionsOnly p ts := by
  refine bind ((iterate (q := ListSoFar p good) (fun r => ?_) ([], false)).strengthen ?_)
    fun r => ?_
  · obtain ⟨items, closed⟩ := r
    cases closed with
    | true => exact .pure fun _ h => h
    | false =>
      refine .skip_ite (.pure fun _ h => h.closed hcomma hopen) ?_
      cases items with
      | nil =>
        refine (keeps_item (hitem [])).strengthen fun ts h => ⟨by simp, ?_⟩
        rcases h with ⟨-, -, hfirst⟩ | ⟨hne, -⟩
        · exact Or.inl (hfirst rfl)
        · exact absurd rfl hne
      | cons a items => exact keeps_nextItem (hitem _)
  · exact fun ts h => Or.inl ⟨by simp, Or.inl h, fun _ => h⟩
  · obtain ⟨items, closed⟩ := r
    cases closed with
    | true => exact .pure fun _ h => h
    | false => exact bind (keeps_expect _) fun _ => .pure fun _ h => h.closed hcomma hopen

end Lists

end Parser

end Componentry.Template
