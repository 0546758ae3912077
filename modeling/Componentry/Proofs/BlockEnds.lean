import Componentry.Proofs.Cursor.Bytes
import Componentry.Proofs.Verbatim

/-! # Where a block ends for the scanner and for the lexer

Two readers look for the end of a template block.  The scanner (`Block.inside`)
ends it at the first closing delimiter outside of string literals.  The lexer
(`Template.readCode`) reads token by token, and a closing delimiter counts for it
only where all brackets are closed again.

Both are compared with the brackets that are open behind a text
(`Block.openBrackets?`), which leaves string literals out in the way the scanner
does.  `Template.readCode_closed` says that the lexer ends a block at the first
closing delimiter outside of literals and brackets, so the two ends differ exactly
for blocks that have a delimiter in brackets (`Block.HasBracketedEnd`), such as a
map in a map.
-/
namespace Componentry

/-- The closing delimiter of a kind of block. -/
def BlockKind.closing (kind : BlockKind) : Text := [kind.closeMark, '}']

namespace Block

/-! ## Open brackets -/

/-- How many more brackets are open behind a character than before it. -/
def bracket (c : Char) : Int :=
  if c = '(' || c = '[' || c = '{' then 1
  else if c = ')' || c = ']' || c = '}' then -1
  else 0

/-- How many brackets a text leaves open outside of its string literals; none if
it ends in a literal.  `literal` is the quote of the literal that it starts in. -/
def openBrackets? : Option Char → Text → Option Int
  | none, [] => some 0
  | some _, [] => none
  | some q, c :: s =>
    if c = '\\' then
      match s with
      | [] => none
      | _ :: s' => openBrackets? (some q) s'
    else openBrackets? (if c = q then none else some q) s
  | none, c :: s =>
    if isQuote c then openBrackets? (some c) s
    else (openBrackets? none s).map (bracket c + ·)

/-- Outside of string literals, a closing delimiter stands in the block where
brackets are open. -/
def HasBracketedEnd (kind : BlockKind) (block : Text) : Prop :=
  ∃ v w n, block = '{' :: kind.mark :: (v ++ (kind.closing ++ w)) ∧
    openBrackets? none v = some n ∧ n ≠ 0

theorem openBrackets?_char {c : Char} (h : isQuote c = false) (s : Text) :
    openBrackets? none (c :: s) = (openBrackets? none s).map (bracket c + ·) := by
  simp [openBrackets?, h]

theorem openBrackets?_quote {c : Char} (h : isQuote c = true) (s : Text) :
    openBrackets? none (c :: s) = openBrackets? (some c) s := by
  simp [openBrackets?, h]

theorem openBrackets?_literal {q c : Char} (h : c ≠ '\\') (s : Text) :
    openBrackets? (some q) (c :: s) = openBrackets? (if c = q then none else some q) s := by
  rw [openBrackets?.eq_def]
  simp [h]

/-! ## The scanner's end -/

/-- Up to a closing delimiter outside of literals, the scanner ends the block at a
closing delimiter outside of literals, whatever follows. -/
theorem inside_closing {kind : BlockKind} (hk : kind.hasLiterals = true) {literal : Option Char}
    {u : Text} {n : Int} (h : openBrackets? literal u = some n) :
    ∃ v w m, u ++ kind.closing = v ++ (kind.closing ++ w) ∧ openBrackets? literal v = some m ∧
      ∀ rest, inside kind literal (u ++ (kind.closing ++ rest)) = (v ++ kind.closing, w ++ rest) := by
  have hmark : isQuote kind.closeMark = false := by cases kind <;> decide
  fun_induction openBrackets? literal u generalizing n with
  | case1 =>
    refine ⟨[], [], 0, by simp, rfl, fun rest => ?_⟩
    rw [inside.eq_def]
    simp [BlockKind.closing, hmark]
  | case2 => cases h
  | case3 => cases h
  | case4 q d s ih =>
    obtain ⟨v, w, m, hu, hv, hin⟩ := ih h
    refine ⟨'\\' :: d :: v, w, m, by simp [hu], by simpa [openBrackets?] using hv, fun rest => ?_⟩
    simp [inside, hin, Prod.map]
  | case5 q c s hc ih =>
    obtain ⟨v, w, m, hu, hv, hin⟩ := ih h
    refine ⟨c :: v, w, m, by simp [hu], by rwa [openBrackets?_literal hc], fun rest => ?_⟩
    rw [List.cons_append, inside_literal hc, hin]
    rfl
  | case6 c s hq ih =>
    obtain ⟨v, w, m, hu, hv, hin⟩ := ih h
    refine ⟨c :: v, w, m, by simp [hu], by rwa [openBrackets?_quote hq], fun rest => ?_⟩
    rw [List.cons_append, inside_quote hk hq, hin]
    rfl
  | case7 c s hq ih =>
    replace hq : isQuote c = false := by simpa using hq
    obtain ⟨n', hn', -⟩ := Option.map_eq_some_iff.1 h
    -- The delimiter may start here, with the brace taken from the one behind `u`.
    by_cases hc : c = kind.closeMark ∧ ∃ t, s ++ kind.closing = '}' :: t
    · obtain ⟨rfl, t, ht⟩ := hc
      refine ⟨[], t, 0, by rw [List.cons_append, ht]; rfl, rfl, fun rest => ?_⟩
      have happ : s ++ (kind.closing ++ rest) = '}' :: (t ++ rest) := by
        rw [← List.append_assoc, ht, List.cons_append]
      rw [List.cons_append, happ, inside.eq_def]
      simp [hq, BlockKind.closing]
    · obtain ⟨v, w, m, hu, hv, hin⟩ := ih hn'
      refine ⟨c :: v, w, bracket c + m, by simp [hu], by rw [openBrackets?_char hq, hv]; rfl,
        fun rest => ?_⟩
      have hne : ¬ (c = kind.closeMark ∧ ∃ t, s ++ (kind.closing ++ rest) = '}' :: t) := by
        rintro ⟨hmark, t, ht⟩
        refine hc ⟨hmark, ?_⟩
        cases s with
        | nil =>
          have hbrace : kind.closeMark = '}' := (List.cons.inj ht).1
          exact ⟨['}'], by simp [BlockKind.closing, hbrace]⟩
        | cons d s =>
          rw [List.cons_append, List.cons.injEq] at ht
          exact ⟨s ++ kind.closing, by rw [List.cons_append, ht.1]⟩
      rw [List.cons_append, inside_char (by simp [hq]) hne, hin]
      rfl

/-! ## The lexer's end -/

theorem append_cases {α : Type} {x u v w : List α} (h : x ++ u = v ++ w) :
    (∃ v', v = x ++ v' ∧ u = v' ++ w) ∨ ∃ c y, x = v ++ c :: y ∧ w = c :: (y ++ u) := by
  rcases List.append_eq_append_iff.1 h with hv | ⟨y, rfl, hw⟩
  · exact Or.inl hv
  · cases y with
    | nil => exact Or.inl ⟨[], by simp, by simpa using hw.symm⟩
    | cons c y => exact Or.inr ⟨c, y, rfl, hw⟩

/-- A text that the lexer reads as a whole: it opens `n` brackets, and behind its
first character no closing delimiter starts in it outside of literals. -/
structure IsLexeme (x : Text) (n : Int) : Prop where
  opens : ∀ rest, openBrackets? none (x ++ rest) = (openBrackets? none rest).map (n + ·)
  whole : ∀ v c w, x = v ++ c :: w → v ≠ [] → openBrackets? none v = none ∨ (c ≠ '}' ∧ c ≠ '%')

theorem IsLexeme.char {c : Char} (h : isQuote c = false) : IsLexeme [c] (bracket c) where
  opens rest := openBrackets?_char h rest
  whole v d w hx hv := by
    cases v with
    | nil => exact absurd rfl hv
    | cons a v => simp at hx

/-- The characters with a meaning for the end of a block of code. -/
def marks : Text := ['"', '\'', '(', '[', '{', ')', ']', '}', '%']

theorem IsLexeme.inert {x : Text} (h : ∀ c ∈ x, c ∉ marks) : IsLexeme x 0 where
  opens rest := by
    induction x with
    | nil => simp
    | cons c x ih =>
      have hc := h c (by simp)
      simp only [marks, List.mem_cons, List.not_mem_nil, or_false, not_or] at hc
      have hq : isQuote c = false := by simp [isQuote, hc]
      have hb : bracket c = 0 := by simp [bracket, hc]
      rw [List.cons_append, openBrackets?_char hq, ih fun d hd => h d (by simp [hd]), hb]
      simp
  whole v c w hx _ := by
    have hc := h c (by simp [hx])
    refine Or.inr ⟨?_, ?_⟩ <;>
      · rintro rfl
        exact hc (by decide)

theorem IsLexeme.inert_char {c : Char} (h : c ∉ marks) : IsLexeme [c] 0 :=
  .inert fun d hd => by rwa [List.mem_singleton.1 hd]

/-- A predicate that fails for all marks singles out other characters. -/
theorem notMem_marks {p : Char → Bool} (hp : marks.all (fun c => !p c) = true) {c : Char}
    (h : p c = true) : c ∉ marks := by
  intro hc
  have := List.all_eq_true.1 hp c hc
  simp [h] at this

/-- Behind `opened` open brackets, a block ends with the closing delimiter behind
`u`: that one is outside of literals and brackets, and no earlier one is. -/
structure ClosesBehind (kind : BlockKind) (opened : Int) (u : Text) : Prop where
  closed : openBrackets? none u = some (-opened)
  first : ∀ v w n, u ++ kind.closing = v ++ (kind.closing ++ w) → openBrackets? none v = some n →
    opened + n = 0 → w = []

theorem ClosesBehind.nil (kind : BlockKind) : ClosesBehind kind 0 [] where
  closed := rfl
  first v w n hv _ _ := by
    have hlen := congrArg List.length hv
    simp only [List.nil_append, List.length_append] at hlen
    exact List.eq_nil_of_length_eq_zero (by omega)

/-- A text that is read as a whole, in front of the end of a block. -/
theorem ClosesBehind.append {kind : BlockKind} (hk : kind.hasLiterals = true) {opened n : Int}
    {x u : Text} (hx : IsLexeme x n)
    (hstart : opened = 0 → ¬ kind.closing <+: x ++ (u ++ kind.closing))
    (hu : ClosesBehind kind (opened + n) u) : ClosesBehind kind opened (x ++ u) where
  closed := by
    rw [hx.opens, hu.closed, Option.map_some]
    congr 1
    omega
  first v w m hv hm hzero := by
    rw [List.append_assoc] at hv
    rcases append_cases hv with ⟨v', rfl, hv'⟩ | ⟨c, y, rfl, hy⟩
    -- The delimiter starts behind `x`.
    · rw [hx.opens] at hm
      obtain ⟨m', hm', rfl⟩ := Option.map_eq_some_iff.1 hm
      exact hu.first v' w m' hv' hm' (by omega)
    -- It starts in `x`, where only the first character is not ruled out.
    · have hmark : c = kind.closeMark := by
        rw [BlockKind.closing, List.cons_append, List.cons_append, List.cons.injEq] at hy
        exact hy.1.symm
      by_cases hv₀ : v = []
      · subst hv₀
        cases hm
        exact absurd ⟨w, hv.symm⟩ (hstart (by omega))
      · rcases hx.whole v c y rfl hv₀ with hnone | ⟨h₁, h₂⟩
        · rw [hnone] at hm
          cases hm
        · cases kind with
          | expression => exact absurd hmark h₁
          | statement => exact absurd hmark h₂
          | comment => cases hk

/-! ## Where the two ends differ -/

/-- The scanner ends the block that starts `source` where `w` is left of it, whatever
follows. -/
def Leaves (source w : Text) : Prop :=
  ∃ block, source = block ++ w ∧ ∀ rest, cut? (source ++ rest) = some (block, w ++ rest)

theorem cut?_cons (kind : BlockKind) (s : Text) :
    cut? ('{' :: kind.mark :: s) = some ((inside kind none s).map ('{' :: kind.mark :: ·) id) := by
  cases kind <;> rfl

/-- **The scanner and the lexer agree on the end of a block of code** unless a closing
delimiter stands in brackets. -/
theorem ClosesBehind.leaves {kind : BlockKind} (hk : kind.hasLiterals = true) {u : Text}
    (hu : ClosesBehind kind 0 u) :
    ∃ w, Leaves ('{' :: kind.mark :: (u ++ kind.closing)) w ∧
      (w = [] ↔ ¬ HasBracketedEnd kind ('{' :: kind.mark :: (u ++ kind.closing))) := by
  obtain ⟨v, w, m, hv, hm, hin⟩ := inside_closing hk hu.closed
  refine ⟨w, ⟨'{' :: kind.mark :: (v ++ kind.closing), by simp [hv], fun rest => ?_⟩, ?_, ?_⟩
  · rw [List.cons_append, List.cons_append, List.append_assoc, cut?_cons, hin]
    rfl
  · rintro rfl ⟨v', w', n, hv', hn, hne⟩
    obtain ⟨v₂, w₂, -, hv₂, -, hin₂⟩ := inside_closing hk hn
    simp only [List.cons.injEq, true_and] at hv'
    have hsame : v ++ kind.closing = v₂ ++ kind.closing := by
      have h₁ := hin []
      have h₂ := hin₂ w'
      rw [List.append_nil, hv', h₂] at h₁
      exact (Prod.mk.inj h₁).1.symm
    obtain rfl := List.append_cancel_right hsame
    -- A delimiter that the scanner does not reach stands at the end, where no bracket is open.
    have hlen : v'.length = u.length := by
      have h₁ := congrArg List.length hv
      have h₂ := congrArg List.length hv'
      have h₃ := congrArg List.length hv₂
      simp only [List.length_append, List.length_nil] at h₁ h₂ h₃
      omega
    have hvu : v' = u := (List.append_inj hv'.symm hlen).1
    rw [hvu, hu.closed] at hn
    exact hne (by simpa using hn.symm)
  · intro hnone
    refine hu.first v w m hv hm ?_
    by_cases hm₀ : m = 0
    · rw [hm₀, Int.add_zero]
    · exact absurd ⟨v, w, m, by rw [hv], hm, hm₀⟩ hnone

/-- A comment ends with the first closing delimiter. -/
theorem inside_comment {s inner rest : Text} (h : Text.cut? ['#', '}'] s = some (inner, rest))
    (more : Text) : inside .comment none (inner ++ '#' :: '}' :: more) = (inner ++ ['#', '}'], more) := by
  induction s generalizing inner with
  | nil => cases h
  | cons c s ih =>
    rw [Text.cut?] at h
    split at h
    · cases h
      rfl
    · rename_i hnone
      obtain ⟨⟨inner', rest'⟩, hcut, heq⟩ := Option.map_eq_some_iff.1 h
      cases heq
      have hs := Text.cut?_eq_some hcut
      have hne : ¬ (c = '#' ∧ ∃ t, inner' ++ '#' :: '}' :: more = '}' :: t) := by
        rintro ⟨rfl, t, ht⟩
        cases inner' with
        | nil => cases ht
        | cons d inner' =>
          cases ht
          rw [hs] at hnone
          cases hnone
      rw [List.cons_append, inside_char rfl hne, ih hcut]
      rfl

end Block

namespace Template

open Block

/-! ## Tokens -/

theorem doubleSymbol?_lexeme {a b : Char} {symbol : Symbol} (h : doubleSymbol? a b = some symbol) :
    IsLexeme [a, b] (Token.symbol symbol).opens := by
  unfold doubleSymbol? at h
  have hinert : a ∉ marks ∧ b ∉ marks ∧ (Token.symbol symbol).opens = 0 := by
    repeat' split at h
    all_goals
      cases h <;>
      · rename_i hab
        simp only [Bool.and_eq_true, decide_eq_true_eq] at hab
        obtain ⟨rfl, rfl⟩ := hab
        decide
  rw [hinert.2.2]
  refine .inert fun c hc => ?_
  simp only [List.mem_cons, List.not_mem_nil, or_false] at hc
  rcases hc with rfl | rfl
  · exact hinert.1
  · exact hinert.2.1

theorem singleSymbol?_lexeme {c : Char} {symbol : Symbol} (h : singleSymbol? c = some symbol) :
    IsLexeme [c] (Token.symbol symbol).opens := by
  have hc : isQuote c = false ∧ bracket c = (Token.symbol symbol).opens := by
    unfold singleSymbol? at h
    split at h <;> cases h <;> decide
  rw [← hc.2]
  exact .char hc.1

/-- The inside of a string ends where the scanner leaves the literal, and not
before. -/
theorem stringBody?_literal {q : Char} (hq : isQuote q = true) {s body rest : Text}
    (h : stringBody? q s = some (body, rest)) :
    s = body ++ q :: rest ∧
      (∀ r, openBrackets? (some q) (body ++ q :: r) = openBrackets? none r) ∧
      ∀ v, v <+: body → openBrackets? (some q) v = none := by
  have hq' : q ≠ '\\' := by
    rintro rfl
    cases hq
  fun_induction stringBody? q s generalizing body with
  | case1 => cases h
  | case2 => cases h
  | case3 c s ih =>
    simp only [Option.map_eq_some_iff, Prod.exists, Prod.mk.injEq] at h
    obtain ⟨a, b, hab, rfl, rfl⟩ := h
    obtain ⟨rfl, hout, hin⟩ := ih hab
    refine ⟨rfl, fun r => ?_, fun v hv => ?_⟩
    · rw [List.cons_append, List.cons_append, openBrackets?]
      exact hout r
    · rcases v with _ | ⟨d, _ | ⟨e, v⟩⟩
      · rfl
      · rw [(List.cons_prefix_cons.1 hv).1]
        rfl
      · obtain ⟨hd, hv⟩ := List.cons_prefix_cons.1 hv
        rw [hd, openBrackets?]
        exact hin v (List.cons_prefix_cons.1 hv).2
  | case4 s =>
    cases h
    refine ⟨rfl, fun r => ?_, fun v hv => ?_⟩
    · rw [List.nil_append, openBrackets?_literal hq', if_pos rfl]
    · rw [List.prefix_nil.1 hv]
      rfl
  | case5 c s hlast hback hne ih =>
    have hc : c ≠ '\\' := by
      rintro rfl
      cases s with
      | nil => exact hlast rfl rfl
      | cons d s => exact hback d s rfl rfl
    simp only [Option.map_eq_some_iff, Prod.exists, Prod.mk.injEq] at h
    obtain ⟨a, b, hab, rfl, rfl⟩ := h
    obtain ⟨rfl, hout, hin⟩ := ih hab
    refine ⟨rfl, fun r => ?_, fun v hv => ?_⟩
    · rw [List.cons_append, openBrackets?_literal hc, if_neg hne]
      exact hout r
    · cases v with
      | nil => rfl
      | cons d v =>
        obtain ⟨rfl, hv'⟩ := List.cons_prefix_cons.1 hv
        rw [openBrackets?_literal hc, if_neg hne]
        exact hin v hv'

theorem string_lexeme {q : Char} (hq : isQuote q = true) {s body rest : Text}
    (h : stringBody? q s = some (body, rest)) :
    s = body ++ q :: rest ∧ IsLexeme (q :: (body ++ [q])) 0 := by
  obtain ⟨hs, hout, hin⟩ := stringBody?_literal hq h
  refine ⟨hs, ⟨fun r => ?_, fun v c w hx hv => Or.inl ?_⟩⟩
  · rw [List.cons_append, List.append_assoc, openBrackets?_quote hq, List.singleton_append, hout]
    simp
  · cases v with
    | nil => exact absurd rfl hv
    | cons d v =>
      obtain ⟨rfl, hx'⟩ := List.cons.inj hx
      rw [openBrackets?_quote hq]
      -- Behind the quote, the text before a character of the literal is all inside of it.
      rcases append_cases hx' with ⟨v', rfl, hv'⟩ | ⟨d, y, rfl, -⟩
      · have hnil : v' = [] := by
          cases v' with
          | nil => rfl
          | cons => simp at hv'
        exact hin _ (by simp [hnil])
      · exact hin _ (List.prefix_append _ _)

theorem NumberPart.next?_inert {part next : NumberPart} {c : Char} {s : Text}
    (h : part.next? c s = some next) : c ∉ marks := by
  intro hc
  simp only [marks, List.mem_cons, List.not_mem_nil, or_false] at hc
  rcases hc with rfl | rfl | rfl | rfl | rfl | rfl | rfl | rfl | rfl <;>
    simp [NumberPart.next?, Text.isAsciiDigit] at h

theorem decimalRun_inert {part : NumberPart} {s : Text} :
    s = (decimalRun part s).1 ++ (decimalRun part s).2.2 ∧
      ∀ c ∈ (decimalRun part s).1, c ∉ marks := by
  induction s generalizing part with
  | nil => exact ⟨rfl, by simp [decimalRun]⟩
  | cons c s ih =>
    rw [decimalRun]
    split
    · exact ⟨rfl, by simp⟩
    · rename_i next hnext
      obtain ⟨happ, hall⟩ := @ih next
      refine ⟨congrArg (c :: ·) happ, ?_⟩
      simp only [List.forall_mem_cons]
      exact ⟨NumberPart.next?_inert hnext, hall⟩

theorem isBaseDigit_inert {base : Nat} {c : Char} (h : isBaseDigit base c = true) : c ∉ marks := by
  have hdigit : (isDigitOrUnderscore c || (Text.hexDigit? c).isSome) = true := by
    simp only [isBaseDigit, Bool.or_eq_true, Bool.and_eq_true] at h ⊢
    exact h.imp_right And.right
  exact notMem_marks (p := fun c => isDigitOrUnderscore c || (Text.hexDigit? c).isSome) (by decide)
    hdigit

theorem basePrefix?_inert {s t : Text} {base : Nat} (h : basePrefix? s = some (base, t)) :
    ∃ x, s = x ++ t ∧ ∀ c ∈ x, c ∉ marks := by
  unfold basePrefix? at h
  split at h
  · rename_i c r
    refine ⟨['0', c], ?_⟩
    repeat' split at h
    all_goals
      cases h <;>
      · rename_i hc
        simp only [Bool.or_eq_true, decide_eq_true_eq] at hc
        have hmark : c ∉ marks := by rcases hc with rfl | rfl <;> decide
        refine ⟨rfl, fun d hd => ?_⟩
        rcases List.mem_cons.1 hd with rfl | hd
        · decide
        · rwa [List.mem_singleton.1 hd]
  · cases h

theorem readNumber_inert (s : Text) :
    ∃ x, s = x ++ (readNumber s).2 ∧ ∀ c ∈ x, c ∉ marks := by
  unfold readNumber
  split
  · rename_i base t ht
    obtain ⟨x, hx, hall⟩ := basePrefix?_inert ht
    refine ⟨x ++ t.takeWhile (isBaseDigit base), ?_, ?_⟩
    · rw [hx, List.append_assoc, List.takeWhile_append_dropWhile]
    · intro c hc
      rcases List.mem_append.1 hc with hc | hc
      · exact hall c hc
      · exact isBaseDigit_inert (List.all_eq_true.1 List.all_takeWhile c hc)
  · exact ⟨_, decimalRun_inert.1, decimalRun_inert.2⟩

theorem integerToken?_isNumber {base : Nat} {digits : Text} {token : Token}
    (h : integerToken? base digits = some token) : ∃ n, token = .integer n := by
  simp only [integerToken?, Option.bind_eq_bind, Option.bind_eq_some_iff] at h
  obtain ⟨_, _, n, _, hn⟩ := h
  split at hn <;> cases hn
  exact ⟨n, rfl⟩

theorem floatToken?_isNumber {s : Text} {token : Token} (h : floatToken? s = some token) :
    ∃ digits exponent, token = .float digits exponent := by
  simp only [floatToken?, Option.bind_eq_bind, Option.bind_eq_some_iff, Option.pure_def,
    Option.some.injEq] at h
  obtain ⟨_, _, _, _, rfl⟩ := h
  exact ⟨_, _, rfl⟩

theorem readNumber_isNumber {s rest : Text} {token : Token}
    (h : readNumber s = (some token, rest)) :
    (∃ n, token = .integer n) ∨ ∃ digits exponent, token = .float digits exponent := by
  unfold readNumber readDecimal at h
  split at h
  · exact Or.inl (integerToken?_isNumber (Prod.mk.inj h).1)
  · have htoken := (Prod.mk.inj h).1
    split at htoken
    · exact Or.inl (integerToken?_isNumber htoken)
    · obtain ⟨_, _, hfloat⟩ := Option.bind_eq_some_iff.1 htoken
      exact Or.inr (floatToken?_isNumber hfloat)

/-- **Every token is read as a whole**, and none is the end of a block. -/
theorem readToken_lexeme {line : Nat} {c : Char} {s rest : Text} {token : Token}
    (h : readToken line c s = .ok (token, rest)) :
    (∃ x, c :: s = x ++ rest ∧ IsLexeme x token.opens) ∧ ∀ kind : CodeKind, token ≠ kind.stop := by
  unfold readToken at h
  split at h
  · rename_i symbol hd
    obtain ⟨d, hhead, hdouble⟩ := Option.bind_eq_some_iff.1 hd
    cases s with
    | nil => cases hhead
    | cons e s =>
      cases hhead
      cases h
      exact ⟨⟨[c, d], rfl, doubleSymbol?_lexeme hdouble⟩, fun kind hstop => by cases kind <;> cases hstop⟩
  split at h
  · rename_i symbol hsingle
    cases h
    exact ⟨⟨[c], rfl, singleSymbol?_lexeme hsingle⟩, fun kind hstop => by cases kind <;> cases hstop⟩
  split at h
  · rename_i hq
    split at h
    · cases h
    split at h
    · cases h
    rename_i body rest' hbody _ value _
    cases h
    obtain ⟨rfl, hx⟩ := string_lexeme hq hbody
    exact ⟨⟨c :: (body ++ [c]), by simp, hx⟩, fun kind hstop => by cases kind <;> cases hstop⟩
  split at h
  · split at h
    · rename_i token' rest' hnumber
      cases h
      obtain ⟨x, hx, hall⟩ := readNumber_inert (c :: s)
      rw [hnumber] at hx
      rcases readNumber_isNumber hnumber with ⟨n, rfl⟩ | ⟨digits, exponent, rfl⟩ <;>
        exact ⟨⟨x, hx, .inert hall⟩, fun kind hstop => by cases kind <;> cases hstop⟩
    · cases h
  split at h
  · rename_i hstart
    cases h
    refine ⟨⟨c :: s.takeWhile isIdentChar, by simp [List.takeWhile_append_dropWhile], .inert ?_⟩,
      fun kind hstop => by cases kind <;> cases hstop⟩
    simp only [List.forall_mem_cons]
    exact ⟨notMem_marks (p := isIdentStart) (by decide) hstart, fun d hd =>
      notMem_marks (p := isIdentChar) (by decide) (List.all_eq_true.1 List.all_takeWhile d hd)⟩
  · cases h

/-! ## Blocks of code -/

theorem CodeKind.hasLiterals (kind : CodeKind) : kind.blockKind.hasLiterals = true := by
  cases kind <;> rfl

/-- A sign of white-space control does not end a block by itself. -/
theorem not_closing_sign (kind : CodeKind) {c : Char} (hc : c = '-' ∨ c = '+') (s : Text) :
    ¬ kind.blockKind.closing <+: c :: s := by
  intro h
  have hmark := (List.cons_prefix_cons.1 h).1
  rcases hc with rfl | rfl <;> cases kind <;> exact absurd hmark (by decide)

theorem codeEnd?_closes {kind : CodeKind} {s rest : Text} {trim : Bool}
    (h : codeEnd? kind s = some (trim, rest)) :
    ∃ u, s = u ++ (kind.blockKind.closing ++ rest) ∧ ClosesBehind kind.blockKind 0 u := by
  unfold codeEnd? at h
  split at h
  · rename_i c t
    split at h
    · rename_i r hr
      cases h
      split at hr
      · rename_i hc
        simp only [Bool.or_eq_true, decide_eq_true_eq] at hc
        refine ⟨[c], ?_, ?_⟩
        · rw [Text.dropPrefix?_eq_some.1 hr]
          rfl
        · have hx : IsLexeme [c] 0 := .inert_char (by rcases hc with rfl | rfl <;> decide)
          exact ClosesBehind.append kind.hasLiterals hx
            (fun _ => not_closing_sign kind hc _) (.nil _)
      · cases hr
    · obtain ⟨r, hr, heq⟩ := Option.map_eq_some_iff.1 h
      cases heq
      refine ⟨[], ?_, .nil _⟩
      rw [Text.dropPrefix?_eq_some.1 hr]
      rfl
  · cases h

theorem codeEnd?_closing {kind : CodeKind} {s : Text} (h : codeEnd? kind s = none) :
    ¬ kind.blockKind.closing <+: s := by
  rintro ⟨t, rfl⟩
  have hdrop : Text.dropPrefix? kind.blockKind.closing (kind.blockKind.closing ++ t) = some t :=
    Text.dropPrefix?_eq_some.2 rfl
  rw [BlockKind.closing] at hdrop h
  rw [List.cons_append, codeEnd?] at h
  split at h
  · cases h
  · rw [← List.cons_append, hdrop] at h
    cases h

/-- **The lexer ends a block of code** at the first closing delimiter outside of
literals and brackets. -/
theorem readCode_closed {kind : CodeKind} {opened : Int} {line line' : Nat} {s rest : Text}
    {trim : Bool} {lexemes : List Lexeme}
    (h : readCode kind opened line s = (lexemes, .closed trim line' rest)) :
    ∃ u, s = u ++ (kind.blockKind.closing ++ rest) ∧ ClosesBehind kind.blockKind opened u := by
  have hk := kind.hasLiterals
  fun_induction readCode kind opened line s generalizing lexemes with
  | case1 => cases h
  | case2 opened line c t hblank ih =>
    obtain ⟨u, rfl, hu⟩ := ih h
    have hx : IsLexeme [c] 0 := .inert fun d hd => by
      rw [List.mem_singleton.1 hd]
      exact notMem_marks (by decide) hblank
    refine ⟨c :: u, rfl, ClosesBehind.append hk hx (fun _ hstart => ?_) (by simpa using hu)⟩
    have hmark := (List.cons_prefix_cons.1 hstart).1
    subst hmark
    cases kind <;> cases hblank
  | case3 opened line c t hblank trim' rest' hend =>
    cases h
    split at hend
    · rename_i hopened
      rw [hopened]
      exact codeEnd?_closes hend
    · cases hend
  | case4 => cases h
  | case5 =>
    rename_i hend token rest' htoken _ _ _ _ hrec ih
    cases h
    obtain ⟨x, hx, hlexeme⟩ := (readToken_lexeme htoken).1
    obtain ⟨u, rfl, hu⟩ := ih hrec
    refine ⟨x ++ u, by rw [hx, List.append_assoc], ClosesBehind.append hk hlexeme ?_ hu⟩
    rintro rfl ⟨w, hw⟩
    refine codeEnd?_closing (by simpa using hend) ⟨w ++ rest, ?_⟩
    rw [hx, ← List.append_assoc, hw]
    simp

/-! ## The segments of a source -/

/-- The kind of the template block that a segment is, which the lexer has read to its
closing delimiter. -/
def Segment.block? : Segment → Option BlockKind
  | .comment _ => some .comment
  | .code kind _ lexemes => if lexemes.any (·.token = kind.stop) then some kind.blockKind else none
  | _ => none

/-- The scanner ends a block where the lexer does unless a closing delimiter stands in
brackets. -/
def Segment.EndsAgree (segment : Segment) : Prop :=
  ∀ kind, segment.block? = some kind →
    ∃ w, Leaves segment.source w ∧
      (w = [] ↔ kind = .comment ∨ ¬ HasBracketedEnd kind segment.source)

/-- The token of the closing delimiter is read only at the end. -/
theorem readCode_stop {kind : CodeKind} {opened : Int} {line : Nat} {s : Text}
    {lexemes : List Lexeme} {stop : CodeEnd} (h : readCode kind opened line s = (lexemes, stop))
    (hstop : ∃ l ∈ lexemes, l.token = kind.stop) :
    ∃ trim line' rest, stop = .closed trim line' rest := by
  fun_induction readCode kind opened line s generalizing lexemes with
  | case1 => cases h; simp at hstop
  | case2 _ _ _ _ _ ih => exact ih h hstop
  | case3 => cases h; exact ⟨_, _, _, rfl⟩
  | case4 => cases h; simp at hstop
  | case5 =>
    rename_i htoken _ _ _ _ hrec ih
    cases h
    obtain ⟨l, hl, hl'⟩ := hstop
    rcases List.mem_cons.1 hl with rfl | hl
    · exact absurd hl' ((readToken_lexeme htoken).2 kind)
    · exact ih hrec ⟨l, hl, hl'⟩

theorem dropControl_eq (s : Text) :
    s = dropControl s ∨ ∃ c, (c = '-' ∨ c = '+') ∧ s = c :: dropControl s := by
  unfold dropControl
  split
  · exact Or.inl rfl
  · split
    · rename_i hc
      simp only [Bool.or_eq_true, decide_eq_true_eq] at hc
      exact Or.inr ⟨_, hc, rfl⟩
    · exact Or.inl rfl

/-- A block of code up to its closing delimiter, with the sign that may stand behind the
opening one. -/
theorem lexCode_closed {kind : CodeKind} {line line' : Nat} {s rest : Text} {trim : Bool}
    {lexemes : List Lexeme}
    (h : readCode kind 0 line (dropControl s) = (lexemes, .closed trim line' rest)) :
    ∃ u, s = u ++ (kind.blockKind.closing ++ rest) ∧ ClosesBehind kind.blockKind 0 u := by
  obtain ⟨u, hs, hu⟩ := readCode_closed h
  rcases dropControl_eq s with heq | ⟨c, hc, heq⟩
  · exact ⟨u, heq.trans hs, hu⟩
  · have hx : IsLexeme [c] 0 := .inert_char (by rcases hc with rfl | rfl <;> decide)
    refine ⟨c :: u, ?_, .append kind.hasLiterals hx (fun _ => not_closing_sign kind hc _) hu⟩
    rw [heq, hs]
    rfl

/-- What the lexer makes of the start of `s`: segments whose ends agree, and the rest. -/
structure Cuts (s : Text) (step : List Segment × LexNext) : Prop where
  agree : ∀ segment ∈ step.1, segment.EndsAgree
  covers : ∃ rest, s = step.1.flatMap Segment.source ++ rest ∧
    ∀ trim line more, step.2 = .more trim line more → rest = more

theorem take_append_length {v rest : Text} : (v ++ rest).take ((v ++ rest).length - rest.length) = v := by
  rw [List.length_append, Nat.add_sub_cancel, List.take_left]

theorem Segment.EndsAgree.of_none {segment : Segment} (h : segment.block? = none) :
    segment.EndsAgree := fun kind hkind => by
  rw [h] at hkind
  cases hkind

/-- A block of code that the lexer does not close reaches to the end of the source. -/
theorem open_cuts {kind : CodeKind} {line : Nat} {s : Text} {lexemes : List Lexeme} {stop : CodeEnd}
    {next : LexNext} (hread : readCode kind 0 line (dropControl s) = (lexemes, stop))
    (hstop : ∀ trim line' rest, stop ≠ .closed trim line' rest)
    (hnext : ∀ trim line' rest, next ≠ .more trim line' rest) :
    Cuts ('{' :: kind.blockKind.mark :: s)
      ([.code kind ('{' :: kind.blockKind.mark :: s) (⟨kind.start, line⟩ :: lexemes)], next) := by
  refine ⟨fun segment hmem => ?_, [], by simp [Segment.source], fun trim line' rest h => ?_⟩
  · rw [List.mem_singleton.1 hmem]
    refine .of_none ?_
    have hnot : ¬ ∃ l ∈ (⟨kind.start, line⟩ :: lexemes : List Lexeme), l.token = kind.stop := by
      rintro ⟨l, hl, hl'⟩
      rcases List.mem_cons.1 hl with rfl | hl
      · cases kind <;> cases hl'
      · obtain ⟨trim, line', rest, rfl⟩ := readCode_stop hread ⟨l, hl, hl'⟩
        exact hstop _ _ _ rfl
    rw [Segment.block?, if_neg (by simpa using hnot)]
  · exact absurd h (hnext _ _ _)

/-- A block of code that the lexer closes. -/
theorem closed_cuts {kind : CodeKind} {u : Text} (hu : ClosesBehind kind.blockKind 0 u)
    (lexemes : List Lexeme) (trim : Bool) (line : Nat) (rest : Text) :
    Cuts ('{' :: kind.blockKind.mark :: (u ++ (kind.blockKind.closing ++ rest)))
      ([.code kind ('{' :: kind.blockKind.mark :: (u ++ kind.blockKind.closing)) lexemes],
        .more trim line rest) := by
  refine ⟨fun segment hmem k hk => ?_, rest, by simp [Segment.source], ?_⟩
  · rw [List.mem_singleton.1 hmem] at hk ⊢
    have hkind : k = kind.blockKind := by
      simp only [Segment.block?] at hk
      split at hk <;> cases hk
      rfl
    subst hkind
    obtain ⟨w, hw, hiff⟩ := hu.leaves kind.hasLiterals
    refine ⟨w, hw, hiff.trans ⟨Or.inr, ?_⟩⟩
    rintro (hcomment | hnone)
    · cases kind <;> cases hcomment
    · exact hnone
  · rintro _ _ _ heq
    cases heq
    rfl

theorem lexCode_cuts (kind : CodeKind) (line : Nat) (s : Text) :
    Cuts ('{' :: kind.blockKind.mark :: s) (lexCode kind line s) := by
  unfold lexCode
  dsimp only
  split
  · rename_i lexemes trim line' rest hread
    obtain ⟨u, rfl, hu⟩ := lexCode_closed hread
    have htake : (u ++ (kind.blockKind.closing ++ rest)).take
        ((u ++ (kind.blockKind.closing ++ rest)).length - rest.length) =
          u ++ kind.blockKind.closing := by
      rw [← List.append_assoc, take_append_length]
    rw [htake]
    exact closed_cuts hu _ _ _ _
  · rename_i lexemes hread
    rw [List.length_nil, Nat.sub_zero, List.take_length]
    exact open_cuts hread nofun nofun
  · rename_i lexemes f hread
    rw [List.length_nil, Nat.sub_zero, List.take_length]
    exact open_cuts hread nofun nofun

theorem lexComment_cuts (line : Nat) (s : Text) :
    Cuts ('{' :: '#' :: s) (lexComment line s) := by
  unfold lexComment
  split
  · exact ⟨by simp, _, rfl, nofun⟩
  · rename_i inner rest hcut
    have hs : s = inner ++ ['#', '}'] ++ rest := Text.cut?_eq_some hcut
    refine ⟨fun segment hmem k hk => ?_, rest, by simp [Segment.source, hs], ?_⟩
    · rw [List.mem_singleton.1 hmem] at hk ⊢
      cases hk
      refine ⟨[], ⟨_, (List.append_nil _).symm, fun more => ?_⟩, by simp⟩
      have hcut' := cut?_cons .comment (inner ++ '#' :: '}' :: more)
      rw [inside_comment hcut more] at hcut'
      simpa [Segment.source, BlockKind.mark] using hcut'
    · rintro _ _ _ heq
      cases heq
      rfl

theorem plainTag?_suffix {word s rest : Text} {trim : Bool}
    (h : plainTag? word s = some (trim, rest)) : rest <:+ s := by
  have hcontrol : ∀ t, dropControl t <:+ t := fun t => by
    rcases dropControl_eq t with heq | ⟨c, -, heq⟩
    · exact ⟨[], heq.symm⟩
    · exact ⟨[c], heq.symm⟩
  have hword : ∀ {p t r : Text}, Text.dropPrefix? p t = some r → r <:+ t := fun h =>
    ⟨_, (Text.dropPrefix?_eq_some.1 h).symm⟩
  simp only [plainTag?, Option.bind_eq_bind, Option.bind_eq_some_iff, Option.pure_def,
    Option.some.injEq, Prod.mk.injEq] at h
  obtain ⟨t, ht, r, hr, -, rfl⟩ := h
  have hbehind : r <:+ t := ((hword hr).trans (hcontrol _)).trans (List.dropWhile_suffix _)
  have hbefore : t <:+ s := ((hword ht).trans (List.dropWhile_suffix _)).trans (hcontrol s)
  exact hbehind.trans hbefore

theorem rawClosing?_suffix {s rest : Text} {marks : Bool × Bool}
    (h : rawClosing? s = some (marks, rest)) : rest <:+ s := by
  unfold rawClosing? at h
  split at h
  · rename_i t
    obtain ⟨⟨after, r⟩, hr, heq⟩ := Option.map_eq_some_iff.1 h
    cases heq
    exact (plainTag?_suffix hr).trans ((List.suffix_cons _ _).trans (List.suffix_cons _ _))
  · cases h

theorem lexRaw_cuts (line : Nat) (trim : Bool) {s t : Text} (ht : t <:+ s) :
    Cuts ('{' :: '%' :: s) (lexRaw line trim s t) := by
  unfold lexRaw
  split
  · exact ⟨by simp, _, rfl, nofun⟩
  · rename_i inner trimEnd trimAfter rest hfind
    obtain ⟨t', rfl, hclosing, -⟩ := Text.find?_eq_some hfind
    have hrest : rest <:+ s :=
      ((rawClosing?_suffix hclosing).trans (List.suffix_append _ _)).trans ht
    refine ⟨fun segment hmem => ?_, rest, ?_, ?_⟩
    · rw [List.mem_singleton.1 hmem]
      exact .of_none rfl
    · obtain ⟨v, rfl⟩ := hrest
      simp [Segment.source]
    · rintro _ _ _ heq
      cases heq
      rfl

theorem lexBlock_cuts (kind : BlockKind) (line : Nat) (s : Text) :
    Cuts ('{' :: kind.mark :: s) (lexBlock kind line s) := by
  cases kind with
  | expression => exact lexCode_cuts .expression line s
  | comment => exact lexComment_cuts line s
  | statement =>
    rw [lexBlock]
    split
    · rename_i hraw
      exact lexRaw_cuts _ _ (plainTag?_suffix hraw)
    · exact lexCode_cuts .statement line s

theorem lexStep_cuts (trim : Bool) (line : Nat) (s : Text) : Cuts s (lexStep trim line s) := by
  unfold lexStep
  split
  · refine ⟨fun segment hmem => ?_, [], by simp [dataSegment, Segment.source], nofun⟩
    rw [List.mem_singleton.1 hmem]
    exact .of_none rfl
  · rename_i before kind t hfind
    obtain ⟨t', rfl, hopening, -⟩ := Text.find?_eq_some hfind
    obtain rfl := Block.opening?_eq_some hopening
    obtain ⟨hagree, rest, hcovers, hnext⟩ := lexBlock_cuts kind (line + lineBreaks before) t
    refine ⟨?_, rest, ?_, hnext⟩
    · simp only [List.forall_mem_cons]
      exact ⟨.of_none rfl, hagree⟩
    · rw [hcovers]
      simp [dataSegment, Segment.source]

/-- **Every segment of a source stands in it** behind the ones before it, and its ends agree. -/
theorem lexFrom_cuts (trim : Bool) (line : Nat) (s : Text) :
    (∀ segment ∈ (lexFrom trim line s).segments, segment.EndsAgree) ∧
      (lexFrom trim line s).segments.flatMap Segment.source <+: s := by
  fun_induction lexFrom trim line s with
  | case1 trim line s segments trim' line' rest hstep _ l ih =>
    obtain ⟨hagree, r, hs, hnext⟩ := lexStep_cuts trim line s
    rw [hstep] at hagree hs hnext
    obtain rfl := hnext _ _ _ rfl
    refine ⟨fun segment hmem => ?_, ?_⟩
    · rcases List.mem_append.1 hmem with hmem | hmem
      · exact hagree segment hmem
      · exact ih.1 segment hmem
    · rw [List.flatMap_append, hs]
      exact (List.prefix_append_right_inj _).2 ih.2
  | case2 trim line s segments hstep =>
    obtain ⟨hagree, r, hs, -⟩ := lexStep_cuts trim line s
    rw [hstep] at hagree hs
    exact ⟨hagree, ⟨r, hs.symm⟩⟩
  | case3 trim line s segments f hstep =>
    obtain ⟨hagree, r, hs, -⟩ := lexStep_cuts trim line s
    rw [hstep] at hagree hs
    exact ⟨hagree, ⟨r, hs.symm⟩⟩

/-! ## The ends in a source -/

theorem dropFinalBreak_prefix (s : Text) : dropFinalBreak s <+: s := by
  have hlast : ∀ (c : Char) (t : Text), (if t.getLast? = some c then t.dropLast else t) <+: t := by
    intro c t
    split
    · exact List.dropLast_prefix t
    · exact List.prefix_rfl
  exact (hlast _ _).trans (hlast '\n' s)

/-- **The scanner steps over a block that the lexer has read**, from the offset where the
lexer starts it: to the offset where the lexer ends it, or, exactly if it has a closing
delimiter in brackets, to one before. -/
theorem endAt?_segment {source : Text} {before after : List Segment} {segment : Segment}
    {kind : BlockKind} (hsegments : (lex source).segments = before ++ segment :: after)
    (hkind : segment.block? = some kind) :
    let start := Text.byteLength (before.flatMap Segment.source)
    let stop := start + Text.byteLength segment.source
    (∃ rest, source = before.flatMap Segment.source ++ segment.source ++ rest) ∧
      ∃ stop', Block.endAt? source start = some stop' ∧ start < stop' ∧ stop' ≤ stop ∧
        (stop' = stop ↔ kind = .comment ∨ ¬ HasBracketedEnd kind segment.source) := by
  intro start stop
  obtain ⟨hagree, r, hr⟩ := lexFrom_cuts false 1 (dropFinalBreak source)
  obtain ⟨end', hend⟩ := dropFinalBreak_prefix source
  have hsource : source = before.flatMap Segment.source ++ (segment.source ++
      (after.flatMap Segment.source ++ r ++ end')) := by
    rw [← hend, ← hr, ← lex, hsegments]
    simp
  obtain ⟨w, ⟨block, hblock, hcut⟩, hiff⟩ :=
    hagree segment (by rw [← lex, hsegments]; simp) kind hkind
  -- What the scanner leaves of the block decides by how far its end is too early.
  have hbytes : Text.byteLength segment.source = Text.byteLength block + Text.byteLength w := by
    rw [hblock, Text.byteLength_append]
  refine ⟨⟨_, hsource.trans (List.append_assoc _ _ _).symm⟩, start + Text.byteLength block,
    ?_, ?_, by omega, ?_⟩
  · have hat := Text.atByte?_byteLength (before.flatMap Segment.source)
      (segment.source ++ (after.flatMap Segment.source ++ r ++ end'))
    rw [← hsource] at hat
    simp [Block.endAt?, start, hat, hcut]
  · have hlen := Block.cut?_length (hcut [])
    rw [hblock] at hlen
    have hne : block ≠ [] := by
      rintro rfl
      simp at hlen
    have := Text.byteLength_eq_zero.not.2 hne
    omega
  · rw [← hiff, ← Text.byteLength_eq_zero]
    omega

/-- A map in a map, whose two closing braces stand next to each other. -/
def nestedMap : Text :=
  ['{', '{', ' ', '{', '"', 'a', '"', ':', ' ', '{', '"', 'b', '"', ':', ' ', '1', '}', '}', ' ',
    '}', '}']

/-- The scanner ends the block of the nested map at the two braces of the maps, which stand
in brackets. -/
theorem nestedMap_hasBracketedEnd :
    Block.endAt? nestedMap 0 = some 18 ∧ HasBracketedEnd .expression nestedMap := by
  have hsegments : (lex nestedMap).segments = [Segment.data [] [] 1] ++
      Segment.code .expression nestedMap (lex nestedMap).lexemes :: [Segment.data [] [] 1] := by
    decide +kernel
  have hkind : (Segment.code .expression nestedMap (lex nestedMap).lexemes).block? =
      some .expression := by
    decide +kernel
  have hend : Block.endAt? nestedMap 0 = some 18 := by decide +kernel
  obtain ⟨-, stop, hstop, -, -, hiff⟩ := endAt?_segment hsegments hkind
  refine ⟨hend, Classical.byContradiction fun hnone => ?_⟩
  have hlate : stop = 21 := hiff.2 (Or.inr hnone)
  rw [hlate] at hstop
  exact absurd (hend.symm.trans hstop) (by decide)

/-- Not every block ends for the scanner where it ends for the lexer. -/
theorem endAt?_ne_segment :
    ¬ ∀ (source : Text) (before : List Segment) (segment : Segment) (after : List Segment)
        (kind : BlockKind),
      (lex source).fault = none → (lex source).segments = before ++ segment :: after →
      segment.block? = some kind →
      Block.endAt? source (Text.byteLength (before.flatMap Segment.source)) =
        some (Text.byteLength (before.flatMap Segment.source) + Text.byteLength segment.source) := by
  intro h
  have hends := h nestedMap [.data [] [] 1] (.code .expression nestedMap (lex nestedMap).lexemes)
    [.data [] [] 1] .expression (by decide +kernel) (by decide +kernel) (by decide +kernel)
  revert hends
  decide +kernel

end Template

end Componentry
