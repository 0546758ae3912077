import Componentry.Definition.Placeholder
import Componentry.Proofs.Markup.Search
import Mathlib.Algebra.Ring.Int.Defs

/-! # The tokens of generated code

Generated code is written in pieces, and its tokens are those of the pieces
(`Lexes`), as long as no identifier runs over the border between two of them
(`Apart`).  From this the tokens of an expression block and of a raw block follow,
in front of any source (`lexFrom_expression`, `lexFrom_raw`): the lexer goes on
behind the block as if nothing had come before, but for the line.
-/
namespace Componentry.Template

/-- No identifier runs over the border between two texts. -/
def Apart (v w : Text) : Prop :=
  ∀ a ∈ v.getLast?, ∀ b ∈ w.head?, isIdentChar a = false ∨ isIdentChar b = false

/-- The code `w` is read as the given tokens in both kinds of blocks, whatever follows it
apart from it. -/
def Lexes (w : Text) (tokens : List Token) : Prop :=
  ∀ kind opened line rest, Apart w rest →
    readCode kind opened line (w ++ rest) =
      let next := readCode kind (opened + (tokens.map Token.opens).sum) line rest
      (tokens.map (⟨·, line⟩) ++ next.1, next.2)

/-! ## Pieces -/

theorem Lexes.nil : Lexes [] [] := by
  intro kind opened line rest _
  simp

theorem Lexes.append {v w : Text} {ts us : List Token} (hv : Lexes v ts) (hw : Lexes w us)
    (h : Apart v w) : Lexes (v ++ w) (ts ++ us) := by
  intro kind opened line rest hrest
  have hw' : Apart w rest := by
    intro a ha b hb
    refine hrest a ?_ b hb
    rw [List.getLast?_append, ha]
    rfl
  have hv' : Apart v (w ++ rest) := by
    cases w with
    | nil =>
      rw [List.append_nil] at hrest
      exact hrest
    | cons c w => exact h
  rw [List.append_assoc, hv kind opened line _ hv', hw kind _ line rest hw']
  simp [Int.add_assoc]

theorem Lexes.blank : Lexes [' '] [] := by
  intro kind opened line rest _
  rw [List.singleton_append, readCode, if_pos (by decide), if_neg (by decide)]
  simp

theorem codeEnd?_eq_none {c : Char} (h₁ : c ≠ '-') (h₂ : c ≠ '+') (h₃ : c ≠ '}') (h₄ : c ≠ '%')
    (kind : CodeKind) (s : Text) : codeEnd? kind (c :: s) = none := by
  have hclose : kind.blockKind.closeMark ≠ c := by
    cases kind
    · exact Ne.symm h₃
    · exact Ne.symm h₄
  simp [codeEnd?, h₁, h₂, Text.dropPrefix?, hclose]

/-- A piece that is one token. -/
theorem Lexes.token {c : Char} {w : Text} {token : Token} (hblank : Text.isBlank c = false)
    (h₁ : c ≠ '-') (h₂ : c ≠ '+') (h₃ : c ≠ '}') (h₄ : c ≠ '%') (hline : '\n' ∉ c :: w)
    (h : ∀ line rest, Apart (c :: w) rest → readToken line c (w ++ rest) = .ok (token, rest)) :
    Lexes (c :: w) [token] := by
  intro kind opened line rest hrest
  have hlines : lineBreaks ((c :: (w ++ rest)).take ((c :: (w ++ rest)).length - rest.length)) =
      0 := by
    have htake : (c :: (w ++ rest)).take ((c :: (w ++ rest)).length - rest.length) = c :: w := by
      have hlen : (c :: (w ++ rest)).length - rest.length = (c :: w).length := by
        simp only [List.length_cons, List.length_append]
        omega
      rw [hlen, ← List.cons_append, List.take_left]
    rw [htake, lineBreaks, List.count_eq_zero_of_not_mem hline]
  rw [List.cons_append, readCode, if_neg (by simp [hblank])]
  have hend : (if opened = 0 then codeEnd? kind (c :: (w ++ rest)) else none) = none := by
    rw [codeEnd?_eq_none h₁ h₂ h₃ h₄]
    simp
  split
  · rename_i hsome
    rw [hend] at hsome
    cases hsome
  · split
    · rename_i hf
      rw [h line rest hrest] at hf
      cases hf
    · rename_i token' rest' ht
      rw [h line rest hrest] at ht
      cases ht
      rw [hlines]
      simp

/-- The symbols of generated code. -/
def codeSymbols : List (Char × Symbol) :=
  [('(', .openParen), (')', .closeParen), ('[', .openBracket), (']', .closeBracket),
    (',', .comma), ('.', .dot), ('~', .tilde)]

theorem Lexes.symbol {c : Char} {s : Symbol} (h : (c, s) ∈ codeSymbols) : Lexes [c] [.symbol s] := by
  simp only [codeSymbols, List.mem_cons, List.not_mem_nil, or_false, Prod.mk.injEq] at h
  have hread : ∀ (line : Nat) (rest : Text),
      readToken line c ([] ++ rest) = .ok (.symbol s, rest) := by
    intro line rest
    rw [List.nil_append]
    have hdouble : rest.head?.bind (doubleSymbol? c) = none := by
      cases rest.head? with
      | none => rfl
      | some b =>
        rcases h with ⟨rfl, -⟩ | ⟨rfl, -⟩ | ⟨rfl, -⟩ | ⟨rfl, -⟩ | ⟨rfl, -⟩ | ⟨rfl, -⟩ | ⟨rfl, -⟩ <;>
          rfl
    rcases h with ⟨rfl, rfl⟩ | ⟨rfl, rfl⟩ | ⟨rfl, rfl⟩ | ⟨rfl, rfl⟩ | ⟨rfl, rfl⟩ | ⟨rfl, rfl⟩ |
        ⟨rfl, rfl⟩ <;>
      simp [readToken, hdouble, singleSymbol?]
  refine Lexes.token ?_ ?_ ?_ ?_ ?_ ?_ fun line rest _ => hread line rest
  all_goals
    rcases h with ⟨rfl, -⟩ | ⟨rfl, -⟩ | ⟨rfl, -⟩ | ⟨rfl, -⟩ | ⟨rfl, -⟩ | ⟨rfl, -⟩ | ⟨rfl, -⟩ <;>
      decide

/-- A quoted text is one string. -/
theorem Lexes.string (s : Text) : Lexes (Text.quote s) [.string s] := by
  have hline := Text.lineFeed_notMem_quote s
  have hquote : Text.quote s = '"' :: (s.flatMap Text.quoteChar ++ ['"']) := rfl
  rw [hquote] at hline ⊢
  refine Lexes.token (by decide) (by decide) (by decide) (by decide) (by decide) hline
    fun line rest _ => ?_
  rw [List.append_assoc, List.singleton_append]
  exact readToken_quote line s rest

theorem isIdentStart_ne {c d : Char} (h : isIdentStart c = true) (hd : isIdentStart d = false) :
    c ≠ d := by
  rintro rfl
  exact absurd (h.symm.trans hd) (by decide)

theorem singleSymbol?_identStart {c : Char} (h : isIdentStart c = true) :
    singleSymbol? c = none := by
  unfold singleSymbol?
  split
  case h_20 => rfl
  all_goals exact absurd h (by decide)

theorem doubleSymbol?_identStart {c : Char} (h : isIdentStart c = true) (b : Char) :
    doubleSymbol? c b = none := by
  have h₁ := isIdentStart_ne h (d := '/') (by decide)
  have h₂ := isIdentStart_ne h (d := '*') (by decide)
  have h₃ := isIdentStart_ne h (d := '=') (by decide)
  have h₄ := isIdentStart_ne h (d := '!') (by decide)
  have h₅ := isIdentStart_ne h (d := '>') (by decide)
  have h₆ := isIdentStart_ne h (d := '<') (by decide)
  simp [doubleSymbol?, h₁, h₂, h₃, h₄, h₅, h₆]

/-- An identifier is one token. -/
theorem Lexes.ident {x : Text} (h : isIdentifier x = true) : Lexes x [.ident x] := by
  obtain ⟨c, s, rfl, hc, hall⟩ := isIdentifier_cons h
  have hs : ∀ d ∈ s, isIdentChar d = true := fun d hd => hall d (by simp [hd])
  have hline : '\n' ∉ c :: s := fun hmem => absurd (hall '\n' hmem) (by decide)
  have hquote : Block.isQuote c = false := (Block.isIdentChar_ne (hall c (by simp))).1
  have hdigit : Text.isAsciiDigit c = false := by
    cases hd : Text.isAsciiDigit c with
    | false => rfl
    | true =>
      simp only [isIdentStart, Text.isAsciiLetter, Text.isAsciiDigit, Bool.or_eq_true,
        Bool.and_eq_true, decide_eq_true_eq, Char.le_def, UInt32.le_iff_toNat_le] at hc hd
      rcases hc with (hc | hc) | rfl
      · simp at hc hd
        omega
      · simp at hc hd
        omega
      · simp at hd
  have hblank : Text.isBlank c = false := by
    cases hb : Text.isBlank c with
    | false => rfl
    | true =>
      have hspace := Text.isSpace_of_isBlank hb
      simp only [Text.isBlank, Bool.or_eq_true, decide_eq_true_eq] at hb
      rcases hb with (((rfl | rfl) | rfl) | rfl) | rfl <;> exact absurd hc (by decide)
  refine Lexes.token hblank (isIdentStart_ne hc (by decide)) (isIdentStart_ne hc (by decide))
    (isIdentStart_ne hc (by decide)) (isIdentStart_ne hc (by decide)) hline fun line rest hrest => ?_
  have hdouble : (s ++ rest).head?.bind (doubleSymbol? c) = none := by
    cases (s ++ rest).head? with
    | none => rfl
    | some b => exact doubleSymbol?_identStart hc b
  -- What follows is apart from the identifier, so it ends the run of its characters.
  have hstop : ∀ b ∈ rest.head?, isIdentChar b = false := by
    intro b hb
    obtain ⟨a, ha, hmem⟩ : ∃ a, (c :: s).getLast? = some a ∧ a ∈ c :: s :=
      ⟨(c :: s).getLast (by simp), List.getLast?_eq_some_getLast _, List.getLast_mem _⟩
    rcases hrest a ha b hb with h | h
    · rw [hall a hmem] at h
      cases h
    · exact h
  have hrun : (s ++ rest).takeWhile isIdentChar = s ∧ (s ++ rest).dropWhile isIdentChar = rest := by
    rw [List.takeWhile_append_of_pos hs, List.dropWhile_append_of_pos hs]
    cases rest with
    | nil => simp
    | cons b rest =>
      have hb := hstop b rfl
      simp [hb]
  simp only [readToken, hdouble, singleSymbol?_identStart hc, hquote, hdigit, hc, hrun.1, hrun.2,
    Bool.false_eq_true, if_false, if_true]

/-! ## Apart -/

theorem Apart.nil (v : Text) : Apart v [] := by
  rintro a - b hb
  cases hb

theorem Apart.of_last {v w : Text} {c : Char} (h : v.getLast? = some c)
    (hc : isIdentChar c = false) : Apart v w := by
  intro a ha b _
  rw [h] at ha
  cases ha
  exact Or.inl hc

theorem Apart.of_head {v w : Text} {c : Char} (h : w.head? = some c)
    (hc : isIdentChar c = false) : Apart v w := by
  intro a _ b hb
  rw [h] at hb
  cases hb
  exact Or.inr hc

/-! ## Pieces with a separator between them -/

/-- The tokens of pieces, with a token between them. -/
def joinTokens (separator : Token) : List (List Token) → List Token
  | [] => []
  | first :: more => first ++ more.flatMap (separator :: ·)

theorem joinTokens_cons_cons (separator : Token) (first second : List Token)
    (more : List (List Token)) :
    joinTokens separator (first :: second :: more) =
      first ++ separator :: joinTokens separator (second :: more) := by
  simp [joinTokens]

/-- The code `w` separates pieces: it is one token that leaves brackets alone, and its ends
are no characters of identifiers. -/
structure IsSeparator (w : Text) (t : Token) : Prop where
  lexes : Lexes w [t]
  opens : t.opens = 0
  head : ∃ c, w.head? = some c ∧ isIdentChar c = false
  last : ∃ c, w.getLast? = some c ∧ isIdentChar c = false

namespace IsSeparator

theorem comma : IsSeparator [',', ' '] (.symbol .comma) where
  lexes := (Lexes.symbol (c := ',') (s := .comma) (by decide)).append Lexes.blank
    (.of_last rfl (by decide))
  opens := rfl
  head := ⟨',', rfl, by decide⟩
  last := ⟨' ', rfl, by decide⟩

theorem tilde : IsSeparator [' ', '~', ' '] (.symbol .tilde) where
  lexes := (Lexes.blank.append (Lexes.symbol (c := '~') (s := .tilde) (by decide))
    (.of_last rfl (by decide))).append Lexes.blank (.of_last rfl (by decide))
  opens := rfl
  head := ⟨' ', rfl, by decide⟩
  last := ⟨' ', rfl, by decide⟩

variable {w : Text} {t : Token}

/-- **Pieces with a separator between them** are read piece by piece. -/
theorem lexes_join (hw : IsSeparator w t) {pieces : List (Text × List Token)}
    (h : ∀ p ∈ pieces, Lexes p.1 p.2) :
    Lexes (Text.join w (pieces.map Prod.fst)) (joinTokens t (pieces.map Prod.snd)) := by
  obtain ⟨c, hhead, hc⟩ := hw.head
  obtain ⟨d, hlast, hd⟩ := hw.last
  induction pieces with
  | nil => exact .nil
  | cons p pieces ih =>
    rw [List.forall_mem_cons] at h
    cases pieces with
    | nil => simpa [joinTokens, Text.join] using h.1
    | cons q pieces =>
      have hmore := hw.lexes.append (ih h.2) (.of_last hlast hd)
      have hapart : Apart p.1 (w ++ Text.join w ((q :: pieces).map Prod.fst)) := by
        refine .of_head ?_ hc
        rw [List.head?_append, hhead]
        rfl
      have hall := h.1.append hmore hapart
      simp only [List.map_cons] at hall ⊢
      rw [joinTokens_cons_cons]
      simpa [Text.join] using hall

/-- Pieces with a separator between them close all brackets if each of them does. -/
theorem opens_join (hw : IsSeparator w t) {pieces : List (List Token)}
    (h : ∀ tokens ∈ pieces, (tokens.map Token.opens).sum = 0) :
    ((joinTokens t pieces).map Token.opens).sum = 0 := by
  induction pieces with
  | nil => rfl
  | cons first more ih =>
    rw [List.forall_mem_cons] at h
    cases more with
    | nil => simpa [joinTokens] using h.1
    | cons second more =>
      have hmore := ih h.2
      rw [joinTokens_cons_cons]
      simp [h.1, hw.opens, hmore]

end IsSeparator

/-! ## Blocks -/

/-- A source that does not end in a line break is read to its end. -/
theorem dropFinalBreak_of_getLast {s : Text} (h : ∀ c ∈ s.getLast?, c ≠ '\n' ∧ c ≠ '\r') :
    dropFinalBreak s = s := by
  cases hs : s.getLast? with
  | none => simp [dropFinalBreak, hs]
  | some c =>
    obtain ⟨h₁, h₂⟩ := h c hs
    simp [dropFinalBreak, hs, h₁, h₂]

theorem dropFinalBreak_sublist (s : Text) : (dropFinalBreak s).Sublist s := by
  have hlast : ∀ (t : Text) (p : Prop) [Decidable p], (if p then t.dropLast else t).Sublist t := by
    intro t p _
    split
    · exact t.dropLast_sublist
    · exact .refl t
  exact (hlast _ _).trans (hlast s _)

/-- Text in front of a block is one token, unless it is empty. -/
def dataLexemes (line : Nat) (d : Text) : List Lexeme :=
  if d.isEmpty then [] else [⟨.data d, line⟩]

theorem dataSegment_lexemes (line : Nat) (d : Text) :
    (dataSegment false false line d).lexemes = dataLexemes line d := by
  simp [dataSegment, trimBy, Segment.lexemes, lineBreaks, dataLexemes]

/-- The opening delimiter of a block is the first one behind text without braces. -/
theorem find?_delimiter {d s : Text} {found : BlockKind × Text} (hd : '{' ∉ d)
    (h : delimiter? s = some found) :
    Text.find? delimiter? (d ++ s) = some (d, found) := by
  induction d with
  | nil => rw [List.nil_append, Text.find?.eq_def, h]
  | cons c d ih =>
    simp only [List.mem_cons, not_or] at hd
    have hnone : delimiter? (c :: (d ++ s)) = none := by
      have hc := Ne.symm hd.1
      simp [delimiter?, Block.opening?, hc]
    rw [List.cons_append, Text.find?, hnone]
    simp only [ih hd.2, Option.map_some]

theorem find?_delimiter_none {d : Text} (hd : '{' ∉ d) : Text.find? delimiter? d = none := by
  induction d with
  | nil => rfl
  | cons c d ih =>
    simp only [List.mem_cons, not_or] at hd
    have hnone : delimiter? (c :: d) = none := by
      have hc := Ne.symm hd.1
      simp [delimiter?, Block.opening?, hc]
    rw [Text.find?, hnone]
    simp only [ih hd.2, Option.map_none]

theorem lexFrom_more {trim trim' : Bool} {line line' : Nat} {s rest : Text}
    {segments : List Segment} (h : lexStep trim line s = (segments, .more trim' line' rest)) :
    (lexFrom trim line s).lexemes =
        segments.flatMap Segment.lexemes ++ (lexFrom trim' line' rest).lexemes ∧
      (lexFrom trim line s).fault = (lexFrom trim' line' rest).fault := by
  rw [lexFrom]
  split
  · rename_i h'
    rw [h] at h'
    cases h'
    simp [Lexed.lexemes]
  · rename_i h'
    rw [h] at h'
    cases h'
  · rename_i h'
    rw [h] at h'
    cases h'

/-- A source without blocks. -/
theorem lexFrom_data (line : Nat) {d : Text} (hd : '{' ∉ d) :
    (lexFrom false line d).lexemes = dataLexemes line d ∧ (lexFrom false line d).fault = none := by
  have hstep : lexStep false line d = ([dataSegment false false line d], .finished) := by
    rw [lexStep, find?_delimiter_none hd]
  rw [lexFrom]
  split
  · rename_i h'
    rw [hstep] at h'
    cases h'
  · rename_i h'
    rw [hstep] at h'
    cases h'
    simp [Lexed.lexemes, dataSegment_lexemes]
  · rename_i h'
    rw [hstep] at h'
    cases h'

/-- A block of code. -/
def CodeKind.block : CodeKind → Text → Text
  | expression, w => expressionBlock w
  | statement, w => statementBlock w

theorem CodeKind.block_append (kind : CodeKind) (w rest : Text) :
    kind.block w ++ rest = '{' :: kind.blockKind.mark ::
      (' ' :: (w ++ ' ' :: kind.blockKind.closeMark :: '}' :: rest)) := by
  cases kind <;>
    simp [block, expressionBlock, statementBlock, blockKind, BlockKind.mark, BlockKind.closeMark]

theorem readCode_end (kind : CodeKind) (line : Nat) (rest : Text) :
    readCode kind 0 line (' ' :: kind.blockKind.closeMark :: '}' :: rest) =
      ([⟨kind.stop, line⟩], .closed false line rest) := by
  have hblank : Text.isBlank kind.blockKind.closeMark = false := by cases kind <;> decide
  have hend : codeEnd? kind (kind.blockKind.closeMark :: '}' :: rest) = some (false, rest) := by
    cases kind <;> rfl
  rw [readCode, if_pos (by decide), if_neg (by decide), readCode, if_neg (by simp [hblank])]
  simp [hend]

/-- **The tokens of a block of code** are its delimiters and the tokens of its code, which
must close all brackets that it opens, and in a statement must not be read as the start
of a raw block. -/
theorem lexFrom_code (kind : CodeKind) (line : Nat) {d w : Text} {tokens : List Token} (hd : '{' ∉ d)
    (hw : Lexes w tokens) (hbalance : (tokens.map Token.opens).sum = 0)
    (hraw : kind = .statement → ∀ s, rawOpening? (' ' :: (w ++ s)) = none) (rest : Text) :
    let line' := line + lineBreaks d
    (lexFrom false line (d ++ kind.block w ++ rest)).lexemes =
        dataLexemes line d ++ ⟨kind.start, line'⟩ ::
          (tokens.map (⟨·, line'⟩) ++ ⟨kind.stop, line'⟩ :: (lexFrom false line' rest).lexemes) ∧
      (lexFrom false line (d ++ kind.block w ++ rest)).fault = (lexFrom false line' rest).fault := by
  intro line'
  let inner : Text := ' ' :: (w ++ ' ' :: kind.blockKind.closeMark :: '}' :: rest)
  have hfind : Text.find? delimiter? (d ++ kind.block w ++ rest) =
      some (d, kind.blockKind, inner) := by
    rw [List.append_assoc, kind.block_append]
    refine find?_delimiter hd ?_
    cases kind <;> rfl
  have hcode : readCode kind 0 line' (dropControl inner) =
      (tokens.map (⟨·, line'⟩) ++ [⟨kind.stop, line'⟩], .closed false line' rest) := by
    rw [dropControl, if_neg (by decide), readCode, if_pos (by decide), if_neg (by decide),
      hw kind 0 line' _ (.of_head rfl (by decide)), hbalance]
    simp only [Int.add_zero, readCode_end]
  have hblock : ∃ source, lexBlock kind.blockKind line' inner =
      ([.code kind source (⟨kind.start, line'⟩ :: (tokens.map (⟨·, line'⟩) ++
        [⟨kind.stop, line'⟩]))], .more false line' rest) := by
    have hlex : ∃ source, lexCode kind line' inner =
        ([.code kind source (⟨kind.start, line'⟩ :: (tokens.map (⟨·, line'⟩) ++
          [⟨kind.stop, line'⟩]))], .more false line' rest) := by
      rw [lexCode, hcode]
      exact ⟨_, rfl⟩
    cases kind with
    | expression => exact hlex
    | statement =>
      rw [CodeKind.blockKind, lexBlock, hraw rfl]
      exact hlex
  obtain ⟨source, hblock⟩ := hblock
  have hstep : lexStep false line (d ++ kind.block w ++ rest) =
      ([dataSegment false false line d, .code kind source
        (⟨kind.start, line'⟩ :: (tokens.map (⟨·, line'⟩) ++ [⟨kind.stop, line'⟩]))],
      .more false line' rest) := by
    rw [lexStep, hfind]
    simp only
    rw [hblock]
    rfl
  obtain ⟨hlex, hfault⟩ := lexFrom_more hstep
  refine ⟨?_, hfault⟩
  rw [hlex, List.flatMap_cons, List.flatMap_cons, dataSegment_lexemes]
  simp [Segment.lexemes]

/-- The tokens of an expression block. -/
theorem lexFrom_expression (line : Nat) {d w : Text} {tokens : List Token} (hd : '{' ∉ d)
    (hw : Lexes w tokens) (hbalance : (tokens.map Token.opens).sum = 0) (rest : Text) :
    let line' := line + lineBreaks d
    (lexFrom false line (d ++ expressionBlock w ++ rest)).lexemes =
        dataLexemes line d ++ ⟨.expressionStart, line'⟩ ::
          (tokens.map (⟨·, line'⟩) ++ ⟨.expressionEnd, line'⟩ ::
            (lexFrom false line' rest).lexemes) ∧
      (lexFrom false line (d ++ expressionBlock w ++ rest)).fault =
        (lexFrom false line' rest).fault :=
  lexFrom_code .expression line hd hw hbalance (fun h => nomatch h) rest

/-- The tokens of a statement block. -/
theorem lexFrom_statement (line : Nat) {d w : Text} {tokens : List Token} (hd : '{' ∉ d)
    (hw : Lexes w tokens) (hbalance : (tokens.map Token.opens).sum = 0)
    (hraw : ∀ s, rawOpening? (' ' :: (w ++ s)) = none) (rest : Text) :
    let line' := line + lineBreaks d
    (lexFrom false line (d ++ statementBlock w ++ rest)).lexemes =
        dataLexemes line d ++ ⟨.statementStart, line'⟩ ::
          (tokens.map (⟨·, line'⟩) ++ ⟨.statementEnd, line'⟩ ::
            (lexFrom false line' rest).lexemes) ∧
      (lexFrom false line (d ++ statementBlock w ++ rest)).fault =
        (lexFrom false line' rest).fault :=
  lexFrom_code .statement line hd hw hbalance (fun _ => hraw) rest

/-- A source is cut into tokens to its end. -/
def LexesTo (line : Nat) (s : Text) (lexemes : List Lexeme) : Prop :=
  (lexFrom false line s).lexemes = lexemes ∧ (lexFrom false line s).fault = none

theorem LexesTo.expression {line : Nat} {w rest : Text} {tokens : List Token} {more : List Lexeme}
    (hw : Lexes w tokens) (hbalance : (tokens.map Token.opens).sum = 0)
    (h : LexesTo line rest more) :
    LexesTo line (expressionBlock w ++ rest) (⟨.expressionStart, line⟩ ::
      (tokens.map (⟨·, line⟩) ++ ⟨.expressionEnd, line⟩ :: more)) := by
  obtain ⟨hlex, hfault⟩ := lexFrom_expression line (List.not_mem_nil) hw hbalance rest
  refine ⟨?_, hfault.trans h.2⟩
  rw [← h.1]
  exact hlex

theorem LexesTo.statement {line : Nat} {d w rest : Text} {tokens : List Token} {more : List Lexeme}
    (hd : '{' ∉ d) (hw : Lexes w tokens) (hbalance : (tokens.map Token.opens).sum = 0)
    (hraw : ∀ s, rawOpening? (' ' :: (w ++ s)) = none) (h : LexesTo (line + lineBreaks d) rest more) :
    LexesTo line (d ++ statementBlock w ++ rest) (dataLexemes line d ++
      ⟨.statementStart, line + lineBreaks d⟩ :: (tokens.map (⟨·, line + lineBreaks d⟩) ++
        ⟨.statementEnd, line + lineBreaks d⟩ :: more)) := by
  obtain ⟨hlex, hfault⟩ := lexFrom_statement line hd hw hbalance hraw rest
  refine ⟨?_, hfault.trans h.2⟩
  rw [← h.1]
  exact hlex

/-- **The token of a raw block** is its text, if that does not end the block. -/
theorem lexFrom_raw {g rest : Text} (line : Nat)
    (h : Text.find? rawClosing? (g ++ endRawTag ++ rest) = some (g, (false, false), rest)) :
    ∃ line₁ line₂, (lexFrom false line (rawTag ++ g ++ endRawTag ++ rest)).lexemes =
        ⟨.data g, line₁⟩ :: (lexFrom false line₂ rest).lexemes ∧
      (lexFrom false line (rawTag ++ g ++ endRawTag ++ rest)).fault =
        (lexFrom false line₂ rest).fault := by
  have hsource : rawTag ++ g ++ endRawTag ++ rest =
      '{' :: '%' :: ' ' :: 'r' :: 'a' :: 'w' :: ' ' :: '%' :: '}' :: (g ++ endRawTag ++ rest) := by
    simp [rawTag, statementBlock]
  have hfind : Text.find? delimiter? (rawTag ++ g ++ endRawTag ++ rest) =
      some ([], .statement,
        ' ' :: 'r' :: 'a' :: 'w' :: ' ' :: '%' :: '}' :: (g ++ endRawTag ++ rest)) := by
    rw [hsource]
    rfl
  have hopening : rawOpening?
      (' ' :: 'r' :: 'a' :: 'w' :: ' ' :: '%' :: '}' :: (g ++ endRawTag ++ rest)) =
      some (false, g ++ endRawTag ++ rest) := rfl
  obtain ⟨source, line₁, line₂, hstep⟩ : ∃ source line₁ line₂,
      lexStep false line (rawTag ++ g ++ endRawTag ++ rest) =
        ([dataSegment false false line [], .raw source g line₁], .more false line₂ rest) := by
    rw [lexStep, hfind]
    simp only [lexBlock, hopening, lexRaw, h]
    exact ⟨_, _, _, rfl⟩
  obtain ⟨hlex, hfault⟩ := lexFrom_more hstep
  refine ⟨line₁, line₂, ?_, hfault⟩
  rw [hlex, List.flatMap_cons, dataSegment_lexemes]
  rfl

end Componentry.Template
