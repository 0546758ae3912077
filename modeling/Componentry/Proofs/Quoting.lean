import Componentry.Template.Lexer

/-! # Quoted texts are opaque and read back

Generated code holds arbitrary texts only inside of string literals
(`Text.quote`).  Two readers meet such a literal: the search for the end of a
template block, which must not find a delimiter in it, and the lexer, which must
find the text again.  Both go through the literal character by character, so the
three shapes in which a character is written (`Text.quoteChar_cases`) carry all
of the proofs.

* `Block.stepsOver_quote`: a literal is stepped over as a whole;
* `Template.readToken_quote`: a literal is one token, whose value is the text.

Because quoting is undone for every text, it may be applied twice, as in the
entries that hand slots to a component.
-/
namespace Componentry

namespace Text

/-! ## How a character is written -/

/-- The digits of a number below 256 are hexadecimal digits and nothing else. -/
theorem hexDigit?_digitChar {m : Nat} (h : m < 16) :
    hexDigit? (Nat.digitChar m) = some m := by
  revert m
  decide

theorem digitChar_ne {m : Nat} (h : m < 16) :
    Nat.digitChar m ≠ '"' ∧ Nat.digitChar m ≠ '\\' ∧ Nat.digitChar m ≠ '\n' ∧
      Nat.digitChar m ≠ '+' := by
  revert m
  decide

/-- **A character is written in one of three ways**: as a backslash and one
letter, as a backslash and its number, or as itself. -/
theorem quoteChar_cases (c : Char) :
    (∃ e, quoteChar c = ['\\', e] ∧ shortEscape? e = some c ∧
      e ∈ ['"', '\\', 'n', 'r', 't', 'b', 'f']) ∨
    (quoteChar c = '\\' :: 'u' :: '0' :: '0' :: twoHex c.toNat ∧ c.toNat < 32) ∨
    (quoteChar c = [c] ∧ c ≠ '"' ∧ c ≠ '\\' ∧ c ≠ '\n') := by
  unfold quoteChar
  split
  · rename_i h
    exact Or.inl ⟨'"', rfl, by rw [h]; rfl, by decide⟩
  split
  · rename_i h
    exact Or.inl ⟨'\\', rfl, by rw [h]; rfl, by decide⟩
  split
  · rename_i h
    exact Or.inl ⟨'n', rfl, by rw [h]; rfl, by decide⟩
  split
  · rename_i h
    exact Or.inl ⟨'r', rfl, by rw [h]; rfl, by decide⟩
  split
  · rename_i h
    exact Or.inl ⟨'t', rfl, by rw [h]; rfl, by decide⟩
  split
  · rename_i h
    exact Or.inl ⟨'b', rfl, by rw [h]; rfl, by decide⟩
  split
  · rename_i h
    exact Or.inl ⟨'f', rfl, by rw [h]; rfl, by decide⟩
  split
  · rename_i h
    exact Or.inr (Or.inl ⟨rfl, h⟩)
  · rename_i h₁ h₂ h₃ _ _ _ _ _
    exact Or.inr (Or.inr ⟨rfl, h₁, h₂, h₃⟩)

/-- No character is written with a line break, so a literal stays on its line. -/
theorem lineFeed_notMem_quoteChar (c : Char) : '\n' ∉ quoteChar c := by
  rcases quoteChar_cases c with ⟨e, he, -, hmem⟩ | ⟨he, hlt⟩ | ⟨he, -, -, hne⟩
  · rw [he]
    simp only [List.mem_cons, List.not_mem_nil, or_false] at hmem
    rcases hmem with rfl | rfl | rfl | rfl | rfl | rfl | rfl <;> decide
  · have h₁ := (digitChar_ne (show c.toNat / 16 < 16 by omega)).2.2.1
    have h₂ := (digitChar_ne (show c.toNat % 16 < 16 by omega)).2.2.1
    rw [he, twoHex]
    simp only [List.mem_cons, List.not_mem_nil, or_false, not_or]
    exact ⟨by decide, by decide, by decide, by decide, h₁.symm, h₂.symm⟩
  · rw [he]
    simpa using hne.symm

theorem lineFeed_notMem_quote (s : Text) : '\n' ∉ quote s := by
  unfold quote
  simp only [List.cons_append, List.mem_cons, List.mem_append, List.mem_flatMap, List.not_mem_nil,
    or_false, not_or, not_exists, not_and]
  exact ⟨by decide, fun c _ => lineFeed_notMem_quoteChar c, by decide⟩

end Text

/-! ## Stepping over code -/

namespace Block

/-- Outside of string literals the search for the end of a block steps over `w` as
a whole. -/
def StepsOver (kind : BlockKind) (w : Text) : Prop :=
  ∀ rest, inside kind none (w ++ rest) = (inside kind none rest).map (w ++ ·) id

theorem StepsOver.nil (kind : BlockKind) : StepsOver kind [] := fun rest => by
  cases h : inside kind none rest
  simp [h]

theorem StepsOver.append {kind : BlockKind} {v w : Text} (hv : StepsOver kind v)
    (hw : StepsOver kind w) : StepsOver kind (v ++ w) := by
  intro rest
  rw [List.append_assoc, hv, hw]
  simp [Prod.map]

theorem StepsOver.cons {kind : BlockKind} {c : Char} {w : Text} (hc : StepsOver kind [c])
    (hw : StepsOver kind w) : StepsOver kind (c :: w) := hc.append hw

/-! Inside of a block a character is looked at with what follows it only if it is
a backslash or starts the closing delimiter. -/

theorem inside_literal {kind : BlockKind} {q c : Char} (hc : c ≠ '\\') (s : Text) :
    inside kind (some q) (c :: s) =
      (inside kind (if c = q then none else some q) s).map (c :: ·) id := by
  rw [inside.eq_def]
  simp [hc]

theorem inside_quote {kind : BlockKind} {q : Char} (hk : kind.hasLiterals = true)
    (hq : isQuote q = true) (s : Text) :
    inside kind none (q :: s) = (inside kind (some q) s).map (q :: ·) id := by
  rw [inside.eq_def]
  simp [hk, hq]

theorem inside_char {kind : BlockKind} {c : Char} (hq : (kind.hasLiterals && isQuote c) = false)
    {s : Text} (hc : ¬ (c = kind.closeMark ∧ ∃ t, s = '}' :: t)) :
    inside kind none (c :: s) = (inside kind none s).map (c :: ·) id := by
  rw [inside.eq_def]
  simp only [hq, Bool.false_eq_true, if_false]
  split
  · rename_i hmark
    split
    · exact absurd ⟨hmark, _, rfl⟩ hc
    · rfl
  · rfl

/-- A character that neither opens a literal nor starts the closing delimiter. -/
theorem StepsOver.char {kind : BlockKind} {c : Char} (hq : isQuote c = false)
    (hc : c ≠ kind.closeMark) : StepsOver kind [c] := by
  intro rest
  rw [List.singleton_append, inside.eq_def]
  simp [hq, hc]

theorem StepsOver.chars {kind : BlockKind} {w : Text}
    (h : ∀ c ∈ w, isQuote c = false ∧ c ≠ kind.closeMark) : StepsOver kind w := by
  induction w with
  | nil => exact .nil kind
  | cons c w ih =>
    have hc := h c (by simp)
    exact .cons (.char hc.1 hc.2) (ih fun d hd => h d (by simp [hd]))

/-- Text that is written out is stepped over if it holds neither a quote nor a
closing mark. -/
theorem StepsOver.fixed {kind : BlockKind} {w : Text}
    (h : w.all (fun c => !isQuote c && c != kind.closeMark) = true) : StepsOver kind w := by
  refine .chars fun c hc => ?_
  simpa using List.all_eq_true.1 h c hc

/-- Inside of a literal the way a character is written is stepped over. -/
theorem inside_quoteChar (kind : BlockKind) (c : Char) (rest : Text) :
    inside kind (some '"') (Text.quoteChar c ++ rest) =
      (inside kind (some '"') rest).map (Text.quoteChar c ++ ·) id := by
  rcases Text.quoteChar_cases c with ⟨e, he, -, -⟩ | ⟨he, hlt⟩ | ⟨he, hq, hb, -⟩
  · simp [he, inside]
  · have h₁ := Text.digitChar_ne (show c.toNat / 16 < 16 by omega)
    have h₂ := Text.digitChar_ne (show c.toNat % 16 < 16 by omega)
    simp [he, Text.twoHex, inside, inside_literal h₂.2.1, h₁.1, h₁.2.1, h₂.1, Prod.map]
  · rw [he, List.singleton_append, inside_literal hb, if_neg hq]
    rfl

theorem inside_quoteChars (kind : BlockKind) (s rest : Text) :
    inside kind (some '"') (s.flatMap Text.quoteChar ++ rest) =
      (inside kind (some '"') rest).map (s.flatMap Text.quoteChar ++ ·) id := by
  induction s with
  | nil =>
    cases h : inside kind (some '"') rest
    simp [h]
  | cons c s ih =>
    rw [List.flatMap_cons, List.append_assoc, inside_quoteChar, ih]
    simp [Prod.map]

/-- **A quoted text is stepped over as a whole** where literals are honoured. -/
theorem stepsOver_quote {kind : BlockKind} (hk : kind.hasLiterals = true) (s : Text) :
    StepsOver kind (Text.quote s) := by
  intro rest
  have happ : Text.quote s ++ rest = '"' :: (s.flatMap Text.quoteChar ++ '"' :: rest) := by
    simp [Text.quote]
  rw [happ, inside_quote hk (by decide), inside_quoteChars, inside_literal (by decide), if_pos rfl]
  simp [Text.quote, Prod.map]

/-- A block whose code is stepped over is one block, whatever follows it. -/
theorem cut?_block {kind : BlockKind} {w : Text} (h : StepsOver kind w) (rest : Text) :
    cut? ('{' :: kind.mark :: w ++ kind.closeMark :: '}' :: rest) =
      some ('{' :: kind.mark :: w ++ [kind.closeMark, '}'], rest) := by
  have hend : inside kind none (kind.closeMark :: '}' :: rest) = ([kind.closeMark, '}'], rest) := by
    cases kind <;> simp [inside, isQuote, BlockKind.hasLiterals, BlockKind.closeMark]
  have hopen : ∀ s, opening? ('{' :: kind.mark :: s) = some (kind, s) := by
    intro s
    cases kind <;> rfl
  simp only [cut?, List.cons_append, hopen, Option.map_some, h (kind.closeMark :: '}' :: rest), hend]
  rfl

end Block

/-! ## Reading a literal -/

namespace Template

/-- The raw inside of a literal reaches over the way a character is written. -/
theorem stringBody?_quoteChar (c : Char) (rest : Text) :
    stringBody? '"' (Text.quoteChar c ++ rest) =
      (stringBody? '"' rest).map fun (a, b) => (Text.quoteChar c ++ a, b) := by
  rcases Text.quoteChar_cases c with ⟨e, he, -, -⟩ | ⟨he, hlt⟩ | ⟨he, hq, hb, -⟩
  · simp [he, stringBody?]
  · have h₁ := Text.digitChar_ne (show c.toNat / 16 < 16 by omega)
    have h₂ := Text.digitChar_ne (show c.toNat % 16 < 16 by omega)
    simp [he, Text.twoHex, stringBody?, h₁.1, h₁.2.1, h₂.1, h₂.2.1]
    rfl
  · simp [he, stringBody?, hq, hb]

theorem stringBody?_quoted (s rest : Text) :
    stringBody? '"' (s.flatMap Text.quoteChar ++ '"' :: rest) =
      some (s.flatMap Text.quoteChar, rest) := by
  induction s with
  | nil => simp [stringBody?]
  | cons c s ih =>
    rw [List.flatMap_cons, List.append_assoc, stringBody?_quoteChar, ih]
    rfl

/-- The number of a control character is read back from its two digits. -/
theorem baseValue?_twoHex {n : Nat} (h : n < 256) :
    baseValue? 16 ('0' :: '0' :: Text.twoHex n) = some n := by
  have h₁ := Text.hexDigit?_digitChar (show n / 16 < 16 by omega)
  have h₂ := Text.hexDigit?_digitChar (show n % 16 < 16 by omega)
  have h₀ : Text.hexDigit? '0' = some 0 := by decide
  have hlt₁ : n / 16 < 16 := by omega
  have hlt₂ : n % 16 < 16 := by omega
  simp [baseValue?, Text.twoHex, h₀, h₁, h₂, hlt₁, hlt₂]
  omega

/-- The escape of a control character stands for its number. -/
theorem readEscape?_twoHex {n : Nat} (h : n < 256) (rest : Text) :
    readEscape? ('u' :: '0' :: '0' :: (Text.twoHex n ++ rest)) = some (.unit n, rest) := by
  have htake : ('0' :: '0' :: (Text.twoHex n ++ rest)).take 4 = '0' :: '0' :: Text.twoHex n := by
    simp [Text.twoHex]
  have hdrop : ('0' :: '0' :: (Text.twoHex n ++ rest)).drop 4 = rest := by
    simp [Text.twoHex]
  have hlen : ¬ ('0' :: '0' :: (Text.twoHex n ++ rest)).length < 4 := by
    simp [Text.twoHex]
  rw [readEscape?, if_pos rfl, if_neg hlen, htake, hdrop, escapedNumber?, baseValue?_twoHex h]
  · rfl
  · simp

/-- An escape of one letter stands for its character. -/
theorem readEscape?_short {e c : Char} (h : Text.shortEscape? e = some c)
    (hmem : e ∈ ['"', '\\', 'n', 'r', 't', 'b', 'f']) (rest : Text) :
    readEscape? (e :: rest) = some (.text [c], rest) := by
  simp only [List.mem_cons, List.not_mem_nil, or_false] at hmem
  have hc : Text.shortEscape? e = some c := h
  rcases hmem with rfl | rfl | rfl | rfl | rfl | rfl | rfl <;>
    · cases hc
      rfl

theorem unescapeFrom_escape {t rest s : Text} (h : readEscape? t = some (.text s, rest)) :
    unescapeFrom none ('\\' :: t) = (unescapeFrom none rest).map (s ++ ·) := by
  rw [unescapeFrom]
  split
  · rename_i hn
    rw [h] at hn
    cases hn
  · rename_i e r hr
    rw [h] at hr
    cases hr
    rfl

theorem unescapeFrom_unit {t rest : Text} {n : Nat} (h : readEscape? t = some (.unit n, rest))
    (hn : n < 0xd800) :
    unescapeFrom none ('\\' :: t) = (unescapeFrom none rest).map (Char.ofNat n :: ·) := by
  have hs : (Text.isHighSurrogate n || Text.isLowSurrogate n) = false := by
    simp [Text.isHighSurrogate, Text.isLowSurrogate]
    omega
  rw [unescapeFrom]
  split
  · rename_i hr
    rw [h] at hr
    cases hr
  · rename_i e r hr
    rw [h] at hr
    cases hr
    simp [hs]

theorem unescapeFrom_char {c : Char} (hc : c ≠ '\\') (rest : Text) :
    unescapeFrom none (c :: rest) = (unescapeFrom none rest).map (c :: ·) := by
  rw [unescapeFrom]
  · rfl
  · simpa using hc

/-- The way a character is written stands for the character. -/
theorem unescapeFrom_quoteChar (c : Char) (rest : Text) :
    unescapeFrom none (Text.quoteChar c ++ rest) = (unescapeFrom none rest).map (c :: ·) := by
  rcases Text.quoteChar_cases c with ⟨e, he, hs, hmem⟩ | ⟨he, hlt⟩ | ⟨he, -, hb, -⟩
  · rw [he]
    exact unescapeFrom_escape (readEscape?_short hs hmem rest)
  · have hr := readEscape?_twoHex (show c.toNat < 256 by omega) rest
    rw [he]
    have h := unescapeFrom_unit hr (by omega)
    rwa [Char.ofNat_toNat] at h
  · rw [he]
    exact unescapeFrom_char hb rest

/-- **A text is read back from the way it is quoted.** -/
theorem unescape_quoted (s : Text) : unescape (s.flatMap Text.quoteChar) = some s := by
  unfold unescape
  induction s with
  | nil => rw [List.flatMap_nil, unescapeFrom]; rfl
  | cons c s ih => rw [List.flatMap_cons, unescapeFrom_quoteChar, ih]; rfl

/-- **A quoted text is one token**: a string whose value is the text, and which
ends where the quoted text ends. -/
theorem readToken_quote (line : Nat) (s rest : Text) :
    readToken line '"' (s.flatMap Text.quoteChar ++ '"' :: rest) = .ok (.string s, rest) := by
  have hd : ((s.flatMap Text.quoteChar ++ '"' :: rest).head?.bind (doubleSymbol? '"')) = none := by
    cases h : (s.flatMap Text.quoteChar ++ '"' :: rest).head? with
    | none => rfl
    | some c => simp [doubleSymbol?]
  rw [readToken, hd]
  simp only [singleSymbol?, stringBody?_quoted, unescape_quoted]
  rfl

end Template

end Componentry
