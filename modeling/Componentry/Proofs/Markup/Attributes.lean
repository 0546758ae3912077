import Componentry.Proofs.Markup.Search

/-! # Written attributes are read as they were written

The attributes that `attributesSource` writes, read by the two functions that
meet them: the search for the end of an opening tag steps over all of them
(`Tag.attributes?_of_spans`), and reading them gives back the attributes
(`Attribute.parse_attributesSource`), whose entries are the props of the tag
(`Props.ofText_attributesSource`).
-/
namespace Componentry

/-! ## Characters -/

theorem isQuote_eq_false {c : Char} (h₁ : c ≠ '"') (h₂ : c ≠ '\'') : Block.isQuote c = false := by
  simp [Block.isQuote, h₁, h₂]

/-- The quote that is open behind a character, if `quote` is the one before it. -/
def Block.quoteBehind (quote : Option Char) (c : Char) : Option Char :=
  match quote with
  | some q => if c = q then none else some q
  | none => if isQuote c then some c else none

namespace Attribute

theorem isKeyChar_ne {c : Char} (h : isKeyChar c = true) :
    Block.isQuote c = false ∧ c ≠ '{' ∧ c ≠ '}' ∧ c ≠ '>' := by
  simp only [isKeyChar, Bool.not_eq_true', Bool.or_eq_false_iff, decide_eq_false_iff_not] at h
  obtain ⟨⟨⟨⟨⟨⟨⟨-, -⟩, h₁⟩, -⟩, h₂⟩, h₃⟩, h₄⟩, h₅⟩ := h
  exact ⟨isQuote_eq_false h₂ h₃, h₄, h₅, h₁⟩

end Attribute

namespace Operand

/-- Whether an attribute can be told from its text inside of a tag, where a `<` in its key
or its text means nothing. -/
def isReadable : Text × Operand → Bool
  | (key, value) =>
    !key.isEmpty && key.all Attribute.isKeyChar &&
      match value with
      | text v => v.all fun c => c != '"' && c != '{'
      | var x => isIdentifier x

/-! The three facts about such an attribute that reading needs. -/

theorem isReadable_key {a : Text × Operand} (h : isReadable a = true) :
    ∃ c s, a.1 = c :: s ∧ ∀ d ∈ c :: s, Attribute.isKeyChar d = true := by
  obtain ⟨key, value⟩ := a
  simp only [isReadable, Bool.and_eq_true] at h
  cases key with
  | nil => simp at h
  | cons c s => exact ⟨c, s, rfl, fun d hd => List.all_eq_true.1 h.1.2 d hd⟩

theorem isReadable_text {key v : Text} (h : isReadable (key, text v) = true) :
    ∀ c ∈ v, c ≠ '"' ∧ c ≠ '{' := by
  simp only [isReadable, Bool.and_eq_true] at h
  intro c hc
  simpa using List.all_eq_true.1 h.2 c hc

theorem isReadable_var {key x : Text} (h : isReadable (key, var x) = true) :
    isIdentifier x = true := by
  simp only [isReadable, Bool.and_eq_true] at h
  exact h.2

/-! A well-formed attribute can be told from its text everywhere. -/

theorem isWellFormed_key {a : Text × Operand} (h : isWellFormed a = true) :
    ∃ c s, a.1 = c :: s ∧ ∀ d ∈ c :: s, Attribute.isKeyChar d = true ∧ d ≠ '<' := by
  obtain ⟨key, value⟩ := a
  simp only [isWellFormed, Bool.and_eq_true] at h
  cases key with
  | nil => simp at h
  | cons c s =>
    refine ⟨c, s, rfl, fun d hd => ?_⟩
    simpa using List.all_eq_true.1 h.1.2 d hd

theorem isWellFormed_text {key v : Text} (h : isWellFormed (key, text v) = true) :
    ∀ c ∈ v, c ≠ '"' ∧ c ≠ '<' ∧ c ≠ '{' := by
  simp only [isWellFormed, Bool.and_eq_true, isPlainValue] at h
  intro c hc
  simpa [and_assoc] using List.all_eq_true.1 h.2 c hc

theorem isReadable_of_isWellFormed {a : Text × Operand} (h : isWellFormed a = true) :
    isReadable a = true := by
  obtain ⟨key, value⟩ := a
  simp only [isWellFormed, isReadable, isPlainValue, Bool.and_eq_true, List.all_eq_true] at h ⊢
  refine ⟨⟨h.1.1, fun c hc => (h.1.2 c hc).1⟩, ?_⟩
  cases value with
  | text v => exact List.all_eq_true.2 fun c hc => by simp_all
  | var x => exact h.2

theorem isWellFormed_var {key x : Text} (h : isWellFormed (key, var x) = true) :
    isIdentifier x = true := isReadable_var (isReadable_of_isWellFormed h)

theorem all_isReadable {attributes : List (Text × Operand)}
    (h : attributes.all isWellFormed = true) : attributes.all isReadable = true :=
  List.all_eq_true.2 fun a ha => isReadable_of_isWellFormed (List.all_eq_true.1 h a ha)

end Operand

/-! ## Attributes are read back -/

namespace Attribute

theorem takeWhile_append_cons {p : Char → Bool} {s t : Text} {c : Char}
    (h : ∀ d ∈ s, p d = true) (hc : p c = false) : (s ++ c :: t).takeWhile p = s := by
  rw [List.takeWhile_append_of_pos h, List.takeWhile_cons_of_neg (by simp [hc]), List.append_nil]

theorem dropWhile_append_cons {p : Char → Bool} {s t : Text} {c : Char}
    (h : ∀ d ∈ s, p d = true) (hc : p c = false) : (s ++ c :: t).dropWhile p = c :: t := by
  rw [List.dropWhile_append_of_pos h, List.dropWhile_cons_of_neg (by simp [hc])]

/-- Whether the quotes in a text are closed if a backslash takes the next character with it
everywhere.  `quote` is the one that is open before the text. -/
def escapedClosed (quote : Option Char) : Text → Bool
  | [] => quote.isNone
  | c :: s =>
    if c = '\\' then
      match s with
      | [] => false
      | _ :: s' => escapedClosed quote s'
    else escapedClosed (Block.quoteBehind quote c) s

theorem escapedClosed_char {quote : Option Char} {c : Char} (h : c ≠ '\\') (s : Text) :
    escapedClosed quote (c :: s) = escapedClosed (Block.quoteBehind quote c) s := by
  rw [escapedClosed.eq_def]
  simp [h]

theorem bracesFrom?_char {quote : Option Char} {depth : Nat} {c : Char} {s : Text}
    (h₁ : c ≠ '\\') (h₂ : c ≠ '{') (h₃ : c ≠ '}') :
    bracesFrom? quote depth (c :: s) =
      (bracesFrom? (Block.quoteBehind quote c) depth s).map (Prod.map (c :: ·) id) := by
  rw [bracesFrom?.eq_def]
  cases quote with
  | some q => simp [h₁, Block.quoteBehind]
  | none => cases hq : Block.isQuote c <;> simp [h₁, h₂, h₃, hq, Block.quoteBehind]

/-- Braces enclose a text without braces whose quotes are closed. -/
theorem bracesFrom?_closed {quote : Option Char} {x : Text} (h : escapedClosed quote x = true)
    (hx : ∀ c ∈ x, c ≠ '{' ∧ c ≠ '}') (rest : Text) :
    bracesFrom? quote 0 (x ++ '}' :: rest) = some (x, rest) := by
  fun_induction escapedClosed quote x with
  | case1 quote =>
    cases quote with
    | none => simp [bracesFrom?, Block.isQuote]
    | some q => cases h
  | case2 => cases h
  | case3 quote d x ih =>
    rw [List.cons_append, List.cons_append, bracesFrom?, ih h fun e he => hx e (by simp [he])]
    rfl
  | case4 quote c x hc ih =>
    have hne := hx c (by simp)
    rw [List.cons_append, bracesFrom?_char hc hne.1 hne.2, ih h fun d hd => hx d (by simp [hd])]
    rfl

theorem escapedClosed_identifier {x : Text} (h : ∀ c ∈ x, Template.isIdentChar c = true) :
    escapedClosed none x = true := by
  induction x with
  | nil => rfl
  | cons c x ih =>
    obtain ⟨hquote, -, -, -, -, -, -, hescape⟩ := Block.isIdentChar_ne (h c (by simp))
    rw [escapedClosed_char hescape, Block.quoteBehind, hquote]
    exact ih fun d hd => h d (by simp [hd])

theorem value_quoted {q : Char} (hq : Block.isQuote q = true) {v : Text} (h : ∀ c ∈ v, c ≠ q)
    (rest : Text) : value (q :: v ++ q :: rest) = (.text v, rest) := by
  have hv : ∀ c ∈ v, (c != q) = true := by simpa using h
  have hne : (q != q) = false := by simp
  rw [List.cons_append, value, if_pos hq, takeWhile_append_cons hv hne,
    dropWhile_append_cons hv hne]
  rfl

/-- Braces hold an expression if they are closed there and no second brace opens a block. -/
theorem value_balanced {x rest : Text} (h : braces? (x ++ '}' :: rest) = some (x, rest))
    (hhead : x.head? ≠ some '{') : value ('{' :: x ++ '}' :: rest) = (.expression x, rest) := by
  have hopen : (x ++ '}' :: rest).head? ≠ some '{' := by
    cases x with
    | nil => simp
    | cons c x => exact hhead
  rw [List.cons_append, value, if_neg (by decide), if_pos rfl, if_neg hopen, h]

theorem value_braced {x : Text} (h : escapedClosed none x = true)
    (hx : ∀ c ∈ x, c ≠ '{' ∧ c ≠ '}') (rest : Text) :
    value ('{' :: x ++ '}' :: rest) = (.expression x, rest) := by
  have hhead : x.head? ≠ some '{' := fun heq => (hx '{' (List.mem_of_mem_head? heq)).1 rfl
  exact value_balanced (bracesFrom?_closed h hx rest) hhead

theorem value_var {x : Text} (h : isIdentifier x = true) (rest : Text) :
    value ('{' :: x ++ '}' :: rest) = (.expression x, rest) := by
  have hx := isIdentifier_chars h
  refine value_braced (escapedClosed_identifier hx) (fun c hc => ?_) rest
  exact ⟨(Block.isIdentChar_ne (hx c hc)).2.2.1, (Block.isIdentChar_ne (hx c hc)).2.1⟩

/-! What the parser meets where an attribute may start: a blank, a key, or a brace. -/

theorem parse_blank {c : Char} (h : Text.isBlank c = true) (rest : Text) :
    parse (c :: rest) = parse rest := by
  have hbrace : c ≠ '{' := by
    rintro rfl
    exact absurd h (by decide)
  rw [parse, if_neg hbrace, if_neg (by simp [isKeyChar, h])]

theorem parse_blanks {gap : Text} (h : ∀ c ∈ gap, Text.isBlank c = true) (rest : Text) :
    parse (gap ++ rest) = parse rest := by
  induction gap with
  | nil => rfl
  | cons c gap ih =>
    rw [List.cons_append, parse_blank (h c (by simp)), ih fun d hd => h d (by simp [hd])]

/-- A key and the value behind it are one attribute; blanks may stand around the sign between
the two. -/
theorem parse_keyed {c q : Char} {s before after v rest : Text} {found : AttributeValue}
    (hall : ∀ d ∈ c :: s, isKeyChar d = true) (hbefore : ∀ d ∈ before, Text.isBlank d = true)
    (hafter : ∀ d ∈ after, Text.isBlank d = true) (hq : Text.isBlank q = false)
    (hval : value (q :: v) = (found, rest)) :
    parse (c :: s ++ (before ++ '=' :: (after ++ q :: v))) =
      .literal (c :: s) found :: parse rest := by
  have hc := isKeyChar_ne (hall c (by simp))
  have hs : ∀ d ∈ s, isKeyChar d = true := fun d hd => hall d (by simp [hd])
  have hblanks := dropWhile_append_cons (t := after ++ q :: v) hbefore
    (show Text.isBlank '=' = false by decide)
  -- The key ends at the first blank, or at the sign.
  have hstop : ∃ d w, before ++ '=' :: (after ++ q :: v) = d :: w ∧ isKeyChar d = false := by
    cases before with
    | nil => exact ⟨'=', _, rfl, by decide⟩
    | cons d before => exact ⟨d, _, rfl, by simp [isKeyChar, hbefore d (by simp)]⟩
  obtain ⟨d, w, hd, hstop⟩ := hstop
  rw [hd] at hblanks ⊢
  have htake := takeWhile_append_cons (t := w) hs hstop
  have hdrop := dropWhile_append_cons (t := w) hs hstop
  rw [List.cons_append, parse, if_neg hc.2.1, if_pos (hall c (by simp))]
  simp only [htake]
  split
  · rename_i u hu
    rw [hdrop, hblanks] at hu
    cases hu
    rw [dropWhile_append_cons hafter hq, hval]
  · rename_i hne
    exact absurd (by rw [hdrop, hblanks]) (hne (after ++ q :: v))

theorem parse_braces {t inner rest : Text} (h : braces? t = some (inner, rest)) :
    parse ('{' :: t) = (spread? inner).toList ++ parse rest := by
  rw [parse, if_pos rfl]
  split
  · rename_i hnone
    rw [h] at hnone
    cases hnone
  · rename_i inner' rest' hsome
    rw [h] at hsome
    cases hsome
    cases spread? inner <;> rfl

theorem parse_attributeSource {a : Text × Operand} (h : Operand.isReadable a = true)
    (rest : Text) :
    parse (Operand.attributeSource a ++ rest) = Operand.attribute a :: parse rest := by
  obtain ⟨c, s, hkey, hall⟩ := Operand.isReadable_key h
  obtain ⟨key, value⟩ := a
  simp only at hkey
  subst hkey
  cases value with
  | text v =>
    have hv := value_quoted (q := '"') rfl (fun c hc => (Operand.isReadable_text h c hc).1) rest
    have hp := parse_keyed hall (List.forall_mem_nil _) (List.forall_mem_nil _) (by decide) hv
    have hspaced := (parse_blank (c := ' ') rfl _).trans hp
    simpa [Operand.attributeSource, Operand.attribute] using hspaced
  | var x =>
    have hv := value_var (Operand.isReadable_var h) rest
    have hp := parse_keyed hall (List.forall_mem_nil _) (List.forall_mem_nil _) (by decide) hv
    have hspaced := (parse_blank (c := ' ') rfl _).trans hp
    simpa [Operand.attributeSource, Operand.attribute] using hspaced

/-- **Attributes are read back from their text.** -/
theorem parse_attributesSource {attributes : List (Text × Operand)}
    (h : attributes.all Operand.isReadable = true) :
    parse (attributesSource attributes) = attributes.map Operand.attribute := by
  induction attributes with
  | nil => rw [attributesSource, List.flatMap_nil, parse, List.map_nil]
  | cons a attributes ih =>
    simp only [List.all_cons, Bool.and_eq_true] at h
    rw [attributesSource, List.flatMap_cons, parse_attributeSource h.1, List.map_cons,
      ← attributesSource, ih h.2]

end Attribute

/-! ## The props of a written tag -/

namespace Text

theorem cut?_eq_none {p s : Text} (h : ¬ p <:+: s) : cut? p s = none := by
  cases hcut : cut? p s with
  | none => rfl
  | some found =>
    obtain ⟨a, b⟩ := found
    exact absurd ⟨a, b, (cut?_eq_some hcut).symm⟩ h

theorem trimStart_eq_self {s : Text} (h : ∀ c ∈ s, isSpace c = false) : trimStart s = s := by
  cases s with
  | nil => rfl
  | cons c s => rw [trimStart, List.dropWhile_cons_of_neg (by simp [h c (by simp)])]

theorem trimEnd_eq_self {s : Text} (h : ∀ c ∈ s, isSpace c = false) : trimEnd s = s := by
  have hreverse : trimStart s.reverse = s.reverse := trimStart_eq_self (by simpa using h)
  rw [trimStart] at hreverse
  rw [trimEnd, hreverse, List.reverse_reverse]

/-- A text without spaces is kept by trimming. -/
theorem trim_eq_self {s : Text} (h : ∀ c ∈ s, isSpace c = false) : trim s = s := by
  rw [trim, trimStart_eq_self h, trimEnd_eq_self h]

theorem isSpace_of_isIdentChar {c : Char} (h : Template.isIdentChar c = true) :
    isSpace c = false := by
  simp only [Template.isIdentChar, isAsciiLetter, isAsciiDigit, Bool.or_eq_true, Bool.and_eq_true,
    decide_eq_true_eq, Char.le_def, UInt32.le_iff_toNat_le] at h
  rcases h with ((h | h) | h) | rfl
  · simp only [isSpace, Char.toNat] at *
    simp at *
    omega
  · simp only [isSpace, Char.toNat] at *
    simp at *
    omega
  · simp only [isSpace, Char.toNat] at *
    simp at *
    omega
  · decide

end Text

namespace AttributeValue

theorem pieces_plain {v : Text} (h : ¬ ['{', '{'] <:+: v) :
    pieces v = if v.isEmpty then [] else [.plain v] := by
  rw [pieces]
  split
  · rfl
  · rename_i hcut
    rw [Text.cut?_eq_none h] at hcut
    cases hcut

/-- A text without holes is quoted as it is. -/
theorem textSource_plain {v : Text} (h : ¬ ['{', '{'] <:+: v) : textSource v = Text.quote v := by
  rw [textSource, pieces_plain h]
  cases v <;> rfl

end AttributeValue

theorem Operand.source_attribute {a : Text × Operand} (h : Operand.isReadable a = true) :
    Props.ofAttributes [Operand.attribute a] = ⟨[], [Operand.entry a]⟩ := by
  obtain ⟨key, value⟩ := a
  cases value with
  | text v =>
    have hv : ¬ ['{', '{'] <:+: v := fun hin =>
      (Operand.isReadable_text h '{' (hin.subset (by simp))).2 rfl
    simp [Props.ofAttributes, Operand.attribute, Operand.entry, AttributeValue.source,
      AttributeValue.textSource_plain hv]
  | var x =>
    have hx := isIdentifier_chars (Operand.isReadable_var h)
    have htrim := Text.trim_eq_self fun c hc => Text.isSpace_of_isIdentChar (hx c hc)
    simp [Props.ofAttributes, Operand.attribute, Operand.entry, AttributeValue.source, htrim]

/-- The props of a written tag are its entries. -/
theorem Props.ofText_attributesSource {attributes : List (Text × Operand)}
    (h : attributes.all Operand.isReadable = true) :
    Props.ofText (attributesSource attributes) = ⟨[], attributes.map Operand.entry⟩ := by
  rw [Props.ofText, Attribute.parse_attributesSource h]
  induction attributes with
  | nil => rfl
  | cons a attributes ih =>
    simp only [List.all_cons, Bool.and_eq_true] at h
    have hfirst := Operand.source_attribute h.1
    have hrest := ih h.2
    simp only [Props.ofAttributes, List.map_cons, Props.mk.injEq] at *
    cases hattr : Operand.attribute a with
    | literal key value => simp_all
    | spread source => simp_all

/-! ## The end of an opening tag -/

namespace Tag

/-- The search for the end of an opening tag steps over `w` as a whole. -/
def Spans (w : Text) : Prop :=
  ∀ rest, attributesFrom? none 0 (w ++ rest) =
    (attributesFrom? none 0 rest).map (Prod.map (w ++ ·) id)

theorem Spans.nil : Spans [] := fun rest => by
  cases h : attributesFrom? none 0 rest <;> simp [h, Prod.map]

theorem Spans.append {v w : Text} (hv : Spans v) (hw : Spans w) : Spans (v ++ w) := by
  intro rest
  rw [List.append_assoc, hv, hw, Option.map_map]
  congr 1
  funext pair
  simp [Prod.map]

theorem attributesFrom?_char {depth : Nat} {c : Char} {s : Text}
    (hb : Block.cut? (c :: s) = none) (hend : (c = '>' && depth == 0) = false) :
    attributesFrom? none depth (c :: s) =
      (attributesFrom? (if Block.isQuote c then some c else none)
        (if c = '{' then depth + 1 else if c = '}' then depth - 1 else depth) s).map
        (Prod.map (c :: ·) id) := by
  rw [attributesFrom?]
  split
  · rename_i h
    rw [hb] at h
    cases h
  · rw [if_neg (by simp [hend])]

theorem attributesFrom?_block {depth : Nat} {s block rest : Text}
    (h : Block.cut? s = some (block, rest)) :
    attributesFrom? none depth s =
      (attributesFrom? none depth rest).map (Prod.map (block ++ ·) id) := by
  cases s with
  | nil => cases h
  | cons c s =>
    rw [attributesFrom?]
    split
    · rename_i h'
      rw [h] at h'
      cases h'
      rfl
    · rename_i h'
      rw [h] at h'
      cases h'

theorem attributesFrom?_literal (q c : Char) (depth : Nat) (s : Text) :
    attributesFrom? (some q) depth (c :: s) =
      (attributesFrom? (if c = q then none else some q) depth s).map (Prod.map (c :: ·) id) := by
  rw [attributesFrom?]

/-- Characters that mean nothing in an opening tag. -/
theorem Spans.chars {w : Text}
    (h : ∀ c ∈ w, Block.isQuote c = false ∧ c ≠ '{' ∧ c ≠ '}' ∧ c ≠ '>') : Spans w := by
  induction w with
  | nil => exact .nil
  | cons c w ih =>
    obtain ⟨h₁, h₂, h₃, h₄⟩ := h c (by simp)
    refine Spans.append (v := [c]) ?_ (ih fun d hd => h d (by simp [hd]))
    intro rest
    rw [List.singleton_append, attributesFrom?_char (Block.cut?_eq_none_of_ne h₂ _) (by simp [h₄])]
    simp [h₁, h₂, h₃]

theorem Spans.fixed {w : Text}
    (h : w.all (fun c => !Block.isQuote c && c != '{' && c != '}' && c != '>') = true) :
    Spans w := by
  refine .chars fun c hc => ?_
  simpa [and_assoc] using List.all_eq_true.1 h c hc

theorem attributesFrom?_quoted {q : Char} {v : Text} (h : ∀ c ∈ v, c ≠ q) (rest : Text) :
    attributesFrom? (some q) 0 (v ++ q :: rest) =
      (attributesFrom? none 0 rest).map (Prod.map (v ++ q :: ·) id) := by
  induction v with
  | nil =>
    rw [List.nil_append, attributesFrom?]
    simp
  | cons c v ih =>
    rw [List.cons_append, attributesFrom?]
    simp only [if_neg (h c (by simp)), ih fun d hd => h d (by simp [hd]), Option.map_map]
    rfl

/-- A text in quotes. -/
theorem Spans.quoted {q : Char} (hq : Block.isQuote q = true) {v : Text} (h : ∀ c ∈ v, c ≠ q) :
    Spans (q :: v ++ [q]) := by
  intro rest
  have hne : q ≠ '{' ∧ q ≠ '}' ∧ q ≠ '>' := by
    simp only [Block.isQuote, Bool.or_eq_true, decide_eq_true_eq] at hq
    rcases hq with rfl | rfl <;> decide
  rw [List.append_assoc, List.cons_append,
    attributesFrom?_char (Block.cut?_eq_none_of_ne hne.1 _) (by simp [hne.2.2]), if_pos hq,
    if_neg hne.1, if_neg hne.2.1, List.singleton_append, attributesFrom?_quoted h, Option.map_map]
  congr 1
  funext pair
  simp [Prod.map]

/-- Whether the quotes in a text are closed if a backslash means nothing.  `quote` is the one
that is open before the text. -/
def quotesClosed (quote : Option Char) : Text → Bool
  | [] => quote.isNone
  | c :: s => quotesClosed (Block.quoteBehind quote c) s

theorem attributesFrom?_braces {quote : Option Char} {depth : Nat} {c : Char} {s : Text}
    (h₁ : c ≠ '{') (h₂ : c ≠ '}') :
    attributesFrom? quote (depth + 1) (c :: s) =
      (attributesFrom? (Block.quoteBehind quote c) (depth + 1) s).map (Prod.map (c :: ·) id) := by
  cases quote with
  | some q => exact attributesFrom?_literal q c _ s
  | none =>
    rw [attributesFrom?_char (Block.cut?_eq_none_of_ne h₁ _) (by simp), if_neg h₁, if_neg h₂]
    rfl

/-- Between braces a text without braces whose quotes are closed is stepped over. -/
theorem attributesFrom?_closed {quote : Option Char} {x : Text} (h : quotesClosed quote x = true)
    (hx : ∀ c ∈ x, c ≠ '{' ∧ c ≠ '}') (depth : Nat) (rest : Text) :
    attributesFrom? quote (depth + 1) (x ++ rest) =
      (attributesFrom? none (depth + 1) rest).map (Prod.map (x ++ ·) id) := by
  induction x generalizing quote with
  | nil =>
    rw [Option.isNone_iff_eq_none.1 h, List.nil_append]
    cases attributesFrom? none (depth + 1) rest <;> rfl
  | cons c x ih =>
    have hne := hx c (by simp)
    have hrest := ih h fun d hd => hx d (by simp [hd])
    rw [List.cons_append, attributesFrom?_braces hne.1 hne.2, hrest, Option.map_map]
    rfl

/-- A text in braces, which do not start a block. -/
theorem Spans.braced {x : Text} (h : quotesClosed none x = true)
    (hx : ∀ c ∈ x, c ≠ '{' ∧ c ≠ '}') (hhead : ∀ c ∈ x.head?, c ≠ '%' ∧ c ≠ '#') :
    Spans ('{' :: x ++ ['}']) := by
  intro rest
  have hcut : Block.cut? ('{' :: (x ++ '}' :: rest)) = none := by
    cases x with
    | nil => exact Block.cut?_brace (by decide) (by decide) (by decide) _
    | cons c x => exact Block.cut?_brace (hx c (by simp)).1 (hhead c rfl).1 (hhead c rfl).2 _
  rw [List.append_assoc, List.cons_append, List.singleton_append,
    attributesFrom?_char hcut (by simp), if_pos rfl, if_neg (by decide),
    attributesFrom?_closed h hx, attributesFrom?_char (Block.cut?_eq_none_of_ne (by decide) _)
      (by simp), if_neg (by decide), if_pos rfl, if_neg (by decide)]
  simp only [Option.map_map]
  congr 1
  funext pair
  simp [Prod.map]

theorem quotesClosed_of_not_isQuote {x : Text} (h : ∀ c ∈ x, Block.isQuote c = false) :
    quotesClosed none x = true := by
  induction x with
  | nil => rfl
  | cons c x ih =>
    rw [quotesClosed, Block.quoteBehind, h c (by simp)]
    exact ih fun d hd => h d (by simp [hd])

theorem Spans.identifier {x : Text} (h : isIdentifier x = true) : Spans ('{' :: x ++ ['}']) := by
  have hne := fun c hc => Block.isIdentChar_ne (isIdentifier_chars h c hc)
  refine .braced (quotesClosed_of_not_isQuote fun c hc => (hne c hc).1) ?_ ?_
  · exact fun c hc => ⟨(hne c hc).2.2.1, (hne c hc).2.1⟩
  · exact fun c hc => ⟨(hne c (List.mem_of_mem_head? hc)).2.2.2.1,
      (hne c (List.mem_of_mem_head? hc)).2.2.2.2.1⟩

theorem spans_attributeSource {a : Text × Operand} (h : Operand.isReadable a = true) :
    Spans (Operand.attributeSource a) := by
  obtain ⟨c, s, hkey, hall⟩ := Operand.isReadable_key h
  have hstart : Spans (' ' :: a.1 ++ ['=']) := by
    refine .chars fun d hd => ?_
    simp only [List.cons_append, List.mem_cons, List.mem_append, List.not_mem_nil, or_false,
      hkey] at hd
    rcases hd with rfl | rfl | hd | rfl
    · decide
    · exact Attribute.isKeyChar_ne (hall d (by simp))
    · exact Attribute.isKeyChar_ne (hall d (by simp [hd]))
    · decide
  obtain ⟨key, value⟩ := a
  cases value with
  | text v =>
    have hv := Spans.quoted (q := '"') rfl fun c hc => (Operand.isReadable_text h c hc).1
    simpa [Operand.attributeSource] using hstart.append hv
  | var x =>
    have hx := Spans.identifier (Operand.isReadable_var h)
    simpa [Operand.attributeSource] using hstart.append hx

theorem spans_attributesSource {attributes : List (Text × Operand)}
    (h : attributes.all Operand.isReadable = true) : Spans (attributesSource attributes) := by
  induction attributes with
  | nil => exact .nil
  | cons a attributes ih =>
    simp only [List.all_cons, Bool.and_eq_true] at h
    rw [attributesSource, List.flatMap_cons]
    exact (spans_attributeSource h.1).append (ih h.2)

/-- Written attributes reach to the end of their opening tag. -/
theorem attributes?_of_spans {w : Text} (h : Spans w) (rest : Text) :
    attributes? (w ++ '>' :: rest) = some (w, rest) := by
  have hend : attributesFrom? none 0 ('>' :: rest) = some ([], rest) := by
    rw [attributesFrom?]
    split
    · rename_i hb
      rw [Block.cut?_eq_none_of_ne (by decide)] at hb
      cases hb
    · simp
  rw [attributes?, h, hend]
  simp [Prod.map]

/-- The tag ends outside of quotes and braces. -/
theorem attributesFrom?_nil {quote : Option Char} {depth : Nat} {s rest : Text}
    (h : attributesFrom? quote depth s = some ([], rest)) : depth = 0 := by
  fun_cases attributesFrom? quote depth s with
  | case1 => simp [attributesFrom?] at h
  | case2 => simp [attributesFrom?_literal, Prod.map] at h
  | case3 c t block rest' hb =>
    obtain ⟨a, -, ha⟩ := Option.map_eq_some_iff.1 ((attributesFrom?_block hb).symm.trans h)
    have hblock : block = [] := (List.append_eq_nil_iff.1 (Prod.mk.inj ha).1).1
    have happ := Block.cut?_append hb
    have hlen := Block.cut?_length hb
    simp [← happ, hblock] at hlen
  | case4 c t hb hc => simpa using (Bool.and_eq_true_iff.1 hc).2
  | case5 c t hb hc =>
    rw [attributesFrom?_char hb (by simpa using hc)] at h
    simp [Prod.map] at h

/-- What stands before the end of an opening tag is stepped over whatever follows. -/
theorem attributesFrom?_region {quote : Option Char} {depth : Nat} {s region rest : Text}
    (h : attributesFrom? quote depth s = some (region, rest)) (tail : Text) :
    attributesFrom? quote depth (region ++ tail) =
      (attributesFrom? none 0 tail).map (Prod.map (region ++ ·) id) := by
  fun_induction attributesFrom? quote depth s generalizing region with
  | case1 => cases h
  | case2 depth c t q ih =>
    simp only [dite_eq_ite] at ih
    simp only [Option.map_eq_some_iff, Prod.exists, Prod.map, Prod.mk.injEq, id] at h
    obtain ⟨a, b, hab, rfl, rfl⟩ := h
    rw [List.cons_append, attributesFrom?_literal, ih hab, Option.map_map]
    rfl
  | case3 depth c t block rest' hb _ ih =>
    simp only [Option.map_eq_some_iff, Prod.exists, Prod.map, Prod.mk.injEq, id] at h
    obtain ⟨a, b, hab, rfl, rfl⟩ := h
    have hclosed := Block.closed_of_rest_ne_nil hb (by rintro rfl; simp [attributesFrom?] at hab)
    rw [List.append_assoc, attributesFrom?_block (hclosed _), ih hab, Option.map_map]
    congr 1
    funext pair
    simp [Prod.map]
  | case4 depth c t hb hc =>
    simp only [Bool.and_eq_true, decide_eq_true_eq, beq_iff_eq] at hc
    cases h
    obtain ⟨-, rfl⟩ := hc
    cases h : attributesFrom? none 0 tail <;> simp [h, Prod.map]
  | case5 depth c t hb hc =>
    rename_i quote' depth' ih
    simp only [Option.map_eq_some_iff, Prod.exists, Prod.map, Prod.mk.injEq, id] at h
    obtain ⟨a, b, hab, rfl, rfl⟩ := h
    simp only [quote', depth', dite_eq_ite] at hab ih
    have happ := attributesFrom?_append hab
    -- A brace at the very end would leave the tag open, so the next character is as before.
    have hcut : Block.cut? (c :: (a ++ tail)) = none := by
      by_cases hbrace : c = '{'
      · cases a with
        | nil =>
          rw [if_pos hbrace] at hab
          cases attributesFrom?_nil hab
        | cons d a =>
          rw [← happ] at hb
          exact (Block.cut?_eq_none_congr c d _ _).1 hb
      · exact Block.cut?_eq_none_of_ne hbrace _
    rw [List.cons_append, attributesFrom?_char hcut (by simpa using hc), ih hab, Option.map_map]
    rfl
/-- The attributes of an opening tag are stepped over, whatever follows them. -/
theorem spans_of_attributes? {s region rest : Text} (h : attributes? s = some (region, rest)) :
    Spans region := attributesFrom?_region h

/-- An attribute ends with a quote or a brace. -/
theorem attributeSource_concat (a : Text × Operand) :
    ∃ w q, Operand.attributeSource a = w ++ [q] ∧ (q = '"' ∨ q = '}') := by
  obtain ⟨key, value⟩ := a
  cases value with
  | text v => exact ⟨' ' :: key ++ '=' :: '"' :: v, '"', by simp [Operand.attributeSource], Or.inl rfl⟩
  | var x => exact ⟨' ' :: key ++ '=' :: '{' :: x, '}', by simp [Operand.attributeSource], Or.inr rfl⟩

theorem slash?_attributesSource (attributes : List (Text × Operand)) :
    slash? (attributesSource attributes) = none := by
  rcases List.eq_nil_or_concat attributes with rfl | ⟨before, a, rfl⟩
  · rfl
  · obtain ⟨w, q, ha, hq⟩ := attributeSource_concat a
    have hsource : (attributesSource (before.concat a)).reverse =
        q :: (attributesSource before ++ w).reverse := by
      simp [attributesSource, ha]
    unfold slash?
    rcases hq with rfl | rfl
    · rw [hsource, List.dropWhile_cons_of_neg (by decide)]
      rfl
    · rw [hsource, List.dropWhile_cons_of_neg (by decide)]
      rfl

theorem slash?_append_slash (w : Text) : slash? (w ++ ['/']) = some (w, ['/']) := by
  unfold slash?
  have hb : ¬ Text.isBlank '/' = true := by decide
  rw [List.reverse_append, List.reverse_singleton, List.singleton_append,
    List.dropWhile_cons_of_neg hb, List.takeWhile_cons_of_neg hb]
  simp

end Tag

end Componentry
