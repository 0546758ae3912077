import Componentry.Proofs.Markup.Tree
import Componentry.Proofs.Quoting

/-! # Searches step over what they do not look for

The scan for elements and the search for a closing tag walk over a text in the
same way: template blocks are stepped over as a whole, and so is every character
outside of them but `<`.  `Search` says just that, so that what such a walk steps
over (`Search.Skips`) is proved once for all of them, piece by piece: text,
attributes, blocks of generated code.

What a search does at `<` is its own matter; it is said for opening and closing
tags in `Componentry.Proofs.Markup.Tags`.
-/
namespace Componentry

/-! ## Whole blocks -/

namespace Block

/-- A text is one block, whatever follows it. -/
def Closed (block : Text) : Prop := ∀ rest, cut? (block ++ rest) = some (block, rest)

theorem cut?_eq_none_of_ne {c : Char} (h : c ≠ '{') (s : Text) : cut? (c :: s) = none := by
  simp [cut?, opening?, h]

/-- A brace opens a block only together with the character behind it. -/
theorem cut?_brace {c : Char} (h₁ : c ≠ '{') (h₂ : c ≠ '%') (h₃ : c ≠ '#') (s : Text) :
    cut? ('{' :: c :: s) = none := by
  simp [cut?, opening?, h₁, h₂, h₃]

/-- Two characters tell whether a block starts. -/
theorem cut?_eq_none_congr (c d : Char) (s t : Text) :
    cut? (c :: d :: s) = none ↔ cut? (c :: d :: t) = none := by
  have hopening : ∀ u : Text, opening? (c :: d :: u) = none ↔
      c ≠ '{' ∨ (d ≠ '{' ∧ d ≠ '%' ∧ d ≠ '#') := by
    intro u
    unfold opening?
    split <;> simp_all
    grind
  simp only [cut?, Option.map_eq_none_iff, hopening]

/-- The inside of a block starts as its text does. -/
theorem inside_head {kind : BlockKind} {literal : Option Char} (s : Text) :
    (inside kind literal s).1.head? = s.head? := by
  fun_cases inside kind literal s <;> simp_all [Prod.map]

/-- A block that ends before its text does ends there whatever follows. -/
theorem inside_closed {kind : BlockKind} {literal : Option Char} {s : Text}
    (h : (inside kind literal s).2 ≠ []) (rest : Text) :
    inside kind literal ((inside kind literal s).1 ++ rest) =
      ((inside kind literal s).1, rest) := by
  fun_induction inside kind literal s with
  | case1 => exact absurd rfl h
  | case2 => exact absurd rfl h
  | case3 q d s ih => simp [inside, ih h, Prod.map]
  | case4 q c s hc ih =>
    simp only [Prod.map_fst, List.cons_append]
    rw [inside_literal hc, ih h]
    rfl
  | case5 c s hq ih =>
    simp only [Prod.map_fst, List.cons_append]
    rw [inside.eq_def]
    simp [hq, ih h, Prod.map]
  | case6 s hq =>
    rw [List.cons_append, inside.eq_def]
    simp [hq]
  | case7 s hs hq ih =>
    -- The text behind the closing mark is not empty, and it starts as before.
    have hhead : (inside kind none s).1.head? = s.head? := inside_head s
    simp only [Prod.map_fst, List.cons_append]
    rw [inside_char (by simpa using hq), ih h]
    · rfl
    · rintro ⟨-, t, ht⟩
      cases s with
      | nil => exact h rfl
      | cons d s =>
        cases hin : (inside kind none (d :: s)).1 with
        | nil => simp [hin] at hhead
        | cons e a =>
          simp only [hin, List.head?_cons, Option.some.injEq] at hhead
          simp only [hin, List.cons_append, List.cons.injEq] at ht
          exact hs s (by rw [← hhead, ht.1])
  | case8 c s hq hc ih =>
    simp only [Prod.map_fst, List.cons_append]
    rw [inside_char (by simpa using hq) (by simp [hc]), ih h]
    rfl

theorem closed_of_rest_ne_nil {s block rest : Text} (h : cut? s = some (block, rest))
    (hrest : rest ≠ []) : Closed block := by
  intro tail
  simp only [cut?, Option.map_eq_some_iff, Prod.exists] at h
  obtain ⟨kind, t, -, hm⟩ := h
  obtain ⟨rfl, rfl⟩ := Prod.mk.inj hm
  have hin : inside kind none ((inside kind none t).1 ++ tail) = ((inside kind none t).1, tail) :=
    inside_closed hrest tail
  have hopen : opening? ('{' :: kind.mark :: (inside kind none t).1 ++ tail) =
      some (kind, (inside kind none t).1 ++ tail) := by cases kind <;> rfl
  simp only [cut?, hopen, Option.map_some, hin, Prod.map, id]

/-- Characters of identifiers neither open a literal nor end a block. -/
theorem isIdentChar_ne {c : Char} (h : Template.isIdentChar c = true) :
    isQuote c = false ∧ c ≠ '}' ∧ c ≠ '{' ∧ c ≠ '%' ∧ c ≠ '#' ∧ c ≠ '<' ∧ c ≠ '>' ∧ c ≠ '\\' := by
  have hne : ∀ d, Template.isIdentChar d = false → c ≠ d := by
    rintro d hd rfl
    exact absurd (h.symm.trans hd) (by decide)
  refine ⟨?_, hne _ (by decide), hne _ (by decide), hne _ (by decide), hne _ (by decide),
    hne _ (by decide), hne _ (by decide), hne _ (by decide)⟩
  simp only [isQuote, Bool.or_eq_false_iff, decide_eq_false_iff_not]
  exact ⟨hne _ (by decide), hne _ (by decide)⟩

theorem stepsOver_identifier {x : Text} (h : ∀ c ∈ x, Template.isIdentChar c = true) :
    StepsOver .expression x :=
  .chars fun c hc => ⟨(isIdentChar_ne (h c hc)).1, (isIdentChar_ne (h c hc)).2.1⟩

theorem StepsOver.join {separator : Text} (hs : StepsOver .expression separator) {ws : List Text}
    (h : ∀ w ∈ ws, StepsOver .expression w) : StepsOver .expression (Text.join separator ws) := by
  induction ws with
  | nil => exact .nil _
  | cons w ws ih =>
    have hw := h w (by simp)
    have hws := ih fun v hv => h v (by simp [hv])
    cases ws with
    | nil => exact hw
    | cons v ws => exact (hw.append hs).append hws

/-- Code that is stepped over as an argument of a call, where a comma or a bracket follows
it. -/
structure IsArgument (w : Text) : Prop where
  comma : StepsOver .expression (w ++ [','])
  bracket : StepsOver .expression (w ++ [')'])

theorem StepsOver.isArgument {w : Text} (h : StepsOver .expression w) : IsArgument w where
  comma := h.append (.fixed (by decide))
  bracket := h.append (.fixed (by decide))

theorem IsArgument.arguments {ws : List Text} (h : ∀ w ∈ ws, IsArgument w) :
    StepsOver .expression (Text.join [',', ' '] ws ++ [')']) := by
  induction ws with
  | nil => exact .fixed (by decide)
  | cons w ws ih =>
    have hw := h w (by simp)
    cases ws with
    | nil => exact hw.bracket
    | cons v ws =>
      have hrest := ih fun u hu => h u (List.mem_cons_of_mem w hu)
      have hblank : StepsOver .expression [' '] := .fixed (by decide)
      have hall := (hw.comma.append hblank).append hrest
      simpa [Text.join] using hall

/-- A call is stepped over if its arguments are. -/
theorem IsArgument.call {function : Text} (hf : StepsOver .expression function) {ws : List Text}
    (h : ∀ w ∈ ws, IsArgument w) : StepsOver .expression (Props.call function ws) := by
  have hopen : StepsOver .expression ['('] := .fixed (by decide)
  have hcall := (hf.append hopen).append (IsArgument.arguments h)
  simpa [Props.call] using hcall

theorem StepsOver.call {function : Text} (hf : StepsOver .expression function) {ws : List Text}
    (h : ∀ w ∈ ws, StepsOver .expression w) : StepsOver .expression (Props.call function ws) :=
  IsArgument.call hf fun w hw => (h w hw).isArgument

theorem closed_expressionBlock {w : Text} (h : StepsOver .expression w) :
    Closed (expressionBlock w) := by
  intro rest
  have hblank : StepsOver .expression [' '] := .fixed (by decide)
  have hcut := cut?_block ((hblank.append h).append hblank) rest
  simpa [expressionBlock, BlockKind.mark, BlockKind.closeMark] using hcut

theorem closed_statementBlock {w : Text} (h : StepsOver .statement w) :
    Closed (statementBlock w) := by
  intro rest
  have hblank : StepsOver .statement [' '] := .fixed (by decide)
  have hcut := cut?_block ((hblank.append h).append hblank) rest
  simpa [statementBlock, BlockKind.mark, BlockKind.closeMark] using hcut

/-- The invocation of any definition is one block if its props are stepped
over. -/
theorem closed_invocation (name : Text) {props : Props} (h : IsArgument props.source) :
    Closed (invocation name props) := by
  refine closed_expressionBlock (IsArgument.call (.fixed (by decide)) ?_)
  simp only [List.forall_mem_cons]
  exact ⟨(stepsOver_quote rfl name).isArgument, h, by simp⟩

theorem stepsOver_dictSource {entries : List (Text × Text)}
    (h : ∀ e ∈ entries, IsArgument e.2) :
    StepsOver .expression (Props.dictSource entries) := by
  refine IsArgument.call (.fixed (by decide)) ?_
  intro w hw
  simp only [List.mem_flatMap, List.mem_cons, List.not_mem_nil, or_false] at hw
  obtain ⟨e, he, rfl | rfl⟩ := hw
  · exact (stepsOver_quote rfl e.1).isArgument
  · exact h e he

theorem props_source_entries (entries : List (Text × Text)) :
    Props.source ⟨[], entries⟩ = Props.dictSource entries := by
  cases entries <;> rfl

theorem stepsOver_installedSource (label : Text) :
    StepsOver .expression (installedSource label) := by
  refine .call (.fixed (by decide)) ?_
  simp only [List.forall_mem_cons]
  exact ⟨stepsOver_quote rfl label, .fixed (by decide), by simp⟩

theorem stepsOver_isGivenSource {kind : BlockKind} (hk : kind.hasLiterals = true) (label : Text) :
    StepsOver kind (isGivenSource label) := by
  have hopen : StepsOver kind (Attribute.contextVar ++ ['[']) := .fixed (by cases kind <;> decide)
  have hclose : StepsOver kind
      [']', ' ', 'i', 's', ' ', 'd', 'e', 'f', 'i', 'n', 'e', 'd'] :=
    .fixed (by cases kind <;> decide)
  have hall := (hopen.append (stepsOver_quote hk label)).append hclose
  simpa [isGivenSource] using hall

theorem closed_placeholder (label : Text) : Closed (placeholder label) :=
  closed_expressionBlock (((stepsOver_installedSource label).append (.fixed (by decide))).append
    (stepsOver_isGivenSource rfl label))

end Block

/-! ## Searches -/

/-- A search over markup: it steps over template blocks, and outside of them over
all characters but `<`. -/
structure Search (β : Type) where
  /-- The outcome of the search. -/
  run : Text → β
  /-- The outcome in a text that has a piece in front. -/
  under : Text → β → β
  under_nil : ∀ b, under [] b = b
  under_append : ∀ v w b, under (v ++ w) b = under v (under w b)
  run_block : ∀ {s block rest}, Block.cut? s = some (block, rest) → run s = under block (run rest)
  run_char : ∀ {c s}, c ≠ '<' → Block.cut? (c :: s) = none → run (c :: s) = under [c] (run s)

namespace Search

variable {β : Type} {S : Search β}

/-- The search steps over `w` as a whole. -/
def Skips (S : Search β) (w : Text) : Prop := ∀ rest, S.run (w ++ rest) = S.under w (S.run rest)

theorem Skips.nil : S.Skips [] := fun _ => (S.under_nil _).symm

theorem Skips.append {v w : Text} (hv : S.Skips v) (hw : S.Skips w) : S.Skips (v ++ w) := by
  intro rest
  rw [List.append_assoc, hv, hw, S.under_append]

theorem Skips.block {b : Text} (h : Block.Closed b) : S.Skips b := fun rest => S.run_block (h rest)

theorem Skips.char {c : Char} (h₁ : c ≠ '<') (h₂ : c ≠ '{') : S.Skips [c] := fun rest =>
  S.run_char h₁ (Block.cut?_eq_none_of_ne h₂ rest)

theorem Skips.chars {w : Text} (h : ∀ c ∈ w, c ≠ '<' ∧ c ≠ '{') : S.Skips w := by
  induction w with
  | nil => exact .nil
  | cons c w ih =>
    have hc := h c (by simp)
    exact Skips.append (.char hc.1 hc.2) (ih fun d hd => h d (by simp [hd]))

theorem Skips.text {s : Text} (h : isPlainText s = true) : S.Skips s := by
  refine .chars fun c hc => ?_
  simpa using List.all_eq_true.1 h c hc

/-- A placeholder with a fallback is three blocks, with the fallback in between. -/
theorem Skips.placeholderWithFallback (label : Text) {fallback : Text}
    (h : isPlainText fallback = true) : S.Skips (placeholderWithFallback label fallback) := by
  have hif : Block.Closed (statementBlock (['i', 'f', ' '] ++ isGivenSource label)) :=
    Block.closed_statementBlock
      ((Block.StepsOver.fixed (by decide)).append (Block.stepsOver_isGivenSource rfl label))
  have hinstalled := Block.closed_expressionBlock (Block.stepsOver_installedSource label)
  have helse : Block.Closed (statementBlock ['e', 'l', 's', 'e']) :=
    Block.closed_statementBlock (.fixed (by decide))
  have hendif : Block.Closed (statementBlock ['e', 'n', 'd', 'i', 'f']) :=
    Block.closed_statementBlock (.fixed (by decide))
  exact ((((Skips.block hif).append (.block hinstalled)).append (.block helse)).append
    (.text h)).append (.block hendif)

/-- A single brace in front of what is stepped over. -/
theorem Skips.brace {c : Char} {w : Text} (hc : Template.isIdentChar c = true)
    (h : S.Skips (c :: w)) : S.Skips ('{' :: c :: w) := by
  intro rest
  obtain ⟨-, -, h₁, h₂, h₃, -⟩ := Block.isIdentChar_ne hc
  rw [List.cons_append, List.cons_append, S.run_char (by decide) (Block.cut?_brace h₁ h₂ h₃ _),
    ← List.cons_append, h rest, ← S.under_append]
  rfl

end Search

/-! ## Identifiers -/

theorem isIdentChar_of_isIdentStart {c : Char} (h : Template.isIdentStart c = true) :
    Template.isIdentChar c = true := by
  simp only [Template.isIdentStart, Template.isIdentChar, Bool.or_eq_true] at *
  rcases h with h | h
  · exact Or.inl (Or.inl h)
  · exact Or.inr h

theorem isIdentifier_cons {x : Text} (h : isIdentifier x = true) :
    ∃ c s, x = c :: s ∧ Template.isIdentStart c = true ∧
      ∀ d ∈ c :: s, Template.isIdentChar d = true := by
  cases x with
  | nil => cases h
  | cons c s =>
    simp only [isIdentifier, Bool.and_eq_true] at h
    refine ⟨c, s, rfl, h.1, ?_⟩
    intro d hd
    rcases List.mem_cons.1 hd with rfl | hd
    · exact isIdentChar_of_isIdentStart h.1
    · exact List.all_eq_true.1 h.2 d hd

theorem isIdentifier_chars {x : Text} (h : isIdentifier x = true) :
    ∀ c ∈ x, Template.isIdentChar c = true := by
  obtain ⟨c, s, rfl, -, hall⟩ := isIdentifier_cons h
  exact hall

end Componentry
