import Componentry.Proofs.Template.Lexing
import Componentry.Proofs.Template.Parsing
import Componentry.Template.Escape

/-! # A verbatim body always parses

A definition that does not parse is kept verbatim, in raw blocks, so the verbatim
form must parse whatever text it holds (`Template.check_verbatim`).  The lexer ends
a raw block at the first tag that it takes for an end; the verbatim form cuts the
text at every tag that it takes for one.  The two readers of such tags differ: the
lexer allows only blanks of ASCII in a tag, the other one all spaces.  What matters
is that every tag of the lexer is a tag of the other (`Marker.endRaw?_rawEnd`), and
that no tag starts in the text and ends behind it (`rawClosing?_border`), because
the end of a raw block starts with a brace, and no tag has a second one.

A tag that was cut out is written as a string, and strings are escaped when they are
written out.  No tag has a character that escaping changes
(`Template.escapeText_rawEnd`), so the statements of a verbatim body show its text
(`Template.Shows`).
-/
namespace Componentry

namespace Text

/-! ## The first place of a pattern -/

variable {α : Type} {pattern : Text → Option (α × Text)}

/-- A pattern is found behind a text in which it does not start. -/
theorem find?_append {g t rest : Text} {a : α}
    (hg : ∀ u v, g = u ++ v → v ≠ [] → pattern (v ++ t) = none)
    (ht : pattern t = some (a, rest)) : find? pattern (g ++ t) = some (g, a, rest) := by
  induction g with
  | nil => rw [List.nil_append, find?.eq_def, ht]
  | cons c g ih =>
    have hfirst := hg [] (c :: g) rfl (by simp)
    rw [List.cons_append] at hfirst ⊢
    rw [find?, hfirst]
    have hrest := ih fun u v huv hv => hg (c :: u) v (by rw [huv]; rfl) hv
    simp [hrest]

/-- Before the first place of a pattern it does not start. -/
theorem find?_eq_some {s before rest : Text} {a : α}
    (h : find? pattern s = some (before, a, rest)) :
    ∃ t, s = before ++ t ∧ pattern t = some (a, rest) ∧
      ∀ u v, before = u ++ v → v ≠ [] → pattern (v ++ t) = none := by
  fun_induction find? pattern s generalizing before with
  | case1 s b r hb =>
    cases h
    refine ⟨s, rfl, hb, ?_⟩
    intro u v huv hv
    exact absurd (List.append_eq_nil_iff.1 huv.symm).2 hv
  | case2 => cases h
  | case3 c t hnone ih =>
    simp only [Option.map_eq_some_iff, Prod.exists, Prod.mk.injEq] at h
    obtain ⟨before', a', rest', hf, rfl, rfl, rfl⟩ := h
    obtain ⟨t', rfl, ht', hbefore⟩ := ih hf
    refine ⟨t', rfl, ht', ?_⟩
    intro u v huv hv
    cases u with
    | nil =>
      rw [List.nil_append] at huv
      subst huv
      exact hnone
    | cons d u =>
      rw [List.cons_append] at huv
      cases huv
      exact hbefore u v rfl hv

/-- A pattern that is not found starts nowhere. -/
theorem find?_eq_none {s : Text} (h : find? pattern s = none) :
    ∀ u v, s = u ++ v → pattern v = none := by
  fun_induction find? pattern s with
  | case1 => cases h
  | case2 hnone =>
    intro u v huv
    obtain ⟨rfl, rfl⟩ := List.append_eq_nil_iff.1 huv.symm
    exact hnone
  | case3 c t hnone ih =>
    have hrest := ih (by simpa using h)
    intro u v huv
    cases u with
    | nil =>
      rw [List.nil_append] at huv
      subst huv
      exact hnone
    | cons d u =>
      rw [List.cons_append] at huv
      cases huv
      exact hrest u v rfl

theorem pieces_of_none (hp : Consumes pattern) {s : Text} (h : find? pattern s = none) :
    pieces pattern hp s = [.gap s] := by
  rw [pieces]
  split <;> simp_all

theorem pieces_of_some (hp : Consumes pattern) {s before rest : Text} {a : α}
    (h : find? pattern s = some (before, a, rest)) :
    pieces pattern hp s = .gap before :: .hit a :: pieces pattern hp rest := by
  rw [pieces]
  split <;> simp_all

end Text

/-! ## Tags that end raw blocks -/

/-- The word in a tag that ends a raw block. -/
def endRawWord : Text := ['e', 'n', 'd', 'r', 'a', 'w']

/-- A tag that ends a raw block, with marks of white-space control and blanks. -/
def rawEnd (mark₁ blanks₁ blanks₂ mark₂ : Text) : Text :=
  '{' :: '%' :: (mark₁ ++ blanks₁ ++ endRawWord ++ blanks₂ ++ mark₂ ++ ['%', '}'])

/-- What may stand next to a delimiter to control white space. -/
def IsMark (mark : Text) : Prop := mark = [] ∨ mark = ['-'] ∨ mark = ['+']

/-- A text of blanks. -/
def IsBlanks (s : Text) : Prop := ∀ c ∈ s, Text.isBlank c = true

/-- A text of spaces. -/
def IsSpaces (s : Text) : Prop := ∀ c ∈ s, Text.isSpace c = true

namespace Template

/-- What may stand next to a delimiter is dropped if it is there. -/
theorem dropMark_mark (s : Text) :
    ∃ mark, IsMark mark ∧ s = mark ++ Marker.dropMark Marker.dashOrPlus s := by
  unfold Marker.dropMark
  split
  · exact ⟨[], Or.inl rfl, rfl⟩
  · rename_i c s
    split
    · rename_i h
      simp only [Marker.dashOrPlus, List.contains_cons, List.contains_nil, Bool.or_false,
        Bool.or_eq_true, beq_iff_eq] at h
      rcases h with rfl | rfl
      · exact ⟨['-'], Or.inr (Or.inl rfl), rfl⟩
      · exact ⟨['+'], Or.inr (Or.inr rfl), rfl⟩
    · exact ⟨[], Or.inl rfl, rfl⟩

/-- The lexer drops the same marks. -/
theorem dropControl_eq_dropMark (s : Text) :
    dropControl s = Marker.dropMark Marker.dashOrPlus s := by
  cases s <;> simp [dropControl, Marker.dropMark, Marker.dashOrPlus]

theorem dropControl_mark (s : Text) : ∃ mark, IsMark mark ∧ s = mark ++ dropControl s := by
  rw [dropControl_eq_dropMark]
  exact dropMark_mark s

theorem dropWhile_blanks (s : Text) :
    ∃ blanks, IsBlanks blanks ∧ s = blanks ++ s.dropWhile Text.isBlank :=
  ⟨s.takeWhile Text.isBlank, fun c hc => List.all_eq_true.1 List.all_takeWhile c hc,
    (List.takeWhile_append_dropWhile).symm⟩

/-- What the lexer takes for the end of a raw block is written as one. -/
theorem rawClosing?_eq_some {s rest : Text} {trims : Bool × Bool}
    (h : rawClosing? s = some (trims, rest)) :
    ∃ mark₁ blanks₁ blanks₂ mark₂, IsMark mark₁ ∧ IsBlanks blanks₁ ∧ IsBlanks blanks₂ ∧
      IsMark mark₂ ∧ s = rawEnd mark₁ blanks₁ blanks₂ mark₂ ++ rest := by
  unfold rawClosing? at h
  split at h
  · rename_i t
    simp only [Option.map_eq_some_iff, Prod.exists, Prod.mk.injEq, plainTag?,
      Option.bind_eq_bind, Option.bind_eq_some_iff, Option.pure_def, Option.some.injEq] at h
    obtain ⟨_, _, ⟨u, hu, v, hv, -, rfl⟩, -, rfl⟩ := h
    obtain ⟨mark₁, hmark₁, ht⟩ := dropControl_mark t
    obtain ⟨blanks₁, hblanks₁, ht'⟩ := dropWhile_blanks (dropControl t)
    obtain ⟨blanks₂, hblanks₂, hu'⟩ := dropWhile_blanks u
    obtain ⟨mark₂, hmark₂, hu''⟩ := dropControl_mark (u.dropWhile Text.isBlank)
    refine ⟨mark₁, blanks₁, blanks₂, mark₂, hmark₁, hblanks₁, hblanks₂, hmark₂, ?_⟩
    rw [Text.dropPrefix?_eq_some.1 hu] at ht'
    rw [Text.dropPrefix?_eq_some.1 hv] at hu''
    rw [ht, ht', hu', hu'']
    simp [rawEnd, endRawWord]
  · cases h

end Template

theorem notMem_of_isMark {mark : Text} (h : IsMark mark) : '{' ∉ mark := by
  rcases h with rfl | rfl | rfl <;> decide

theorem notMem_of_isBlanks {s : Text} (h : IsBlanks s) : '{' ∉ s := fun hmem =>
  absurd (h '{' hmem) (by decide)

namespace Marker

theorem trimStart_blanks {blanks : Text} (h : IsBlanks blanks) {c : Char} {s : Text}
    (hc : Text.isSpace c = false) : Text.trimStart (blanks ++ c :: s) = c :: s := by
  have hspace : ∀ d ∈ blanks, Text.isSpace d = true := fun d hd => Text.isSpace_of_isBlank (h d hd)
  rw [Text.trimStart, List.dropWhile_append_of_pos hspace,
    List.dropWhile_cons_of_neg (by simp [hc])]

/-- A mark is dropped, and nothing else is. -/
theorem dropMark_isMark {mark s : Text} (h : IsMark mark)
    (hs : ∀ c ∈ s.head?, c ≠ '-' ∧ c ≠ '+') : dropMark dashOrPlus (mark ++ s) = s := by
  rcases h with rfl | rfl | rfl
  · cases s with
    | nil => rfl
    | cons c s =>
      obtain ⟨h₁, h₂⟩ := hs c rfl
      simp [dropMark, dashOrPlus, h₁, h₂]
  · rfl
  · rfl

/-- **What is written as the end of a raw block is read as one**, whatever follows. -/
theorem endRaw?_rawEnd {mark₁ blanks₁ blanks₂ mark₂ : Text} (h₁ : IsMark mark₁)
    (h₂ : IsBlanks blanks₁) (h₃ : IsBlanks blanks₂) (h₄ : IsMark mark₂) (rest : Text) :
    (endRaw? (rawEnd mark₁ blanks₁ blanks₂ mark₂ ++ rest)).isSome = true := by
  have hhead : ∀ c ∈ (blanks₁ ++ (endRawWord ++ (blanks₂ ++ (mark₂ ++ ('%' :: '}' :: rest))))).head?,
      c ≠ '-' ∧ c ≠ '+' := by
    cases blanks₁ with
    | nil =>
      intro c hc
      cases hc
      decide
    | cons b blanks₁ =>
      intro c hc
      cases hc
      have hb := h₂ b (by simp)
      refine ⟨?_, ?_⟩
      all_goals
        rintro rfl
        exact absurd hb (by decide)
  have hkeyword : keyword? dashOrPlus endRawWord (rawEnd mark₁ blanks₁ blanks₂ mark₂ ++ rest) =
      some (blanks₂ ++ (mark₂ ++ ('%' :: '}' :: rest))) := by
    have hsource : rawEnd mark₁ blanks₁ blanks₂ mark₂ ++ rest = '{' :: '%' ::
        (mark₁ ++ (blanks₁ ++ (endRawWord ++ (blanks₂ ++ (mark₂ ++ ('%' :: '}' :: rest)))))) := by
      simp [rawEnd]
    rw [hsource, keyword?, dropMark_isMark h₁ hhead]
    have htrim : Text.trimStart (blanks₁ ++ (endRawWord ++ (blanks₂ ++ (mark₂ ++
        ('%' :: '}' :: rest))))) = endRawWord ++ (blanks₂ ++ (mark₂ ++ ('%' :: '}' :: rest))) :=
      trimStart_blanks h₂ (by decide)
    rw [htrim]
    exact Text.dropPrefix?_eq_some.2 rfl
  have hend : tagEnd? dashOrPlus (blanks₂ ++ (mark₂ ++ ('%' :: '}' :: rest))) = some rest := by
    have htrim : Text.trimStart (blanks₂ ++ (mark₂ ++ ('%' :: '}' :: rest))) =
        mark₂ ++ ('%' :: '}' :: rest) := by
      rcases h₄ with rfl | rfl | rfl
      · exact trimStart_blanks h₃ (by decide)
      · exact trimStart_blanks h₃ (by decide)
      · exact trimStart_blanks h₃ (by decide)
    rw [tagEnd?, htrim, dropMark_isMark h₄ (by simp)]
    exact Text.dropPrefix?_eq_some.2 rfl
  have hbare : bare? dashOrPlus endRawWord (rawEnd mark₁ blanks₁ blanks₂ mark₂ ++ rest) =
      some ((), rest) := by
    simp only [bare?, hkeyword, Option.bind_eq_bind, Option.bind_some, hend, Option.pure_def]
  have hword : endRawWord = ['e', 'n', 'd', 'r', 'a', 'w'] := rfl
  rw [hword] at hbare
  simp only [endRaw?, hbare, Option.bind_eq_bind, Option.bind_some, Option.pure_def,
    Option.isSome_some]

end Marker

namespace Template

/-- **No tag runs over the border**: a tag that starts in a text with a brace behind
it is part of the text. -/
theorem rawClosing?_border {v t rest : Text} {trims : Bool × Bool} (hv : v ≠ [])
    (h : rawClosing? (v ++ '{' :: t) = some (trims, rest)) :
    ∀ s, (Marker.endRaw? (v ++ s)).isSome = true := by
  obtain ⟨mark₁, blanks₁, blanks₂, mark₂, h₁, h₂, h₃, h₄, heq⟩ := rawClosing?_eq_some h
  -- The tag has no second brace, so the brace behind the text does not belong to it.
  have hbrace : ∀ w, rawEnd mark₁ blanks₁ blanks₂ mark₂ = v ++ '{' :: w → False := by
    intro w hw
    cases v with
    | nil => exact hv rfl
    | cons c v =>
      rw [rawEnd, List.cons_append] at hw
      have hmem : '{' ∈ '%' :: (mark₁ ++ blanks₁ ++ endRawWord ++ blanks₂ ++ mark₂ ++ ['%', '}']) := by
        rw [(List.cons.inj hw).2]
        simp
      simp only [List.mem_cons, List.mem_append, notMem_of_isMark h₁, notMem_of_isMark h₄,
        notMem_of_isBlanks h₂, notMem_of_isBlanks h₃] at hmem
      revert hmem
      decide
  obtain ⟨w, rfl⟩ : ∃ w, v = rawEnd mark₁ blanks₁ blanks₂ mark₂ ++ w := by
    rcases List.append_eq_append_iff.1 heq with ⟨w, hw, hrest⟩ | ⟨w, hw, -⟩
    · cases w with
      | nil => exact ⟨[], by rw [hw]; simp⟩
      | cons c w =>
        cases hrest
        exact absurd hw (hbrace w)
    · exact ⟨w, hw⟩
  intro s
  rw [List.append_assoc]
  exact Marker.endRaw?_rawEnd h₁ h₂ h₃ h₄ (w ++ s)

/-- The end of a raw block is found behind a text in which no tag ends one. -/
theorem find?_rawClosing (follow rest : Text) {g : Text}
    (hg : ∀ u v, g = u ++ v → v ≠ [] → Marker.endRaw? (v ++ follow) = none) :
    Text.find? rawClosing? (g ++ endRawTag ++ rest) = some (g, (false, false), rest) := by
  rw [List.append_assoc]
  refine Text.find?_append ?_ rfl
  intro u v huv hv
  cases h : rawClosing? (v ++ (endRawTag ++ rest)) with
  | none => rfl
  | some found =>
    have hsome := rawClosing?_border hv h follow
    rw [hg u v huv hv] at hsome
    cases hsome

/-! ## The statements of a verbatim body -/

/-- Statements that write out a text: as it is, or as a string that needs no
escaping. -/
inductive Shows : List Stmt → Text → Prop where
  | nil : Shows [] []
  | data {body : List Stmt} {text : Text} (s : Text) :
    Shows body text → Shows (.data s :: body) (s ++ text)
  | string {body : List Stmt} {text : Text} {s : Text} (line : Nat) :
    escapeText s = s → Shows body text →
      Shows (.emit (.const (.string s) line) :: body) (s ++ text)

theorem verbatim_of_none {raw : Text} (h : Text.find? Marker.endRaw? raw = none) :
    verbatim raw = rawTag ++ raw ++ endRawTag := by
  simp [verbatim, Text.pieces_of_none Marker.endRaw?_consumes h]

theorem verbatim_of_some {raw before tag rest : Text}
    (h : Text.find? Marker.endRaw? raw = some (before, tag, rest)) :
    verbatim raw =
      rawTag ++ before ++ endRawTag ++ (expressionBlock (Text.quote tag) ++ verbatim rest) := by
  simp [verbatim, Text.pieces_of_some Marker.endRaw?_consumes h, shownEndRaw]

theorem trimStart_spaces (s : Text) :
    ∃ spaces, IsSpaces spaces ∧ s = spaces ++ Text.trimStart s :=
  ⟨s.takeWhile Text.isSpace, fun c hc => List.all_eq_true.1 List.all_takeWhile c hc,
    (List.takeWhile_append_dropWhile).symm⟩

/-- The tag that is read is a part of the text, and written as the end of a raw
block. -/
theorem endRaw?_eq_some {s tag rest : Text} (h : Marker.endRaw? s = some (tag, rest)) :
    s = tag ++ rest ∧ ∃ mark₁ spaces₁ spaces₂ mark₂, IsMark mark₁ ∧ IsSpaces spaces₁ ∧
      IsSpaces spaces₂ ∧ IsMark mark₂ ∧ tag = rawEnd mark₁ spaces₁ spaces₂ mark₂ := by
  simp only [Marker.endRaw?, Option.bind_eq_bind, Option.bind_eq_some_iff, Option.pure_def,
    Option.some.injEq, Prod.exists, Prod.mk.injEq, Marker.bare?] at h
  obtain ⟨-, r, ⟨t, ht, r', hr, -, rfl⟩, rfl, rfl⟩ := h
  unfold Marker.keyword? at ht
  split at ht
  · rename_i u
    obtain ⟨mark₁, hmark₁, hu⟩ := dropMark_mark u
    obtain ⟨spaces₁, hspaces₁, hu'⟩ := trimStart_spaces (Marker.dropMark Marker.dashOrPlus u)
    obtain ⟨spaces₂, hspaces₂, ht'⟩ := trimStart_spaces t
    obtain ⟨mark₂, hmark₂, ht''⟩ := dropMark_mark (Text.trimStart t)
    rw [Text.dropPrefix?_eq_some.1 ht] at hu'
    rw [Text.dropPrefix?_eq_some.1 hr] at ht''
    have hsource : '{' :: '%' :: u = rawEnd mark₁ spaces₁ spaces₂ mark₂ ++ r' := by
      rw [hu, hu', ht', ht'']
      simp [rawEnd, endRawWord]
    have htag : ('{' :: '%' :: u).take (('{' :: '%' :: u).length - r'.length) =
        rawEnd mark₁ spaces₁ spaces₂ mark₂ := by
      rw [hsource]
      simp
    rw [htag]
    exact ⟨hsource, mark₁, spaces₁, spaces₂, mark₂, hmark₁, hspaces₁, hspaces₂, hmark₂, rfl⟩
  · cases ht

/-! ## Tags need no escaping -/

theorem escapeText_eq_self {s : Text} (h : ∀ c ∈ s, escapeChar c = [c]) : escapeText s = s := by
  induction s with
  | nil => rfl
  | cons c s ih =>
    rw [List.forall_mem_cons] at h
    rw [escapeText, List.flatMap_cons, h.1, ← escapeText, ih h.2]
    rfl

theorem escapeChar_of_isSpace {c : Char} (h : Text.isSpace c = true) : escapeChar c = [c] := by
  unfold escapeChar
  split
  all_goals first
    | rfl
    | exact absurd h (by decide)

theorem escapeChar_of_isMark {mark : Text} (h : IsMark mark) : ∀ c ∈ mark, escapeChar c = [c] := by
  rcases h with rfl | rfl | rfl <;> simp [escapeChar]

/-- **Escaping does not change a tag that ends a raw block.** -/
theorem escapeText_rawEnd {mark₁ spaces₁ spaces₂ mark₂ : Text} (h₁ : IsMark mark₁)
    (h₂ : IsSpaces spaces₁) (h₃ : IsSpaces spaces₂) (h₄ : IsMark mark₂) :
    escapeText (rawEnd mark₁ spaces₁ spaces₂ mark₂) = rawEnd mark₁ spaces₁ spaces₂ mark₂ := by
  have hword : ∀ c ∈ endRawWord, escapeChar c = [c] := by simp [endRawWord, escapeChar]
  refine escapeText_eq_self ?_
  intro c hc
  simp only [rawEnd, List.mem_cons, List.mem_append, List.not_mem_nil, or_false] at hc
  rcases hc with rfl | rfl | ((((hc | hc) | hc) | hc) | hc) | rfl | rfl
  · rfl
  · rfl
  · exact escapeChar_of_isMark h₁ c hc
  · exact escapeChar_of_isSpace (h₂ c hc)
  · exact hword c hc
  · exact escapeChar_of_isSpace (h₃ c hc)
  · exact escapeChar_of_isMark h₄ c hc
  · rfl
  · rfl

/-! ## Reading a verbatim body -/

/-- The token of a verbatim body in which no tag ends a raw block. -/
theorem items_verbatim_of_none {raw : Text} (h : Text.find? Marker.endRaw? raw = none) (line : Nat) :
    Parser.Items nestingLimit (lexFrom false line (verbatim raw)).lexemes [.data raw] ∧
      (lexFrom false line (verbatim raw)).fault = none := by
  have hnone := Text.find?_eq_none h
  have hfind := find?_rawClosing [] [] (g := raw) fun u v huv _ => by
    rw [List.append_nil]
    exact hnone u v huv
  obtain ⟨line₁, line₂, hlex, hfault⟩ := lexFrom_raw line hfind
  rw [List.append_nil, ← verbatim_of_none h] at hlex hfault
  obtain ⟨hnil, hnofault⟩ := lexFrom_data line₂ (d := []) (by simp)
  refine ⟨?_, hfault.trans hnofault⟩
  rw [hlex, hnil]
  exact .data .nil

/-- The tokens of a verbatim body are those of statements that show its text. -/
theorem items_verbatim (raw : Text) (line : Nat) :
    ∃ body, Parser.Items nestingLimit (lexFrom false line (verbatim raw)).lexemes body ∧
      (lexFrom false line (verbatim raw)).fault = none ∧ Shows body raw := by
  cases h : Text.find? Marker.endRaw? raw with
  | none =>
    obtain ⟨hitems, hfault⟩ := items_verbatim_of_none h line
    exact ⟨[.data raw], hitems, hfault, by simpa using Shows.data raw .nil⟩
  | some found =>
    obtain ⟨before, tag, rest⟩ := found
    have hlen := Text.find?_length Marker.endRaw?_consumes h
    obtain ⟨t, hraw, htag, hbefore⟩ := Text.find?_eq_some h
    have hfind := find?_rawClosing _ (expressionBlock (Text.quote tag) ++ verbatim rest) hbefore
    obtain ⟨line₁, line₂, hlex, hfault⟩ := lexFrom_raw line hfind
    rw [← verbatim_of_some h] at hlex hfault
    obtain ⟨hlex', hfault'⟩ := lexFrom_expression line₂ (d := []) (by simp)
      (Lexes.string tag) rfl (verbatim rest)
    rw [List.nil_append] at hlex' hfault'
    obtain ⟨body, hbody, hbodyfault, hshows⟩ := items_verbatim rest (line₂ + lineBreaks [])
    refine ⟨.data before :: .emit (.const (.string tag) (line₂ + lineBreaks [])) :: body, ?_,
      hfault.trans (hfault'.trans hbodyfault), ?_⟩
    · rw [hlex, hlex']
      refine .data (.emit (fun more => ?_) hbody)
      exact ((Parser.readsOperand_string 148 tag _).reads).2 _ more rfl
    · obtain ⟨ht, mark₁, spaces₁, spaces₂, mark₂, h₁, h₂, h₃, h₄, rfl⟩ := endRaw?_eq_some htag
      rw [hraw, ht]
      exact .data before (.string _ (escapeText_rawEnd h₁ h₂ h₃ h₄) hshows)
termination_by raw.length

theorem getLast?_verbatim (raw : Text) : (verbatim raw).getLast? = some '}' := by
  simp [verbatim, endRawTag, statementBlock, List.getLast?_append]

/-- **A verbatim body parses, to statements that show its text.** -/
theorem parse_verbatim (raw : Text) :
    ∃ body, parse (verbatim raw) = .ok body ∧ Shows body raw := by
  obtain ⟨body, hitems, hfault, hshows⟩ := items_verbatim raw 1
  refine ⟨body, ?_, hshows⟩
  rw [parse, lex, dropFinalBreak_of_getLast (by simp [getLast?_verbatim]), hfault]
  exact Parser.parseLexemes_items hitems

/-- A verbatim body without braces is one text. -/
theorem parse_verbatim_of_notMem {raw : Text} (h : '{' ∉ raw) :
    parse (verbatim raw) = .ok [.data raw] := by
  have hnone : Text.find? Marker.endRaw? raw = none := by
    cases hfind : Text.find? Marker.endRaw? raw with
    | none => rfl
    | some found =>
      obtain ⟨before, tag, rest⟩ := found
      obtain ⟨t, rfl, htag, -⟩ := Text.find?_eq_some hfind
      -- A tag starts with a brace.
      simp only [Marker.endRaw?, Marker.bare?, Marker.keyword?, Option.bind_eq_bind,
        Option.bind_eq_some_iff] at htag
      obtain ⟨_, ⟨_, hkeyword, -⟩, -⟩ := htag
      split at hkeyword
      · simp at h
      · cases hkeyword
  obtain ⟨hitems, hfault⟩ := items_verbatim_of_none hnone 1
  rw [parse, lex, dropFinalBreak_of_getLast (by simp [getLast?_verbatim]), hfault]
  exact Parser.parseLexemes_items hitems

theorem check_verbatim (raw : Text) : check (verbatim raw) = none := by
  obtain ⟨body, hparse, -⟩ := parse_verbatim raw
  rw [check, hparse]

end Template

end Componentry
