import Componentry.Glob
import Mathlib.Data.List.Forall2

/-! # Patterns mean what they say

A pattern accepts a name if the name can be cut into pieces, one for each character of the
pattern, and each character takes its piece (`Glob.accepts_iff_takes`).

A pattern is written as a regular expression, read back as one, and run.  The three steps are
dealt with one after the other.

* What is written for a pattern is read as one part for each of its characters, punctuation
  included (`Glob.compile?_eq`), so every pattern compiles.
* What an expression takes behind a character is what one of the rests takes that may be left
  after it (`Regex.cut_cons_iff`); over a whole text, an expression accepts what can be cut
  into pieces that its parts take (`Regex.accepts_iff_pieces`).
* In a name without line feeds a dot takes any character, and the parts of a pattern take what
  its characters take.
-/
namespace Componentry

/-- A text can be cut into consecutive pieces, one for each of the given items, that the items
take. -/
def Text.Cut {α : Type} (takes : α → Text → Prop) (items : List α) (s : Text) : Prop :=
  ∃ pieces : List Text, List.Forall₂ takes items pieces ∧ pieces.flatten = s

namespace Text.Cut

variable {α : Type} {takes : α → Text → Prop} {item : α} {items : List α} {s : Text}

theorem nil_iff : Cut takes [] s ↔ s = [] := by
  constructor
  · rintro ⟨pieces, hpieces, rfl⟩
    cases hpieces
    rfl
  · rintro rfl
    exact ⟨[], .nil, rfl⟩

theorem cons_iff : Cut takes (item :: items) s ↔
    ∃ piece rest, s = piece ++ rest ∧ takes item piece ∧ Cut takes items rest := by
  constructor
  · rintro ⟨pieces, hpieces, rfl⟩
    cases hpieces with
    | cons hpiece hmore => exact ⟨_, _, rfl, hpiece, _, hmore, rfl⟩
  · rintro ⟨piece, rest, rfl, hpiece, pieces, hpieces, rfl⟩
    exact ⟨piece :: pieces, .cons hpiece hpieces, rfl⟩

/-- Items may be replaced by others that take the same pieces of the text. -/
theorem map_iff {β : Type} {takes' : β → Text → Prop} (f : α → β)
    (h : ∀ item ∈ items, ∀ piece, piece ⊆ s → (takes' (f item) piece ↔ takes item piece)) :
    Cut takes' (items.map f) s ↔ Cut takes items s := by
  induction items generalizing s with
  | nil => simp only [List.map_nil, nil_iff]
  | cons item items ih =>
    rw [List.map_cons, cons_iff, cons_iff]
    refine exists_congr fun piece => exists_congr fun rest => and_congr_right ?_
    rintro rfl
    refine and_congr (h item (by simp) piece (by simp)) (ih fun item hitem piece hpiece => ?_)
    exact h item (by simp [hitem]) piece fun c hc => List.mem_append_right _ (hpiece hc)

end Text.Cut

namespace Regex

open Text (Cut)

/-! ## What an expression accepts -/

/-- What a part takes. -/
def Part.Takes (p : Part) (piece : Text) : Prop :=
  if p.starred then ∀ c ∈ piece, p.atom.takes c = true
  else ∃ c, piece = [c] ∧ p.atom.takes c = true

theorem Part.takes_of_starred {p : Part} (h : p.starred = true) {piece : Text} :
    p.Takes piece ↔ ∀ c ∈ piece, p.atom.takes c = true := by
  rw [Takes, if_pos h]

theorem Part.takes_of_not_starred {p : Part} (h : p.starred ≠ true) {piece : Text} :
    p.Takes piece ↔ ∃ c, piece = [c] ∧ p.atom.takes c = true := by
  rw [Takes, if_neg h]

/-- Nothing need be left of an expression if it takes the empty text. -/
theorem nil_mem_openings {parts : List Part} : [] ∈ openings parts ↔ Cut Part.Takes parts [] := by
  induction parts with
  | nil => simp [openings, Cut.nil_iff]
  | cons p parts ih =>
    rw [openings, Cut.cons_iff]
    by_cases hstar : p.starred = true
    · simp [ih, Part.takes_of_starred hstar, hstar]
    · simp [Part.takes_of_not_starred hstar, hstar]

/-- What a starred part takes behind a character, together with what comes next: the part may
have taken the character, or nothing. -/
theorem cut_starred_iff {p : Part} (hstar : p.starred = true) {parts : List Part} {c : Char}
    {s : Text} : Cut Part.Takes (p :: parts) (c :: s) ↔
      (p.atom.takes c = true ∧ Cut Part.Takes (p :: parts) s) ∨ Cut Part.Takes parts (c :: s) := by
  rw [Cut.cons_iff, Cut.cons_iff]
  simp only [Part.takes_of_starred hstar]
  constructor
  · rintro ⟨piece, rest, heq, hpiece, hrest⟩
    cases piece with
    | nil => exact Or.inr (by rwa [heq])
    | cons d piece =>
      obtain ⟨rfl, rfl⟩ := List.cons.inj heq
      rw [List.forall_mem_cons] at hpiece
      exact Or.inl ⟨hpiece.1, piece, rest, rfl, hpiece.2, hrest⟩
  · rintro (⟨hc, piece, rest, rfl, hpiece, hrest⟩ | hcut)
    · exact ⟨c :: piece, rest, rfl, List.forall_mem_cons.2 ⟨hc, hpiece⟩, hrest⟩
    · exact ⟨[], c :: s, rfl, by simp, hcut⟩

theorem cut_single_iff {p : Part} (hstar : p.starred ≠ true) {parts : List Part} {c : Char}
    {s : Text} : Cut Part.Takes (p :: parts) (c :: s) ↔
      p.atom.takes c = true ∧ Cut Part.Takes parts s := by
  rw [Cut.cons_iff]
  simp only [Part.takes_of_not_starred hstar]
  constructor
  · rintro ⟨piece, rest, heq, ⟨d, rfl, hd⟩, hrest⟩
    obtain ⟨rfl, rfl⟩ := List.cons.inj heq
    exact ⟨hd, hrest⟩
  · rintro ⟨hc, hcut⟩
    exact ⟨[c], s, rfl, ⟨c, rfl, hc⟩, hcut⟩

/-- **What is accepted behind a character** is what one of the rests accepts that the character
leaves. -/
theorem cut_cons_iff {parts : List Part} {c : Char} {s : Text} :
    Cut Part.Takes parts (c :: s) ↔
      ∃ q ∈ openings parts, ∃ r, take? c q = some r ∧ Cut Part.Takes r s := by
  induction parts with
  | nil => simp [openings, Cut.nil_iff, take?]
  | cons p parts ih =>
    rw [openings]
    by_cases hstar : p.starred = true
    · rw [cut_starred_iff hstar, ih, if_pos hstar]
      simp [take?, hstar]
    · rw [cut_single_iff hstar, if_neg hstar]
      simp [take?, hstar]

/-- The run of an expression: after a text nothing need be left if one of the rests that the
run started with takes the text. -/
theorem nil_mem_foldl_step {text : Text} {states : List (List Part)} (rests : List (List Part))
    (h : ∀ p, p ∈ states ↔ ∃ r ∈ rests, p ∈ openings r) :
    [] ∈ text.foldl step states ↔ ∃ r ∈ rests, Cut Part.Takes r text := by
  induction text generalizing states rests with
  | nil =>
    rw [List.foldl_nil, h]
    simp only [nil_mem_openings]
  | cons c text ih =>
    rw [List.foldl_cons, ih (states.filterMap (take? c))]
    · simp only [List.mem_filterMap, cut_cons_iff, h]
      grind
    · intro p
      simp only [mem_step, List.mem_filterMap]
      grind

/-- **An expression accepts the texts that can be cut into pieces which its parts take.** -/
theorem accepts_iff_pieces {r : Regex} {text : Text} :
    r.accepts text = true ↔ Cut Part.Takes r.parts text := by
  rw [accepts_iff, Regex.rests, nil_mem_foldl_step [r.parts] (by simp)]
  simp

end Regex

namespace Glob

open Text (Cut)

/-! ## What is written for a pattern -/

/-- The part of an expression that a character of a pattern stands for. -/
def part (c : Char) : Regex.Part :=
  if c = '*' then ⟨.dot, true⟩ else if c = '?' then ⟨.dot, false⟩ else ⟨.char c, false⟩

/-- The symbols that are written for a character. -/
def symbols (c : Char) : List Regex.Symbol :=
  if c = '*' then [.dot, .star] else if c = '?' then [.dot] else [.char c]

theorem symbols?_escape (c : Char) (s : Text) :
    Regex.symbols? (Regex.escape [c] ++ s) = (Regex.symbols? s).map (.char c :: ·) := by
  by_cases hc : c ∈ Regex.punctuation
  · simp [Regex.escape, hc, Regex.symbols?]
  · have hother : c ≠ '\\' ∧ c ≠ '^' ∧ c ≠ '$' ∧ c ≠ '.' ∧ c ≠ '*' := by
      refine ⟨?_, ?_, ?_, ?_, ?_⟩ <;> rintro rfl <;> exact hc (by decide)
    have hoperator : c ∉ Regex.operators := fun hmem => hc (by
      revert hmem
      simp only [Regex.operators, Regex.punctuation, List.mem_cons, List.not_mem_nil]
      tauto)
    simp only [Regex.escape, List.flatMap_cons, List.flatMap_nil, if_neg hc]
    rw [List.append_nil, List.singleton_append]
    rw [Regex.symbols?] <;> simp_all

theorem symbols?_charExpression (c : Char) (s : Text) :
    Regex.symbols? (charExpression c ++ s) = (Regex.symbols? s).map (symbols c ++ ·) := by
  unfold charExpression symbols
  split
  · simp [Regex.symbols?, Option.map_map, Function.comp_def]
  · split
    · simp [Regex.symbols?]
    · simpa using symbols?_escape c s

theorem symbols?_pattern (pattern s : Text) :
    Regex.symbols? (pattern.flatMap charExpression ++ s) =
      (Regex.symbols? s).map (pattern.flatMap symbols ++ ·) := by
  induction pattern with
  | nil => simp
  | cons c pattern ih =>
    rw [List.flatMap_cons, List.append_assoc, symbols?_charExpression, ih, Option.map_map]
    simp [Function.comp_def]

theorem parts?_pattern (pattern : Text) :
    Regex.parts? (pattern.flatMap symbols ++ [Regex.Symbol.finish]) = some (pattern.map part) := by
  induction pattern with
  | nil => rfl
  | cons c pattern ih =>
    -- No star is written but the one behind a dot.
    have hstar : ∀ more, pattern.flatMap symbols ++ [Regex.Symbol.finish] ≠ .star :: more := by
      cases pattern with
      | nil => simp
      | cons d pattern =>
        intro more
        rw [List.flatMap_cons, symbols]
        split
        · simp
        · split <;> simp
    rw [List.flatMap_cons, List.append_assoc, List.map_cons, symbols, part]
    split
    · rw [List.cons_append, List.cons_append, List.nil_append, Regex.parts?, ih]
      rfl
    · split
      all_goals
        rw [List.singleton_append, Regex.parts?, ih]
        · rfl
        · exact fun more h => hstar more h

/-- **Every pattern compiles**, to one part for each of its characters. -/
theorem compile?_eq (pattern : Text) : compile? pattern = some ⟨pattern.map part⟩ := by
  have hsymbols : Regex.symbols? (expression pattern) =
      some (.start :: (pattern.flatMap symbols ++ [Regex.Symbol.finish])) := by
    rw [expression, List.cons_append, Regex.symbols?, symbols?_pattern]
    simp [Regex.symbols?]
  rw [compile?, Regex.parse?, hsymbols]
  simp only [parts?_pattern, Option.map_some]

/-! ## What a pattern accepts -/

/-- What a character of a pattern takes. -/
def Takes (c : Char) (piece : Text) : Prop :=
  if c = '*' then True else if c = '?' then piece.length = 1 else piece = [c]

theorem takes_part {c : Char} {piece : Text} (h : '\n' ∉ piece) :
    (part c).Takes piece ↔ Takes c piece := by
  have hdot : ∀ c ∈ piece, Regex.Atom.dot.takes c = true := by
    intro c hc
    have hne : c ≠ '\n' := fun heq => h (heq ▸ hc)
    simpa [Regex.Atom.takes] using hne
  unfold part Takes Regex.Part.Takes
  split
  · simpa using hdot
  · split
    · simp only [Bool.false_eq_true, if_false, List.length_eq_one_iff]
      exact exists_congr fun d => and_iff_left_of_imp (by rintro rfl; exact hdot d (by simp))
    · simp [Regex.Atom.takes]

/-- **A pattern accepts the names that can be cut into pieces, one for each of its characters,
such that a star takes any piece, a question mark one of a single character, and any other
character itself.** -/
theorem accepts_iff_takes (pattern name : Text) (h : '\n' ∉ name) :
    accepts pattern name = true ↔
      ∃ pieces : List Text, List.Forall₂ Takes pattern pieces ∧ pieces.flatten = name := by
  rw [accepts, compile?_eq]
  simp only [Regex.accepts_iff_pieces]
  exact Cut.map_iff part fun c _ piece hpiece => takes_part fun hmem => h (hpiece hmem)

/-- Characters that mean something in expressions stand for themselves in patterns. -/
theorem accepts_iff_takes_punctuation :
    '\n' ∉ "a+b.ht[m".toList ∧ accepts "?+*.ht[m".toList "a+b.ht[m".toList = true := by
  have h : '\n' ∉ "a+b.ht[m".toList := by decide
  refine ⟨h, (accepts_iff_takes _ _ h).2
    ⟨[['a'], ['+'], ['b'], ['.'], ['h'], ['t'], ['['], ['m']], ?_, rfl⟩⟩
  simp [Takes]

example : accepts "*.html".toList "Cardxhtml".toList = false := by decide

end Glob

end Componentry
