import Componentry.Diagnostic
import Componentry.Proofs.Compilation
import Componentry.Proofs.Quoting

/-! # What an excerpt shows of a definition that was kept verbatim

A definition that does not parse is reported with the lines around its fault.  They are cut
from what was emitted under its name, which is its verbatim form, without the tag in front.
Two questions are answered here.

* Which lines does the verbatim form change (`changedLines`)?  Those in which a tag is quoted,
  and the last one, where the raw block is ended.  They become longer, and the others stay as
  they are (`lengthened_shownBody`); the proof follows the pieces of the text, and a piece in
  front of two texts moves the numbers of their lines on (`Text.Lengthened.append`).
* When do two excerpts agree?  If and only if the lines do that they show
  (`Diagnostic.excerptAt_eq_iff`), since what is joined by line feeds can be cut again.

So the author's own lines are shown if and only if no changed line is in reach, and the name
stands for the definition (`Diagnostic.excerpt_of_kept`).  Neither is always so
(`Diagnostic.isMisreported_units`).
-/
namespace Componentry

namespace Text

/-! ## Lines by their numbers -/

/-- A line of a text; lines count from one. -/
def line? (s : Text) : (number : Nat) → Option Text
  | 0 => none
  | n + 1 => (lines s)[n]?

theorem line?_isSome {s : Text} {n : Nat} :
    (line? s n).isSome = true ↔ n ≠ 0 ∧ n ≤ (lines s).length := by
  cases n with
  | zero => exact iff_of_false Bool.false_ne_true fun h => h.1 rfl
  | succ n =>
    rw [line?, ← Option.ne_none_iff_isSome, ne_eq, List.getElem?_eq_none_iff]
    omega

theorem lines_lineFeed (s : Text) : lines ('\n' :: s) = [] :: lines s := by rw [lines]

/-- A carriage return before a line feed belongs to the end of the line. -/
theorem lines_return {s : Text} (hs : s.head? = some '\n') : lines ('\r' :: s) = lines s := by
  obtain ⟨t, rfl⟩ := List.head?_eq_some_iff.1 hs
  rw [lines, lines]

/-- Another character is put in front of the first line. -/
theorem lines_cons {c : Char} {s : Text} (hc : c ≠ '\n') (hs : c = '\r' → s.head? ≠ some '\n') :
    lines (c :: s) = (c :: (lines s).head?.getD []) :: (lines s).tail := by
  rw [lines]
  · cases lines s <;> rfl
  · exact hc
  · rintro t hreturn rfl
    exact hs hreturn rfl

/-- A line holds no line feed. -/
theorem notMem_of_mem_lines {s line : Text} (h : line ∈ lines s) : '\n' ∉ line := by
  induction s generalizing line with
  | nil => cases h
  | cons c s ih =>
    by_cases hc : c = '\n'
    · subst hc
      rw [lines_lineFeed] at h
      rcases List.mem_cons.1 h with rfl | h
      · simp
      · exact ih h
    by_cases hs : c = '\r' ∧ s.head? = some '\n'
    · obtain ⟨rfl, hs⟩ := hs
      rw [lines_return hs] at h
      exact ih h
    rw [lines_cons hc (not_and.1 hs)] at h
    rcases List.mem_cons.1 h with rfl | h
    · cases hfirst : (lines s).head? with
      | none => simp [Ne.symm hc]
      | some first => simp [Ne.symm hc, ih (List.mem_of_mem_head? hfirst)]
    · exact ih (List.mem_of_mem_tail h)

@[simp] theorem line?_lineFeed_one (s : Text) : line? ('\n' :: s) 1 = some [] := by
  rw [line?, lines_lineFeed, List.getElem?_cons_zero]

@[simp] theorem line?_lineFeed (s : Text) (n : Nat) :
    line? ('\n' :: s) (n + 2) = line? s (n + 1) := by
  rw [line?, lines_lineFeed, List.getElem?_cons_succ, line?]

/-- A character that is no line feed leaves the lines behind the first one as they are. -/
theorem line?_cons {c : Char} (hc : c ≠ '\n') (s : Text) (n : Nat) :
    line? (c :: s) (n + 2) = line? s (n + 2) := by
  by_cases hs : c = '\r' ∧ s.head? = some '\n'
  · obtain ⟨rfl, hs⟩ := hs
    rw [line?, line?, lines_return hs]
  · rw [line?, line?, lines_cons hc (not_and.1 hs), List.getElem?_cons_succ, List.getElem?_tail]

theorem line?_cons_one {c : Char} {s : Text} (hc : c ≠ '\n')
    (hs : c = '\r' → s.head? ≠ some '\n') :
    line? (c :: s) 1 = some (c :: (line? s 1).getD []) := by
  rw [line?, lines_cons hc hs, List.getElem?_cons_zero, line?, List.head?_eq_getElem?]

theorem line?_return_one {s : Text} (hs : s.head? = some '\n') :
    line? ('\r' :: s) 1 = line? s 1 := by
  rw [line?, line?, lines_return hs]

/-! ## Lines of joined texts -/

variable {s t : Text}

/-- A line that is ended in a text does not depend on what follows. -/
theorem line?_append (p s t : Text) {n : Nat} (hn : n ≤ p.count '\n') :
    line? (p ++ s) n = line? (p ++ t) n := by
  induction p generalizing n with
  | nil =>
    obtain rfl : n = 0 := Nat.le_zero.1 hn
    rfl
  | cons c p ih =>
    match n with
    | 0 => rfl
    | 1 =>
      by_cases hc : c = '\n'
      · subst hc
        simp
      rw [List.count_cons_of_ne hc] at hn
      -- The line is ended behind `c`, so what comes next is the same.
      have hhead : (p ++ s).head? = (p ++ t).head? := by
        cases p with
        | nil => cases hn
        | cons d p => rfl
      by_cases hs : c = '\r' ∧ (p ++ s).head? = some '\n'
      · obtain ⟨rfl, hs⟩ := hs
        rw [List.cons_append, List.cons_append, line?_return_one hs,
          line?_return_one (hhead ▸ hs), ih hn]
      · rw [List.cons_append, List.cons_append, line?_cons_one hc (not_and.1 hs),
          line?_cons_one hc (hhead ▸ not_and.1 hs), ih hn]
    | n + 2 =>
      by_cases hc : c = '\n'
      · subst hc
        rw [List.count_cons_self] at hn
        rw [List.cons_append, List.cons_append, line?_lineFeed, line?_lineFeed,
          ih (Nat.le_of_succ_le_succ hn)]
      · rw [List.count_cons_of_ne hc] at hn
        rw [List.cons_append, List.cons_append, line?_cons hc, line?_cons hc, ih hn]

/-- Behind the line in which a text ends stand the lines of what follows. -/
theorem line?_append_count (p s : Text) (n : Nat) :
    line? (p ++ s) (p.count '\n' + (n + 2)) = line? s (n + 2) := by
  induction p with
  | nil => rw [List.nil_append, List.count_nil, Nat.zero_add]
  | cons c p ih =>
    by_cases hc : c = '\n'
    · subst hc
      have hnumber : p.count '\n' + 1 + (n + 2) = p.count '\n' + (n + 1) + 2 := by omega
      rw [List.count_cons_self, List.cons_append, hnumber, line?_lineFeed]
      exact ih
    · rw [List.count_cons_of_ne hc, List.cons_append, ← ih, ← Nat.add_assoc, line?_cons hc]

/-- The first line starts with a text that ends no line. -/
theorem line?_append_one {p s : Text} (hp : '\n' ∉ p) (hne : p ≠ [])
    (hs : p.getLast? = some '\r' → s.head? ≠ some '\n') :
    line? (p ++ s) 1 = some (p ++ (line? s 1).getD []) := by
  induction p with
  | nil => exact absurd rfl hne
  | cons c p ih =>
    rw [List.mem_cons, not_or] at hp
    rw [List.cons_append]
    cases p with
    | nil =>
      rw [List.nil_append, line?_cons_one (Ne.symm hp.1) (by rintro rfl; exact hs rfl)]
      rfl
    | cons d p =>
      have hd : (d :: p ++ s).head? ≠ some '\n' := by
        rintro heq
        exact hp.2 (by rw [← Option.some.inj heq]; simp)
      rw [line?_cons_one (Ne.symm hp.1) fun _ => hd,
        ih hp.2 (by simp) (by rwa [List.getLast?_cons_cons] at hs)]
      rfl

/-- The first line is not longer than a text and the first line behind it. -/
theorem length_line?_append {p s line : Text} (h : line? (p ++ s) 1 = some line) :
    line.length ≤ p.length + ((line? s 1).getD []).length := by
  induction p generalizing line with
  | nil => 
    rw [List.nil_append] at h
    rw [h]
    simp
  | cons c p ih =>
    rw [List.cons_append] at h
    by_cases hc : c = '\n'
    · subst hc
      rw [line?_lineFeed_one] at h
      cases h
      exact Nat.zero_le _
    by_cases hs : c = '\r' ∧ (p ++ s).head? = some '\n'
    · obtain ⟨rfl, hs⟩ := hs
      rw [line?_return_one hs] at h
      exact Nat.le_trans (ih h) (by simp)
    · rw [line?_cons_one hc (not_and.1 hs)] at h
      cases h
      cases hfirst : line? (p ++ s) 1 with
      | none =>
        simp only [Option.getD_none, List.length_cons, List.length_nil]
        omega
      | some first =>
        have hlen := ih hfirst
        simp only [Option.getD_some, List.length_cons]
        omega

/-! ## Longer lines -/

/-- Whether a line of `t` is longer than the one of `s`, which may be missing. -/
def Longer (s t : Text) (n : Nat) : Prop :=
  ∃ line, line? t n = some line ∧ line ≠ [] ∧
    ∀ old, line? s n = some old → old.length < line.length

theorem Longer.ne {n : Nat} (h : Longer s t n) : line? s n ≠ line? t n := by
  obtain ⟨line, hline, -, hold⟩ := h
  intro heq
  exact Nat.lt_irrefl _ (hold line (heq.trans hline))

/-- The line stays longer if the same text is put in front of both. -/
theorem Longer.append (ht : t.head? ≠ some '\n') (h : Longer s t 1) (p : Text) :
    Longer (p ++ s) (p ++ t) (p.count '\n' + 1) := by
  induction p with
  | nil => simpa using h
  | cons c p ih =>
    by_cases hc : c = '\n'
    · subst hc
      simpa [Longer] using ih
    rw [List.count_cons_of_ne hc]
    obtain ⟨line, hline, hne, hold⟩ := ih
    unfold Longer
    rw [List.cons_append, List.cons_append]
    cases hcount : p.count '\n' with
    | succ n =>
      rw [hcount] at hline hold
      simp only [Nat.add_assoc, line?_cons hc]
      exact ⟨line, hline, hne, hold⟩
    | zero =>
      rw [hcount, Nat.zero_add] at hline hold
      have hhead : (p ++ t).head? ≠ some '\n' := by
        cases p with
        | nil => exact ht
        | cons d p =>
          intro hd
          rw [List.cons_append, List.head?_cons] at hd
          rw [Option.some.inj hd] at hcount
          simp at hcount
      rw [Nat.zero_add, line?_cons_one hc fun _ => hhead, hline, Option.getD_some]
      refine ⟨c :: line, rfl, by simp, fun old h => ?_⟩
      by_cases hs : c = '\r' ∧ (p ++ s).head? = some '\n'
      · obtain ⟨rfl, hs⟩ := hs
        rw [line?_return_one hs] at h
        exact Nat.lt_succ_of_lt (hold old h)
      · rw [line?_cons_one hc (not_and.1 hs)] at h
        cases h
        cases hfirst : line? (p ++ s) 1 with
        | none => simpa using List.length_pos_iff.2 hne
        | some first => simpa using hold first hfirst

/-- Whether `t` comes from `s` by making lines longer.  Up to the last of them, the other lines
are the same. -/
structure Lengthened (s t : Text) (numbers : List Nat) : Prop where
  longer : ∀ n ∈ numbers, Longer s t n
  same : ∀ n, n ∉ numbers → (∃ m ∈ numbers, n < m) → line? s n = line? t n

namespace Lengthened

variable {numbers : List Nat}

/-- No line has the number zero. -/
theorem pos (h : Lengthened s t numbers) : ∀ n ∈ numbers, 0 < n := by
  intro n hn
  obtain ⟨line, hline, -⟩ := h.longer n hn
  cases n with
  | zero => cases hline
  | succ n => exact Nat.succ_pos n

/-- The first line is there, and not shorter than it was. -/
theorem first (h : Lengthened s t numbers) (hne : numbers ≠ []) :
    ∃ line, line? t 1 = some line ∧ ((line? s 1).getD []).length ≤ line.length := by
  obtain ⟨m, hm⟩ := List.exists_mem_of_ne_nil numbers hne
  obtain ⟨last, hlast, -⟩ := h.longer m hm
  have hlines := (line?_isSome.1 (Option.isSome_of_eq_some hlast)).2
  have hpos := h.pos m hm
  obtain ⟨line, hline⟩ := Option.isSome_iff_exists.1
    (line?_isSome.2 ⟨Nat.one_ne_zero, Nat.le_trans hpos hlines⟩)
  refine ⟨line, hline, ?_⟩
  by_cases hfirst : 1 ∈ numbers
  · obtain ⟨line', hline', -, hold⟩ := h.longer 1 hfirst
    obtain rfl : line = line' := Option.some.inj (hline.symm.trans hline')
    cases hs : line? s 1 with
    | none => exact Nat.zero_le _
    | some old => exact Nat.le_of_lt (hold old hs)
  · have hm1 : m ≠ 1 := fun heq => hfirst (heq ▸ hm)
    rw [h.same 1 hfirst ⟨m, hm, by omega⟩, hline]
    exact Nat.le_refl _

/-- Putting the same text in front of both moves the numbers on. -/
theorem append (ht : t.head? ≠ some '\n') (h : Lengthened s t (1 :: numbers)) (p : Text) :
    Lengthened (p ++ s) (p ++ t) ((1 :: numbers).map (p.count '\n' + ·)) where
  longer n hn := by
    obtain ⟨m, hm, rfl⟩ := List.mem_map.1 hn
    match m with
    | 0 => exact absurd (h.pos 0 hm) (Nat.lt_irrefl 0)
    | 1 => exact (h.longer 1 (by simp)).append ht p
    | m + 2 =>
      obtain ⟨line, hline, hne, hold⟩ := h.longer (m + 2) hm
      unfold Longer
      rw [line?_append_count, line?_append_count]
      exact ⟨line, hline, hne, hold⟩
  same n hn hlast := by
    by_cases hle : n ≤ p.count '\n'
    · exact line?_append p s t hle
    obtain ⟨k, rfl⟩ := Nat.exists_eq_add_of_le (Nat.le_of_not_le hle)
    have hk : k ∉ 1 :: numbers := fun hk => hn (List.mem_map_of_mem hk)
    obtain ⟨m, hm, hlt⟩ := hlast
    obtain ⟨m, hm, rfl⟩ := List.mem_map.1 hm
    match k with
    | 0 => omega
    | 1 => exact absurd (by simp) hk
    | k + 2 =>
      rw [line?_append_count, line?_append_count]
      exact h.same _ hk ⟨m, ‹_›, by omega⟩

end Lengthened

end Text

/-! ## What the verbatim form changes -/

open Text

/-- The verbatim form of a text without the tag in front, which is what excerpts are cut
from. -/
def shownBody (raw : Text) : Text := Diagnostic.withoutRawTag (verbatim raw)

theorem shownBody_eq {raw body : Text} (h : verbatim raw = rawTag ++ body) : shownBody raw = body := by
  rw [shownBody, Diagnostic.withoutRawTag, dropPrefix?_eq_some.2 h, Option.getD_some]

theorem shownBody_of_none {raw : Text} (h : find? Marker.endRaw? raw = none) :
    shownBody raw = raw ++ endRawTag :=
  shownBody_eq (by rw [Template.verbatim_of_none h, List.append_assoc])

theorem verbatim_eq (raw : Text) : verbatim raw = rawTag ++ shownBody raw := by
  cases h : find? Marker.endRaw? raw with
  | none => rw [shownBody_of_none h, Template.verbatim_of_none h, List.append_assoc]
  | some found =>
    obtain ⟨before, tag, rest⟩ := found
    have hverbatim := Template.verbatim_of_some h
    rw [List.append_assoc, List.append_assoc] at hverbatim
    rw [shownBody_eq hverbatim, hverbatim]

theorem shownBody_of_some {raw before tag rest : Text}
    (h : find? Marker.endRaw? raw = some (before, tag, rest)) :
    shownBody raw = before ++ (shownEndRaw tag ++ shownBody rest) :=
  shownBody_eq (by rw [Template.verbatim_of_some h, verbatim_eq rest, shownEndRaw]; simp)

/-- The numbers of the lines that the verbatim form changes: those in which a tag that ends raw
blocks starts, and the last one, behind which the raw block is ended.  If a tag goes on in the
next line, only the lines up to there are told. -/
def changedIn : List (Piece Text) → List Nat
  | [] => [1]
  | .gap s :: more => (changedIn more).map (s.count '\n' + ·)
  | .hit tag :: more => 1 :: if '\n' ∈ tag then [] else changedIn more

/-- The numbers of the lines of a text that its verbatim form changes. -/
def changedLines (raw : Text) : List Nat := changedIn (pieces Marker.endRaw? Marker.endRaw?_consumes raw)

theorem changedLines_of_none {raw : Text} (h : find? Marker.endRaw? raw = none) :
    changedLines raw = [raw.count '\n' + 1] := by
  rw [changedLines, pieces_of_none _ h]
  rfl

theorem changedLines_of_some {raw before tag rest : Text}
    (h : find? Marker.endRaw? raw = some (before, tag, rest)) :
    changedLines raw =
      (1 :: if '\n' ∈ tag then [] else changedLines rest).map (before.count '\n' + ·) := by
  rw [changedLines, pieces_of_some _ h]
  rfl

theorem changedLines_ne_nil (raw : Text) : changedLines raw ≠ [] := by
  cases h : find? Marker.endRaw? raw with
  | none => simp [changedLines_of_none h]
  | some found =>
    obtain ⟨before, tag, rest⟩ := found
    simp [changedLines_of_some h]

theorem length_le_quote (s : Text) : s.length ≤ (quote s).length := by
  have hchars : s.length ≤ (s.flatMap quoteChar).length := by
    induction s with
    | nil => exact Nat.le_refl _
    | cons c s ih =>
      have hchar : 0 < (quoteChar c).length := by
        unfold quoteChar
        split_ifs <;> simp
      rw [List.flatMap_cons, List.length_append, List.length_cons]
      omega
  simp only [quote, List.length_cons, List.length_append]
  omega

/-- A tag is written in one line, and longer. -/
theorem shownEndRaw_spec (tag : Text) :
    '\n' ∉ shownEndRaw tag ∧ (shownEndRaw tag).getLast? = some '}' ∧
      tag.length < (shownEndRaw tag).length := by
  refine ⟨?_, ?_, ?_⟩
  · simp [shownEndRaw, endRawTag, rawTag, statementBlock, expressionBlock, lineFeed_notMem_quote]
  · rw [shownEndRaw, List.getLast?_append]
    rfl
  · have hlen := length_le_quote tag
    simp only [shownEndRaw, expressionBlock, List.length_append, List.length_cons]
    omega

/-- A tag that ends raw blocks is replaced by a longer text without line feed. -/
theorem lengthened_tag {rest shown : Text} (tag : Text) {numbers : List Nat}
    (h : Lengthened rest shown numbers) (hne : numbers ≠ []) :
    Lengthened (tag ++ rest) (shownEndRaw tag ++ shown)
      (1 :: if '\n' ∈ tag then [] else numbers) := by
  obtain ⟨hfeed, hlast, hlength⟩ := shownEndRaw_spec tag
  have hfirst : Longer (tag ++ rest) (shownEndRaw tag ++ shown) 1 := by
    obtain ⟨first, hfirst, hle⟩ := h.first hne
    have hne : shownEndRaw tag ≠ [] := List.ne_nil_of_length_pos (Nat.zero_lt_of_lt hlength)
    refine ⟨shownEndRaw tag ++ first, ?_, by simp [hne], fun old hold => ?_⟩
    · rw [line?_append_one hfeed hne (by simp [hlast]), hfirst, Option.getD_some]
    · have hold := length_line?_append hold
      rw [List.length_append]
      omega
  -- Behind the first line nothing changes if the tag ends no line.
  have hlater : ∀ n, '\n' ∉ tag → line? (tag ++ rest) (n + 2) = line? rest (n + 2) ∧
      line? (shownEndRaw tag ++ shown) (n + 2) = line? shown (n + 2) := by
    intro n htag
    rw [← line?_append_count tag rest, ← line?_append_count (shownEndRaw tag) shown,
      List.count_eq_zero_of_not_mem htag, List.count_eq_zero_of_not_mem hfeed, Nat.zero_add]
    exact ⟨rfl, rfl⟩
  constructor
  · intro n hn
    rcases List.mem_cons.1 hn with rfl | hn
    · exact hfirst
    split at hn
    · cases hn
    · rename_i htag
      match n with
      | 0 => exact absurd (h.pos 0 hn) (Nat.lt_irrefl 0)
      | 1 => exact hfirst
      | n + 2 =>
        obtain ⟨line, hline, hne, hold⟩ := h.longer (n + 2) hn
        unfold Longer
        rw [(hlater n htag).1, (hlater n htag).2]
        exact ⟨line, hline, hne, hold⟩
  · rintro n hn ⟨m, hm, hlt⟩
    rw [List.mem_cons, not_or] at hn
    match n with
    | 0 => rfl
    | 1 => exact absurd rfl hn.1
    | n + 2 =>
      rcases List.mem_cons.1 hm with rfl | hm
      · omega
      split at hm
      · cases hm
      · rename_i htag
        rw [if_neg htag] at hn
        rw [(hlater n htag).1, (hlater n htag).2]
        exact h.same _ hn.2 ⟨m, hm, hlt⟩

/-- **The verbatim form lengthens the changed lines, and leaves the others up to the last of
them as they are.** -/
theorem lengthened_shownBody (raw : Text) : Lengthened raw (shownBody raw) (changedLines raw) := by
  match h : find? Marker.endRaw? raw with
  | none =>
    have hend : Lengthened [] endRawTag [1] := by
      constructor
      · intro n hn
        obtain rfl := List.mem_singleton.1 hn
        exact ⟨endRawTag, by decide, by decide, fun old hold => by cases hold⟩
      · rintro n - ⟨m, hm, hlt⟩
        obtain rfl := List.mem_singleton.1 hm
        obtain rfl := Nat.lt_one_iff.1 hlt
        rfl
    rw [shownBody_of_none h, changedLines_of_none h]
    simpa using hend.append (by decide) raw
  | some (before, tag, rest) =>
    have hdecreasing : rest.length < raw.length := find?_length Marker.endRaw?_consumes h
    obtain ⟨tail, hraw, htail, -⟩ := find?_eq_some h
    have hsource : raw = before ++ (tag ++ rest) := by
      rw [hraw, (Template.endRaw?_eq_some htail).1]
    have hrest := lengthened_tag tag (lengthened_shownBody rest) (changedLines_ne_nil rest)
    rw [shownBody_of_some h, changedLines_of_some h]
    have happend := hrest.append (by simp [shownEndRaw, endRawTag, statementBlock]) before
    rwa [← hsource] at happend
termination_by raw.length

/-! ## What an excerpt tells -/

namespace Diagnostic

/-- The number of the first line of an excerpt. -/
def firstShown (line : Nat) : Nat := max (line - contextLines) 1

/-- The lines that an excerpt shows. -/
def shownLines (s : Text) (line : Nat) : List Text :=
  ((lines s).drop (firstShown line - 1)).take (line + contextLines + 1 - firstShown line)

/-- The lines of an excerpt as they are written. -/
def writtenLines (s : Text) (line : Nat) : List Text :=
  ((shownLines s line).zipIdx (firstShown line)).map fun (text, n) => excerptLine line text n

theorem excerptAt_eq_nil {s : Text} {line : Nat} (h : (lines s).length < line) :
    excerptAt s line = [] := by
  simp [excerptAt, h]

theorem excerptAt_eq {s : Text} {line : Nat} (hpos : line ≠ 0) (h : line ≤ (lines s).length) :
    excerptAt s line = join ['\n'] (writtenLines s line) := by
  have hin : (decide (line = 0) || decide ((lines s).length < line)) = false := by
    simp [hpos, Nat.not_lt.2 h]
  simp only [excerptAt, hin, Bool.false_eq_true, if_false]
  rfl

theorem getElem?_shownLines (s : Text) (line i : Nat) :
    (shownLines s line)[i]? =
      if i < line + contextLines + 1 - firstShown line then line? s (firstShown line + i)
      else none := by
  have hnumber : firstShown line + i = firstShown line - 1 + i + 1 := by
    unfold firstShown
    omega
  rw [shownLines, List.getElem?_take, List.getElem?_drop, hnumber]
  rfl

/-- The lines that are shown are those up to two before and two behind. -/
theorem shownLines_eq_iff {s t : Text} {line : Nat} :
    shownLines s line = shownLines t line ↔
      ∀ n, line ≤ n + contextLines → n ≤ line + contextLines → line? s n = line? t n := by
  constructor
  · intro h n hlower hupper
    cases n with
    | zero => rfl
    | succ n =>
      obtain ⟨i, hi⟩ : ∃ i, n + 1 = firstShown line + i :=
        Nat.exists_eq_add_of_le (by unfold firstShown; omega)
      have hget := congrArg (·[i]?) h
      simp only [getElem?_shownLines, ← hi] at hget
      rwa [if_pos (by omega), if_pos (by omega)] at hget
  · intro h
    refine List.ext_getElem? fun i => ?_
    rw [getElem?_shownLines, getElem?_shownLines]
    split
    · exact h _ (by unfold firstShown; omega) (by omega)
    · rfl

theorem excerptLine_injective (line n : Nat) :
    Function.Injective fun text => excerptLine line text n := fun _ _ h =>
  List.append_cancel_left h

theorem getElem?_writtenLines (s : Text) (line i : Nat) :
    (writtenLines s line)[i]? =
      (shownLines s line)[i]?.map fun text => excerptLine line text (firstShown line + i) := by
  rw [writtenLines, List.getElem?_map, List.getElem?_zipIdx, Option.map_map]
  rfl

theorem writtenLines_inj {s t : Text} {line : Nat} (h : writtenLines s line = writtenLines t line) :
    shownLines s line = shownLines t line := by
  refine List.ext_getElem? fun i => ?_
  have hget := congrArg (·[i]?) h
  simp only [getElem?_writtenLines] at hget
  exact Option.map_injective (excerptLine_injective line _) hget

theorem lineFeed_notMem_writtenLines {s : Text} {line : Nat} :
    ∀ text ∈ writtenLines s line, '\n' ∉ text := by
  intro text htext
  obtain ⟨⟨shown, n⟩, hshown, rfl⟩ := List.mem_map.1 htext
  have hline : '\n' ∉ shown := notMem_of_mem_lines
    (List.mem_of_mem_drop (List.mem_of_mem_take (List.fst_mem_of_mem_zipIdx hshown)))
  have hnumber : '\n' ∉ ofNat n := fun hmem =>
    absurd (Nat.isDigit_of_mem_toDigits (by decide) (by decide) hmem) (by decide)
  simp only [excerptLine, padded, List.mem_cons, List.mem_append, List.mem_replicate]
  split <;> simp [hline, hnumber]

theorem writtenLines_ne_nil {s : Text} {line : Nat} (hpos : line ≠ 0)
    (h : line ≤ (lines s).length) : writtenLines s line ≠ [] := by
  simp only [writtenLines, shownLines, firstShown, ne_eq, List.map_eq_nil_iff, List.zipIdx_eq_nil_iff,
    List.take_eq_nil_iff, List.drop_eq_nil_iff]
  omega

theorem splitAt_excerptAt {s : Text} {line : Nat} (hpos : line ≠ 0) (h : line ≤ (lines s).length) :
    splitAt '\n' (excerptAt s line) = writtenLines s line := by
  rw [excerptAt_eq hpos h]
  exact splitAt_join lineFeed_notMem_writtenLines (writtenLines_ne_nil hpos h)

theorem excerptAt_ne_nil {s : Text} {line : Nat} (hpos : line ≠ 0) (h : line ≤ (lines s).length) :
    excerptAt s line ≠ [] := by
  intro hnil
  have hwritten : [] ∈ writtenLines s line := by
    rw [← splitAt_excerptAt hpos h, hnil]
    exact List.mem_singleton_self _
  obtain ⟨_, -, htext⟩ := List.mem_map.1 hwritten
  cases htext

/-- **Two excerpts around a line are the same if and only if the lines that they show are.** -/
theorem excerptAt_eq_iff {s t : Text} {line : Nat} (hpos : line ≠ 0) (h : line ≤ (lines t).length) :
    excerptAt s line = excerptAt t line ↔
      ∀ n, line ≤ n + contextLines → n ≤ line + contextLines → line? s n = line? t n := by
  rw [← shownLines_eq_iff]
  by_cases hs : line ≤ (lines s).length
  · constructor
    · intro heq
      apply writtenLines_inj
      rw [← splitAt_excerptAt hpos hs, ← splitAt_excerptAt hpos h, heq]
    · intro heq
      rw [excerptAt_eq hpos hs, excerptAt_eq hpos h, writtenLines, writtenLines, heq]
  · -- The line itself is in one of the texts only.
    constructor
    · intro heq
      rw [excerptAt_eq_nil (Nat.lt_of_not_le hs)] at heq
      exact absurd heq.symm (excerptAt_ne_nil hpos h)
    · intro heq
      have hline := shownLines_eq_iff.1 heq line (Nat.le_add_right ..) (Nat.le_add_right ..)
      have hsome := line?_isSome.2 ⟨hpos, h⟩
      rw [← hline] at hsome
      exact absurd (line?_isSome.1 hsome).2 hs

/-- **The excerpt of a verbatim form shows the text itself if and only if it shows none of the
changed lines.** -/
theorem excerptAt_shownBody_iff {raw : Text} {line : Nat}
    (hlast : ∃ n ∈ changedLines raw, line ≤ n) :
    excerptAt (shownBody raw) line = excerptAt raw line ↔
      line = 0 ∨ ∀ n ∈ changedLines raw, n + contextLines < line ∨ line + contextLines < n := by
  have hlengthened := lengthened_shownBody raw
  obtain ⟨m, hm, hle⟩ := hlast
  by_cases hpos : line = 0
  · subst hpos
    exact iff_of_true rfl (Or.inl rfl)
  have hin : line ≤ (lines (shownBody raw)).length := by
    obtain ⟨last, hlast, -⟩ := hlengthened.longer m hm
    exact Nat.le_trans hle (line?_isSome.1 (Option.isSome_of_eq_some hlast)).2
  rw [eq_comm, excerptAt_eq_iff hpos hin, or_iff_right hpos]
  constructor
  · intro hsame n hn
    by_contra hshown
    rw [not_or, Nat.not_lt, Nat.not_lt] at hshown
    exact (hlengthened.longer n hn).ne (hsame n hshown.1 hshown.2)
  · intro hapart n hlower hupper
    refine hlengthened.same n (fun hn => ?_) ⟨m, hm, ?_⟩
    · have hn := hapart n hn
      omega
    · have hm := hapart m hm
      omega

/-- A block with a fault is emitted as its verbatim form, between what is emitted for the blocks
around it. -/
theorem definitions_of_fault {r : Registry} {u : SourceUnit} {before after : List ExpandedBlock}
    {b : ExpandedBlock} (hblocks : u.blocks r = before ++ b :: after) {fault : StructuralFault}
    (hfault : ExpandedUnit.fault? b.name b.expansion = some fault) :
    (u.expand r).definitions = before.flatMap (·.output.definitions) ++
        ⟨b.name, verbatim b.raw⟩ :: after.flatMap (·.output.definitions) ∧
      Recovery.kept b.name fault ∈ (u.expand r).recoveries := by
  have houtput : b.output =
      ⟨[⟨b.name, verbatim b.raw⟩], b.expansion.unmatched.map Recovery.unmatched ++
        [Recovery.kept b.name fault]⟩ := by
    rw [ExpandedBlock.output, ExpandedUnit.ofExpansion, hfault]
  rw [SourceUnit.expand_eq_blocks, hblocks]
  simp [houtput]

/-- **What is reported for a definition that was kept verbatim.**  The excerpt is cut from the
first definition of that name in the unit.  If that is the definition itself, the excerpt shows
its verbatim form without the tag in front, and shows the text as it is written exactly where no
changed line is in reach. -/
theorem excerpt_of_kept {r : Registry} {units : List SourceUnit} {u : SourceUnit} (hu : u ∈ units)
    {before after : List ExpandedBlock} {b : ExpandedBlock}
    (hblocks : u.blocks r = before ++ b :: after) {fault : StructuralFault}
    (hfault : ExpandedUnit.fault? b.name b.expansion = some fault) {line : Nat}
    (hline : (Recovery.kept b.name fault).line? = some line) :
    ∃ d ∈ ofUnits r units, ∃ first,
      ofRecovery? u.name (u.expand r).definitions (.kept b.name fault) = some d ∧
      d.unit = u.name ∧ d.definition = b.name ∧ d.line = some line ∧
      ((u.expand r).definitions.find? fun e => e.name = b.name) = some first ∧
      d.excerpt = excerptAt (withoutRawTag first.body) line ∧
      ((∀ b' ∈ before, ∀ e ∈ b'.output.definitions, e.name ≠ b.name) →
        first = ⟨b.name, verbatim b.raw⟩ ∧
        ((∃ n ∈ changedLines b.raw, line ≤ n) →
          (d.excerpt = excerptAt b.raw line ↔
            line = 0 ∨
              ∀ n ∈ changedLines b.raw, n + contextLines < line ∨ line + contextLines < n))) := by
  obtain ⟨hdefinitions, hrecovery⟩ := definitions_of_fault hblocks hfault
  obtain ⟨first, hfirst⟩ : ∃ first,
      ((u.expand r).definitions.find? fun e => e.name = b.name) = some first := by
    rw [← Option.isSome_iff_exists, List.find?_isSome, hdefinitions]
    exact ⟨⟨b.name, verbatim b.raw⟩, by simp, by simp⟩
  refine ⟨_, List.mem_flatMap.2 ⟨u, hu, List.mem_append_left _ (List.mem_append_left _
    (List.mem_filterMap.2 ⟨_, hrecovery, rfl⟩))⟩, first, rfl, rfl, rfl, hline, hfirst, ?_, ?_⟩
  · rw [hfirst]
    simp [ofFault, hline]
  · intro hnames
    have hown : first = ⟨b.name, verbatim b.raw⟩ := by
      have hbefore : (before.flatMap (·.output.definitions)).find?
          (fun e => decide (e.name = b.name)) = none := by
        simpa using hnames
      rw [hdefinitions, List.find?_append, hbefore, Option.none_or,
        List.find?_cons_of_pos (by simp)] at hfirst
      exact (Option.some.inj hfirst).symm
    refine ⟨hown, fun hlast => ?_⟩
    rw [← excerptAt_shownBody_iff hlast, hfirst, hown]
    simp [ofFault, hline, shownBody]

/-- A unit with the given text. -/
def badUnit (raw : Text) : SourceUnit := ⟨"bad.html".toList, "bad".toList, raw⟩

/-- A condition that is never closed, with three lines between it and the last one. -/
def openText : Text := "\x7b% if x %\x7d\n<p>\na\nb\n</p>".toList

/-- The line of the fault is reported with the two lines behind it, as they are written. -/
theorem excerpt_of_openText :
    ∃ d ∈ ofUnits .empty [badUnit openText], d.definition = "bad".toList ∧ d.line = some 1 ∧
      d.excerpt = excerptAt openText 1 := by
  let e := Expansion.ofText .empty "bad".toList 0 (expandMarkers openText)
  have hraw : (badUnit openText).rawDefinitions = [("bad".toList, openText)] := by decide +kernel
  have hblocks : (badUnit openText).blocks .empty = [] ++ ⟨"bad".toList, openText, e⟩ :: [] := by
    rw [SourceUnit.blocks, hraw]
    rfl
  have hfault : ((ExpandedUnit.fault? "bad".toList e).bind fun fault =>
      (Recovery.kept "bad".toList fault).line?) = some 1 := by
    decide +kernel
  obtain ⟨fault, hfault, hline⟩ := Option.bind_eq_some_iff.1 hfault
  have hchanged : changedLines openText = [5] := by decide +kernel
  obtain ⟨d, hd, _, -, -, hname, hreported, -, -, hown⟩ :=
    excerpt_of_kept (List.mem_singleton_self _) hblocks hfault hline
  have hexcerpt := (hown (by simp)).2 (by simp [hchanged])
  exact ⟨d, hd, hname, hreported, hexcerpt.2 (by simp [hchanged, contextLines])⟩

/-- A condition that is never closed, two lines before the last one. -/
def shortText : Text := "<p>\n\x7b% if x %\x7d\nopen\n</p>".toList

/-- A condition that is never closed, and a raw block in the same line. -/
def rawText : Text :=
  "\x7b% if x %\x7d\x7b% raw %\x7da\x7b% endraw %\x7d\nb\nc\nd\ne\n".toList

/-- Two definitions of the same name, the first with the given text and the second open. -/
def repeatedText (first : Text) : Text :=
  "\x7b% component A %\x7d".toList ++ first ++
    "\x7b% endcomponent %\x7d\x7b% component A %\x7d".toList ++ openText ++
    "\x7b% endcomponent %\x7d".toList

/-- Whether the one definition of a unit that is kept verbatim is the last one, with a fault in
the given line, and is reported with other lines than those of its text. -/
def IsMisreported (u : SourceUnit) (raw : Text) (line : Nat) : Prop :=
  (u.rawDefinitions.getLast?.map Prod.snd = some raw ∧
      (u.expand .empty).recoveries.map Recovery.line? = [some line]) ∧
    (ofUnits .empty [u]).map (fun d => (d.line, decide (d.excerpt = excerptAt raw line))) =
      [(some line, false)]

/-- An excerpt shows the end of the raw block behind a fault near the end of a text, and the
quoted form of a tag in a text; and if a name is given twice, it shows the first definition. -/
theorem isMisreported_units :
    IsMisreported (badUnit shortText) shortText 2 ∧
      IsMisreported (badUnit rawText) rawText 1 ∧
      IsMisreported (badUnit (repeatedText "ok\n\n\n\n".toList)) openText 1 := by
  refine ⟨⟨⟨?_, ?_⟩, ?_⟩, ⟨⟨?_, ?_⟩, ?_⟩, ⟨⟨?_, ?_⟩, ?_⟩⟩
  all_goals decide +kernel

end Diagnostic

end Componentry
