import Componentry.Proofs.Cursor.Matching

/-! # Tags in the quoted values of nested elements

An attribute value of the tag that is looked for hides whatever is in it, and so does one
of a nested tag of the same name: the search goes to the end of the tag (`Tag.attributes?`).
Nested tags of other names are walked over character by character instead, so a tag that is
written in a value of theirs counts as any other.

Here it is said which values are stepped over all the same (`Tag.isInert`), so that the
outer element is found up to its own closing tag (`Scan.next_quoted`), and that it ends at
the first closing tag of its name in a value (`Scan.next_quoted_closing`).
-/
namespace Componentry

namespace Tag

/-- Whether a text starts with `<`, a name, and a boundary behind it. -/
def opensTag (name s : Text) : Bool := (Text.dropPrefix? ('<' :: name) s).any atBoundary

/-- Whether the search for the closing tag of `name` meets no tag of this name in a text, and
no template block that reaches up to the end of it. -/
def isInert (name s : Text) : Bool :=
  match s with
  | [] => true
  | c :: t =>
    match h : Block.cut? (c :: t) with
    | some (_, rest) =>
      have : rest.length < (c :: t).length := Block.cut?_length h
      !rest.isEmpty && isInert name rest
    | none => (closing? name (c :: t)).isNone && !opensTag name (c :: t) && isInert name t
termination_by s.length
decreasing_by all_goals (simp only [List.length_cons] at *; omega)

variable {name : Text}

theorem not_mem_isClosing {tag : Text} {stop : Char} (hname : isName name = true)
    (hstop : stop = '"' ∨ stop = '<') (h : IsClosing name tag) : stop ∉ tag.tail := by
  obtain ⟨blanks, hblanks, rfl⟩ := h
  have hchar : isNameChar stop = false ∧ Text.isBlank stop = false ∧ stop ≠ '/' ∧ stop ≠ '>' := by
    rcases hstop with rfl | rfl <;> decide
  intro hmem
  simp only [List.cons_append, List.tail_cons, List.mem_cons, List.mem_append, List.not_mem_nil,
    or_false] at hmem
  rcases hmem with hslash | (hmem | hmem) | hend
  · exact hchar.2.2.1 hslash
  · rw [isName_chars hname stop hmem] at hchar
    cases hchar.1
  · rw [hblanks stop hmem] at hchar
    cases hchar.2.1
  · exact hchar.2.2.2 hend

/-- Where no closing tag starts in front of a quote, none starts in front of any other
character that no closing tag goes over. -/
theorem closing?_eq_none_of_stop {c stop : Char} {v : Text} (hname : isName name = true)
    (hstop : stop = '"' ∨ stop = '<') (h : closing? name (c :: v ++ ['"']) = none)
    (rest : Text) :
    closing? name (c :: v ++ stop :: rest) = none := by
  rw [closing?_eq_none_iff] at h ⊢
  intro tag r htag heq
  rcases List.append_eq_append_iff.1 heq with ⟨more, rfl, hmore⟩ | ⟨m, hv, -⟩
  · cases more with
    | nil =>
      refine h (c :: v) ['"'] (by simpa using htag) rfl
    | cons d more =>
      obtain ⟨rfl, -⟩ := List.cons.inj hmore
      exact not_mem_isClosing hname hstop htag (by simp)
  · exact h tag (m ++ ['"']) htag (by rw [hv, List.append_assoc])

/-- As little does an opening tag start there. -/
theorem sameOpening?_eq_none_of_stop {c stop : Char} {v : Text} (hname : isName name = true)
    (hstop : stop = '"' ∨ stop = '<') (h : opensTag name (c :: v ++ ['"']) = false)
    (rest : Text) :
    sameOpening? name (c :: v ++ stop :: rest) = none := by
  have hchar : isNameChar stop = false ∧ atBoundary (stop :: rest) = false := by
    rcases hstop with rfl | rfl <;> exact ⟨by decide, rfl⟩
  unfold sameOpening?
  split
  · rfl
  · rename_i t ht
    rw [if_neg]
    intro hbound
    rcases List.append_eq_append_iff.1 (Text.dropPrefix?_eq_some.1 ht) with
      ⟨more, hmore, hrest⟩ | ⟨m, hv, rfl⟩
    · cases more with
      | nil =>
        rw [List.nil_append] at hrest
        rw [← hrest, hchar.2] at hbound
        cases hbound
      | cons d more =>
        -- The name goes over the stop.
        obtain ⟨rfl, -⟩ := List.cons.inj hrest
        have hmem : stop ∈ name := by
          rw [(List.cons.inj hmore).2]
          simp
        rw [isName_chars hname stop hmem] at hchar
        cases hchar.1
    · cases m with
      | nil =>
        rw [List.nil_append, hchar.2] at hbound
        cases hbound
      | cons b m =>
        have hdrop : Text.dropPrefix? ('<' :: name) (c :: v ++ ['"']) = some (b :: m ++ ['"']) :=
          Text.dropPrefix?_eq_some.2 (by rw [hv, List.append_assoc])
        rw [opensTag, hdrop] at h
        exact absurd hbound (by simpa [atBoundary] using h)

theorem cut?_eq_none_of_stop {c stop : Char} {v : Text} (hstop : stop = '"' ∨ stop = '<')
    (h : Block.cut? (c :: v ++ ['"']) = none) (rest : Text) :
    Block.cut? (c :: v ++ stop :: rest) = none := by
  cases v with
  | cons d v => exact (Block.cut?_eq_none_congr c d _ _).1 h
  | nil =>
    by_cases hc : c = '{'
    · subst hc
      rcases hstop with rfl | rfl <;>
        exact Block.cut?_brace (by decide) (by decide) (by decide) rest
    · exact Block.cut?_eq_none_of_ne hc _

/-- **What holds no tag of a name is stepped over** on the way to its closing tag, up to the
character that ends it. -/
theorem contentsFrom?_of_isInert {stop : Char} {v : Text} (hname : isName name = true)
    (hstop : stop = '"' ∨ stop = '<') (h : isInert name (v ++ ['"']) = true) (depth : Nat)
    (rest : Text) :
    contentsFrom? name depth (v ++ stop :: rest) =
      (contentsFrom? name depth (stop :: rest)).map (Prod.map (v ++ ·) id) := by
  generalize hs : v ++ ['"'] = s at h
  fun_induction isInert name s generalizing v with
  | case1 => simp at hs
  | case2 c t block after hcut _ ih =>
    simp only [Bool.and_eq_true, Bool.not_eq_true', List.isEmpty_eq_false_iff] at h
    obtain ⟨hafter, h⟩ := h
    have happ : block ++ after = v ++ ['"'] := (Block.cut?_append hcut).trans hs.symm
    -- The block ends in front of the quote.
    obtain ⟨w, rfl, rfl⟩ : ∃ w, v = block ++ w ∧ after = w ++ ['"'] := by
      rcases List.append_eq_append_iff.1 happ with ⟨w, hv, hw⟩ | ⟨w, hblock, hw⟩
      · exact ⟨w, hv, hw⟩
      · cases w with
        | nil => exact ⟨[], by simpa using hblock.symm, by simpa using hw.symm⟩
        | cons d w =>
          obtain ⟨-, hnil⟩ := List.cons.inj hw
          exact absurd (List.append_eq_nil_iff.1 hnil.symm).2 hafter
    have hclosed := Block.closed_of_rest_ne_nil hcut hafter
    have hblock := (contentsSearch name depth).run_block (hclosed (w ++ stop :: rest))
    simp only [contentsSearch] at hblock
    rw [List.append_assoc, hblock, ih rfl h]
    exact ((contentsSearch name depth).under_append block w _).symm
  | case3 c t hcut ih =>
    simp only [Bool.and_eq_true, Option.isNone_iff_eq_none, Bool.not_eq_true'] at h
    obtain ⟨⟨hclosing, hopening⟩, h⟩ := h
    cases v with
    | nil =>
      rw [List.nil_append]
      exact ((contentsSearch name depth).under_nil _).symm
    | cons d v =>
      obtain ⟨rfl, rfl⟩ := List.cons.inj hs
      have hnone := cut?_eq_none_of_stop hstop hcut rest
      have hstep : contentsFrom? name depth (d :: (v ++ stop :: rest)) =
          (contentsFrom? name depth (v ++ stop :: rest)).map (Prod.map ([d] ++ ·) id) := by
        by_cases hd : d = '<'
        · subst hd
          have hc := closing?_eq_none_of_stop hname hstop hclosing rest
          have ho := sameOpening?_eq_none_of_stop hname hstop hopening rest
          rw [List.cons_append] at hc ho
          rw [contentsFrom?_angle, hc, ho]
          rfl
        · exact (contentsSearch name depth).run_char hd hnone
      rw [List.cons_append, hstep, ih rfl h]
      exact ((contentsSearch name depth).under_append [d] v _).symm

/-! ## A nested tag with a quoted value -/

/-- What stands in front of a quoted value: `<name key="`. -/
def quotedStart (other key : Text) : Text := '<' :: other ++ ' ' :: key ++ ['=', '"']

/-- `<name key="value">`. -/
def quotedTag (other key value : Text) : Text := quotedStart other key ++ value ++ ['"', '>']

theorem passes_quotedStart {other key : Text} (hname : isName name = true)
    (hother : isName other = true) (hne : other ≠ name) (hkey : ∀ c ∈ key, isNameChar c = true) :
    Passes name (quotedStart other key) := by
  have hsource : quotedStart other key = '<' :: (other ++ (' ' :: key ++ ['=', '"'])) := by
    simp [quotedStart]
  rw [hsource]
  refine Passes.angle ?_ ?_ ?_
  · intro rest
    have hnone := closing?_opening name (s := ' ' :: key ++ ['=', '"'] ++ rest) hother
    simpa using hnone
  · intro rest
    have hnone := sameOpening?_ne (s := ' ' :: key ++ ['=', '"'] ++ rest) hname hother hne rfl
    simpa using hnone
  · intro depth
    have hblank : (contentsSearch name depth).Skips [' '] := .text (by decide)
    have hend : (contentsSearch name depth).Skips ['=', '"'] := .text (by decide)
    exact (skips_name (isName_chars hother)).append ((hblank.append (skips_name hkey)).append hend)

/-- The tag is stepped over if its value is. -/
theorem passes_quotedTag {other key value : Text} (hname : isName name = true)
    (hother : isName other = true) (hne : other ≠ name) (hkey : ∀ c ∈ key, isNameChar c = true)
    (hvalue : isInert name (value ++ ['"']) = true) : Passes name (quotedTag other key value) := by
  have hquoted : Passes name (value ++ ['"', '>']) := by
    intro depth rest
    have hend : (contentsSearch name depth).Skips ['"', '>'] := .text (by decide)
    have hstep := contentsFrom?_of_isInert hname (Or.inl rfl) hvalue depth ('>' :: rest)
    rw [List.append_assoc, (contentsSearch name depth).under_append, ← hend rest]
    exact hstep
  rw [quotedTag, List.append_assoc]
  exact (passes_quotedStart hname hother hne hkey).append hquoted

/-- A closing tag behind what holds no tag of the name ends the contents. -/
theorem contents?_of_isInert {front v tag : Text} (hname : isName name = true)
    (hfront : Passes name front) (hv : isInert name (v ++ ['"']) = true)
    (htag : IsClosing name tag) (rest : Text) :
    contents? name (front ++ v ++ tag ++ rest) = some (front ++ v, tag, rest) := by
  have hfound := closing?_of_isClosing htag rest
  obtain ⟨blanks, hblanks, htext⟩ := htag
  have hcons : tag ++ rest = '<' :: ('/' :: name ++ blanks ++ ['>'] ++ rest) := by
    rw [htext]
    rfl
  have hend : contentsFrom? name 0 (tag ++ rest) = some ([], tag, rest) := by
    rw [hcons] at hfound ⊢
    rw [contentsFrom?_angle, hfound]
  have hvalue := contentsFrom?_of_isInert hname (Or.inr rfl) hv 0
    ('/' :: name ++ blanks ++ ['>'] ++ rest)
  rw [← hcons, hend] at hvalue
  have hstep := hfront 0 (v ++ (tag ++ rest))
  simp only [contentsSearch, hvalue] at hstep
  rw [contents?, List.append_assoc, List.append_assoc, hstep]
  simp [Prod.map]

end Tag

namespace Scan

variable {name other key value x y : Text}

/-- An opening tag without attributes, whose contents are found. -/
theorem next_of_contents? {accept : Text → Bool} {s body close rest : Text}
    (hname : Tag.isName name = true) (hacc : accept name = true)
    (h : Tag.contents? name s = some (body, close, rest)) :
    next accept ('<' :: name ++ '>' :: s) = .found [] ⟨name, [], ['>'], some (body, close)⟩ rest := by
  have hattributes := Tag.attributes?_of_spans .nil s
  rw [List.nil_append] at hattributes
  rw [List.cons_append, next_angle, Tag.name?_of_isName hname (s := '>' :: s) rfl]
  simp only [hacc, if_true, atName, hattributes, show Tag.slash? [] = none from rfl, h]

/-- **A quoted value of a nested tag does not end the outer element**, whatever it holds, if it
holds no tag of the outer name outside of template blocks and no block that it does not end. -/
theorem next_quoted (r : Registry) (hname : Tag.isName name = true)
    (hinvoked : r.invokes name = true) (hother : Tag.isName other = true) (hne : other ≠ name)
    (hkey : ∀ c ∈ key, Tag.isNameChar c = true)
    (hvalue : Tag.isInert name (value ++ ['"']) = true) (hx : isPlainText x = true)
    (hy : isPlainText y = true) :
    next r.invokes ('<' :: name ++ '>' ::
        (x ++ Tag.quotedTag other key value ++ y ++ closingTag other ++ closingTag name)) =
      .found [] ⟨name, [], ['>'],
        some (x ++ Tag.quotedTag other key value ++ y ++ closingTag other, closingTag name)⟩ [] := by
  have htext : ∀ {w : Text}, isPlainText w = true → Tag.Passes name w := fun h _ => .text h
  have hbody : Tag.Passes name (x ++ Tag.quotedTag other key value ++ y ++ closingTag other) :=
    (((htext hx).append (Tag.passes_quotedTag hname hother hne hkey hvalue)).append
      (htext hy)).append (Tag.passes_closingTag hname hother hne)
  have hcontents := Tag.contents?_of_passes hbody []
  rw [List.append_nil] at hcontents
  exact next_of_contents? hname hinvoked hcontents

/-- The components `A` and `B`. -/
def twoComponents : Registry := Registry.empty.registerAll [['A'], ['B']]

/-- A value with tags of other names, and with the closing tag of `A` in a template block. -/
theorem next_quoted_tags :
    Tag.isName ['A'] = true ∧ twoComponents.invokes ['A'] = true ∧ Tag.isName ['B'] = true ∧
      (['B'] : Text) ≠ ['A'] ∧ (∀ c ∈ ("key".toList : Text), Tag.isNameChar c = true) ∧
      Tag.isInert ['A'] ("</B>\x7b\x7b '</A>' \x7d\x7d</AB>".toList ++ ['"']) = true ∧
      isPlainText ['x'] = true ∧ isPlainText ['y'] = true ∧
      next twoComponents.invokes
          ("<A>x<B key=\"</B>\x7b\x7b '</A>' \x7d\x7d</AB>\">y</B></A>".toList) =
        .found [] ⟨['A'], [], ['>'],
          some ("x<B key=\"</B>\x7b\x7b '</A>' \x7d\x7d</AB>\">y</B>".toList, "</A>".toList)⟩ [] := by
  have hname : Tag.isName ['A'] = true := by decide
  have hother : Tag.isName ['B'] = true := by decide
  have hkey : ∀ c ∈ ("key".toList : Text), Tag.isNameChar c = true :=
    List.all_eq_true.1 (by decide)
  have hvalue : Tag.isInert ['A'] ("</B>\x7b\x7b '</A>' \x7d\x7d</AB>".toList ++ ['"']) = true := by
    decide +kernel
  exact ⟨hname, by decide, hother, by decide, hkey, hvalue, by decide, by decide,
    next_quoted twoComponents hname (by decide) hother (by decide) hkey hvalue (x := ['x'])
      (y := ['y']) (by decide) (by decide)⟩

/-- **The first closing tag in the value ends it**: the search does not tell it from a tag that
stands in the contents. -/
theorem next_quoted_closing (r : Registry) {u w tag : Text} (hname : Tag.isName name = true)
    (hinvoked : r.invokes name = true) (hother : Tag.isName other = true) (hne : other ≠ name)
    (hkey : ∀ c ∈ key, Tag.isNameChar c = true) (hu : Tag.isInert name (u ++ ['"']) = true)
    (htag : Tag.IsClosing name tag) (hx : isPlainText x = true) :
    next r.invokes ('<' :: name ++ '>' ::
        (x ++ Tag.quotedTag other key (u ++ tag ++ w) ++ y ++ closingTag other ++
          closingTag name)) =
      .found [] ⟨name, [], ['>'], some (x ++ Tag.quotedStart other key ++ u, tag)⟩
        (w ++ ['"', '>'] ++ y ++ closingTag other ++ closingTag name) := by
  have htext : Tag.Passes name x := fun _ => .text hx
  have hcontents := Tag.contents?_of_isInert hname
    (htext.append (Tag.passes_quotedStart hname hother hne hkey)) hu htag
    (w ++ ['"', '>'] ++ y ++ closingTag other ++ closingTag name)
  refine next_of_contents? hname hinvoked ?_
  rw [← hcontents]
  simp [Tag.quotedTag]

/-- The closing tag of `A` as the value of a nested `B`: the element `A` is found, but its contents
end inside of the value. -/
theorem next_quoted_ne :
    twoComponents.invokes ['A'] = true ∧ twoComponents.invokes ['B'] = true ∧
      (∀ c ∈ ("key".toList : Text), Tag.isNameChar c = true) ∧ '"' ∉ closingTag ['A'] ∧
      isPlainText [] = true ∧ isPlainText ['y'] = true ∧
      next twoComponents.invokes ('<' :: ['A'] ++ '>' ::
          ([] ++ Tag.quotedTag ['B'] "key".toList (closingTag ['A']) ++ ['y'] ++ closingTag ['B'] ++
            closingTag ['A'])) ≠
        .found [] ⟨['A'], [], ['>'],
          some ([] ++ Tag.quotedTag ['B'] "key".toList (closingTag ['A']) ++ ['y'] ++
            closingTag ['B'], closingTag ['A'])⟩ [] := by
  have hname : Tag.isName ['A'] = true := by decide
  have hother : Tag.isName ['B'] = true := by decide
  have hkey : ∀ c ∈ ("key".toList : Text), Tag.isNameChar c = true :=
    List.all_eq_true.1 (by decide)
  have hclosing : Tag.IsClosing ['A'] (closingTag ['A']) := ⟨[], by simp, rfl⟩
  have hfound := next_quoted_closing twoComponents (u := []) (w := []) (x := []) (y := ['y']) hname
    (by decide) hother (by decide) hkey (by decide +kernel) hclosing (by decide)
  refine ⟨by decide, by decide, hkey, by decide, by decide, by decide, fun heq => ?_⟩
  simp only [List.nil_append, List.append_nil] at heq hfound
  have hcontents := hfound.symm.trans heq
  simp [Tag.quotedStart, Tag.quotedTag] at hcontents

end Scan
end Componentry
