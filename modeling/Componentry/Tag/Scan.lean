import Componentry.Tag.Basic

/-!
# Scanning for elements

`Scan.next accept s` looks for the first element of `s` whose name is accepted.
The outcome holds the text before the element, the element in its parts, and the
text after it; an accepted opening tag that has no end, or whose closing tag is
missing, is reported as unmatched together with the text from which the search
may go on.

The pieces of an outcome make up the text (`Scan.covers_next`; `Scan.next_eq_found`
and `Scan.next_eq_unmatched` for an element and for an unmatched tag); hence what
follows an outcome is always shorter than the text, and every loop over a text's
elements ends.
-/

namespace Componentry

/-- An element of markup, in the parts of its text. -/
structure Element where
  /-- The tag name. -/
  name : Text
  /-- What stands between the name and the end of the opening tag. -/
  attributes : Text
  /-- The end of the opening tag: `>`, or `/`, blanks and `>`. -/
  tail : Text
  /-- The contents and the closing tag of a paired element; none if the opening
  tag closes the element at once. -/
  contents : Option (Text × Text)
deriving DecidableEq, Repr

namespace Element

/-- The opening tag of an element. -/
def opening (e : Element) : Text := '<' :: e.name ++ e.attributes ++ e.tail

/-- The text of an element. -/
def text (e : Element) : Text :=
  match e.contents with
  | none => e.opening
  | some (body, close) => e.opening ++ body ++ close

/-- Whether the opening tag closes the element at once. -/
def isSelfClosing (e : Element) : Bool := e.contents.isNone

/-- The text between the tags of an element. -/
def body (e : Element) : Text :=
  match e.contents with
  | none => []
  | some (body, _) => body

theorem opening_length_pos (e : Element) : 0 < e.opening.length := by simp [opening]

theorem text_length_pos (e : Element) : 0 < e.text.length := by
  have := e.opening_length_pos
  unfold text
  split
  · exact this
  · simp only [List.length_append]
    omega

end Element

/-- The outcome of one search for an element. -/
inductive Scan where
  /-- An element, with the text before and after it. -/
  | found (before : Text) (element : Element) (after : Text)
  /-- An opening tag without its end or without a closing tag: the text before
  it, its name, the part of it that was read, and the text after that. -/
  | unmatched (before name read after : Text)
  /-- No accepted opening tag is left. -/
  | done
deriving DecidableEq, Repr

namespace Scan

/-- The outcome in a text that has `piece` in front. -/
def under (piece : Text) : Scan → Scan
  | found before element after => found (piece ++ before) element after
  | unmatched before name read after => unmatched (piece ++ before) name read after
  | done => done

/-- The outcome at an opening tag: its name has been read and `s` follows. -/
def atName (name s : Text) : Scan :=
  match Tag.attributes? s with
  | none => .unmatched [] name ('<' :: name) s
  | some (region, after) =>
    match Tag.slash? region with
    | some (attributes, tail) => .found [] ⟨name, attributes, tail ++ ['>'], none⟩ after
    | none =>
      match Tag.contents? name after with
      | some (body, close, rest) => .found [] ⟨name, region, ['>'], some (body, close)⟩ rest
      | none => .unmatched [] name ('<' :: name ++ region ++ ['>']) after

/-- The first element whose name is accepted.  Template blocks are stepped over,
as are the names of tags that are not accepted. -/
def next (accept : Text → Bool) (s : Text) : Scan :=
  match s with
  | [] => .done
  | c :: t =>
    match h : Block.cut? (c :: t) with
    | some (block, rest) =>
      have : rest.length < (c :: t).length := Block.cut?_length h
      (next accept rest).under block
    | none =>
      if c = '<' then
        match h' : Tag.name? t with
        | none => (next accept t).under [c]
        | some (name, rest) =>
          have : rest.length < t.length := Tag.name?_length h'
          if accept name then atName name rest
          else (next accept rest).under (c :: name)
      else (next accept t).under [c]
termination_by s.length
decreasing_by all_goals (simp only [List.length_cons] at *; omega)

/-! ## Nothing is lost -/

/-- Whether the pieces of an outcome make up a text, and its tag has an accepted name;
what was read of an unmatched tag starts with `<` and its name. -/
def Covers (accept : Text → Bool) (s : Text) : Scan → Prop
  | found before e after => before ++ e.text ++ after = s ∧ accept e.name = true
  | unmatched before name read after =>
    before ++ read ++ after = s ∧ accept name = true ∧ ∃ more, read = '<' :: name ++ more
  | done => True

/-- What is stepped over belongs to the text before the outcome. -/
theorem Covers.under {accept : Text → Bool} {s : Text} {outcome : Scan}
    (h : Covers accept s outcome) (piece : Text) :
    Covers accept (piece ++ s) (outcome.under piece) := by
  cases outcome with
  | found before e after =>
    obtain ⟨htext, hname⟩ := h
    exact ⟨by simp [← htext], hname⟩
  | unmatched before name read after =>
    obtain ⟨htext, hname, hread⟩ := h
    exact ⟨by simp [← htext], hname, hread⟩
  | done => trivial

/-- The outcome at an opening tag has the name of the tag. -/
theorem covers_atName (name s : Text) : Covers (· = name) ('<' :: name ++ s) (atName name s) := by
  unfold atName
  split
  · exact ⟨by simp, by simp, [], by simp⟩
  · rename_i region rest hr
    have happ := Tag.attributes?_append hr
    split
    · rename_i attrs tail hs
      have hsl := Tag.slash?_append hs
      exact ⟨by simp [Element.text, Element.opening, ← happ, ← hsl], by simp⟩
    · split
      · rename_i body close rest' hc
        have hcs := Tag.contents?_append hc
        exact ⟨by simp [Element.text, Element.opening, ← happ, ← hcs], by simp⟩
      · exact ⟨by simp [← happ], by simp, region ++ ['>'], by simp⟩

theorem Covers.mono {accept accept' : Text → Bool} {s : Text} {outcome : Scan}
    (h : Covers accept s outcome) (himp : ∀ name, accept name = true → accept' name = true) :
    Covers accept' s outcome := by
  cases outcome with
  | found before e after => exact ⟨h.1, himp _ h.2⟩
  | unmatched before name read after => exact ⟨h.1, himp _ h.2.1, h.2.2⟩
  | done => trivial

/-- **The outcome of a search is made of the text**, and its tag has an accepted name. -/
theorem covers_next (accept : Text → Bool) (s : Text) : Covers accept s (next accept s) := by
  fun_induction next accept s with
  | case1 => trivial
  | case2 c t block rest hb _ ih =>
    rw [← Block.cut?_append hb]
    exact ih.under block
  | case3 t hb hn ih => exact ih.under ['<']
  | case4 t name rest hn _ hacc =>
    rw [← Tag.name?_append hn]
    exact (covers_atName name rest).mono fun _ heq => of_decide_eq_true heq ▸ hacc
  | case5 t name rest hn _ hb hacc ih =>
    rw [← Tag.name?_append hn]
    exact ih.under ('<' :: name)
  | case6 c t hb hc ih => exact ih.under [c]

/-- **A found element and the text around it make up the text**, and its name is
accepted. -/
theorem next_eq_found {accept : Text → Bool} {s before after : Text} {e : Element}
    (h : next accept s = .found before e after) :
    before ++ e.text ++ after = s ∧ accept e.name = true := by
  have hcovers := covers_next accept s
  rwa [h] at hcovers

/-- **The pieces of an unmatched tag make up the text**; what was read of it
starts with `<` and its accepted name. -/
theorem next_eq_unmatched {accept : Text → Bool} {s before name read after : Text}
    (h : next accept s = .unmatched before name read after) :
    before ++ read ++ after = s ∧ accept name = true ∧ ∃ more, read = '<' :: name ++ more := by
  have hcovers := covers_next accept s
  rwa [h] at hcovers

theorem found_length {accept : Text → Bool} {s before after : Text} {e : Element}
    (h : next accept s = .found before e after) :
    before.length + e.text.length + after.length = s.length := by
  rw [← (next_eq_found h).1]
  simp only [List.length_append]

theorem found_after_length {accept : Text → Bool} {s before after : Text} {e : Element}
    (h : next accept s = .found before e after) : after.length < s.length := by
  have := found_length h
  have := e.text_length_pos
  omega

theorem unmatched_after_length {accept : Text → Bool} {s before name read after : Text}
    (h : next accept s = .unmatched before name read after) : after.length < s.length := by
  obtain ⟨rfl, -, more, rfl⟩ := next_eq_unmatched h
  simp only [List.length_append, List.length_cons]
  omega

theorem found_body_length {accept : Text → Bool} {s before after body close : Text} {e : Element}
    (h : next accept s = .found before e after) (hc : e.contents = some (body, close)) :
    body.length < s.length := by
  have hlen := found_length h
  have hpos := e.opening_length_pos
  simp only [Element.text, hc, List.length_append] at hlen
  omega

end Scan

end Componentry
