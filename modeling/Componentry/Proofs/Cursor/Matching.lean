import Componentry.Proofs.Cursor.Scan
import Componentry.Proofs.Markup.Tags

/-! # Which closing tag an element ends at

The search for the closing tag of an element counts the tags of its name.  Here it is
compared with a reading of the text in which nothing is counted: piece by piece the text
is a closing tag of the name, an opening tag of it that is not closed at once, or something
else (`Tag.Starts`), where a template block and the attributes of an opening tag are one
piece each.  Every text has exactly one such reading (`Tag.exists_isReading`).

The search finds the first closing tag that is one too many in the reading, and nothing
exactly if no closing tag is (`Cursor.matchingClose_reading`).  The counter carries the
proof: at depth `d` a closing tag is one too many if more than `d` of the opening tags
before it would be needed (`Tag.contentsFrom?_reading`, `Tag.firstExcess_eq_some`).
-/
namespace Componentry

namespace Tag

/-! ## Closing and opening tags of a name -/

/-- A closing tag of a name; blanks may stand in front of its end. -/
def IsClosing (name tag : Text) : Prop :=
  ∃ blanks, (∀ c ∈ blanks, Text.isBlank c = true) ∧ tag = '<' :: '/' :: name ++ blanks ++ ['>']

/-- Behind a tag name the attributes `region` follow, up to the end of the tag, and then
`rest`. -/
structure IsRegion (region rest : Text) : Prop where
  boundary : atBoundary (region ++ '>' :: rest) = true
  ends : attributes? (region ++ '>' :: rest) = some (region, rest)

theorem closing?_of_isClosing {name tag : Text} (h : IsClosing name tag) (rest : Text) :
    closing? name (tag ++ rest) = some (tag, rest) := by
  obtain ⟨blanks, hblanks, rfl⟩ := h
  have hdrop : Text.dropPrefix? ('<' :: '/' :: name)
      ('<' :: '/' :: name ++ blanks ++ ['>'] ++ rest) = some (blanks ++ '>' :: rest) :=
    Text.dropPrefix?_eq_some.2 (by simp)
  have hend : Text.isBlank '>' = false := rfl
  rw [closing?, hdrop]
  simp only [List.dropWhile_append_of_pos hblanks, List.takeWhile_append_of_pos hblanks,
    List.dropWhile_cons, List.takeWhile_cons, hend, Bool.false_eq_true, if_false, List.append_nil]

theorem isClosing_of_closing? {name s tag rest : Text} (h : closing? name s = some (tag, rest)) :
    IsClosing name tag := by
  unfold closing? at h
  split at h
  · cases h
  · rename_i t _
    split at h
    · cases h
      exact ⟨_, fun c hc => List.all_eq_true.1 List.all_takeWhile c hc, rfl⟩
    · cases h

/-- No closing tag starts a text in which none is found. -/
theorem closing?_eq_none_iff {name s : Text} :
    closing? name s = none ↔ ∀ tag rest, IsClosing name tag → s ≠ tag ++ rest := by
  constructor
  · rintro h tag rest htag rfl
    rw [closing?_of_isClosing htag] at h
    cases h
  · intro h
    cases hfound : closing? name s with
    | none => rfl
    | some found =>
      obtain ⟨tag, rest⟩ := found
      exact absurd (closing?_append hfound).symm (h tag rest (isClosing_of_closing? hfound))

theorem sameOpening?_of_isRegion {region rest : Text} (name : Text) (h : IsRegion region rest) :
    sameOpening? name ('<' :: name ++ region ++ '>' :: rest) =
      some ('<' :: name ++ region ++ ['>'], (slash? region).isSome, rest) := by
  have hdrop : Text.dropPrefix? ('<' :: name) ('<' :: name ++ region ++ '>' :: rest) =
      some (region ++ '>' :: rest) := Text.dropPrefix?_eq_some.2 (by simp)
  rw [sameOpening?, hdrop]
  simp only [h.boundary, if_true, h.ends, Option.map_some]

theorem isRegion_of_sameOpening? {name s tag rest : Text} {closed : Bool}
    (h : sameOpening? name s = some (tag, closed, rest)) :
    ∃ region, IsRegion region rest ∧ s = '<' :: name ++ region ++ '>' :: rest ∧
      tag = '<' :: name ++ region ++ ['>'] ∧ closed = (slash? region).isSome := by
  unfold sameOpening? at h
  split at h
  · cases h
  · rename_i t ht
    split at h
    · rename_i hbound
      simp only [Option.map_eq_some_iff, Prod.exists, Prod.mk.injEq] at h
      obtain ⟨region, r, hr, rfl, rfl, rfl⟩ := h
      have happ := attributes?_append hr
      rw [← happ] at hbound hr
      refine ⟨region, ⟨hbound, hr⟩, ?_, rfl, rfl⟩
      rw [Text.dropPrefix?_eq_some.1 ht, ← happ, List.append_assoc]
    · cases h

/-- No opening tag with an end starts a text in which none is found. -/
theorem sameOpening?_eq_none_iff {name s : Text} :
    sameOpening? name s = none ↔
      ∀ region rest, IsRegion region rest → s ≠ '<' :: name ++ region ++ '>' :: rest := by
  constructor
  · rintro h region rest hregion rfl
    rw [sameOpening?_of_isRegion name hregion] at h
    cases h
  · intro h
    cases hfound : sameOpening? name s with
    | none => rfl
    | some found =>
      obtain ⟨tag, closed, rest⟩ := found
      obtain ⟨region, hregion, hs, -, -⟩ := isRegion_of_sameOpening? hfound
      exact absurd hs (h region rest hregion)

/-- A text that goes on behind a name as it does behind a slash and the name starts with a
slash there. -/
theorem eq_slash_cons {name u v : Text} (h : '/' :: name ++ u = name ++ v) : v = '/' :: u := by
  induction name with
  | nil => exact h.symm
  | cons c name ih =>
    obtain ⟨rfl, hrest⟩ := List.cons.inj h
    exact ih hrest

theorem slash?_blanks {blanks : Text} (h : ∀ c ∈ blanks, Text.isBlank c = true) :
    slash? ('/' :: blanks) = some ([], '/' :: blanks) := by
  have hrev : ∀ c ∈ blanks.reverse, Text.isBlank c = true := fun c hc =>
    h c (List.mem_reverse.1 hc)
  have hslash : Text.isBlank '/' = false := rfl
  simp [slash?, List.dropWhile_append_of_pos hrev, List.takeWhile_append_of_pos hrev, hslash]

/-- **A closing tag is no opening tag of the same name that is left open**, not even of a
name that starts with a slash. -/
theorem closing?_eq_none_of_isRegion (name : Text) {region rest : Text} (h : IsRegion region rest)
    (hopen : slash? region = none) :
    closing? name ('<' :: name ++ region ++ '>' :: rest) = none := by
  rw [closing?_eq_none_iff]
  rintro tag r ⟨blanks, hblanks, rfl⟩ heq
  have hname : '/' :: name ++ (blanks ++ '>' :: r) = name ++ (region ++ '>' :: rest) := by
    simpa using heq.symm
  -- What follows the name is a slash, blanks and the end of the tag: this region is closed.
  have hregion : region ++ '>' :: rest = '/' :: blanks ++ '>' :: r := eq_slash_cons hname
  have hspans : Spans ('/' :: blanks) := by
    refine .chars fun c hc => ?_
    rcases List.mem_cons.1 hc with rfl | hc
    · decide
    · have hblank := hblanks c hc
      simp only [Text.isBlank, Bool.or_eq_true, decide_eq_true_eq] at hblank
      rcases hblank with (((rfl | rfl) | rfl) | rfl) | rfl <;> decide
  have hends := h.ends
  rw [hregion, attributes?_of_spans hspans r] at hends
  obtain ⟨rfl, -⟩ := Prod.mk.inj (Option.some.inj hends)
  rw [slash?_blanks hblanks] at hopen
  cases hopen

/-! ## Readings -/

/-- A piece of a text, as the search for the closing tag of a name tells pieces apart. -/
inductive Passage where
  /-- A closing tag of the name. -/
  | closing (tag : Text)
  /-- An opening tag of the name that is not closed at once. -/
  | opening (tag : Text)
  /-- A template block, an opening tag of the name that is closed at once, or any other
  character. -/
  | other (text : Text)
deriving DecidableEq, Repr

namespace Passage

/-- The text of a passage. -/
def text : Passage → Text
  | closing tag | opening tag | other tag => tag

/-- Whether a passage is a closing tag. -/
def isClosing : Passage → Bool
  | closing _ => true
  | _ => false

/-- Whether a passage is an opening tag. -/
def isOpening : Passage → Bool
  | opening _ => true
  | _ => false

end Passage

/-- The passage that a text starts with, and the rest of the text. -/
inductive Starts (name : Text) : Text → Passage → Text → Prop where
  | block {s block rest} (hblock : Block.cut? s = some (block, rest)) :
    Starts name s (.other block) rest
  | closing {tag rest} (htag : IsClosing name tag) :
    Starts name (tag ++ rest) (.closing tag) rest
  | opening {region rest} (hregion : IsRegion region rest) (hopen : slash? region = none) :
    Starts name ('<' :: name ++ region ++ '>' :: rest) (.opening ('<' :: name ++ region ++ ['>']))
      rest
  | closed {region rest} (hregion : IsRegion region rest) (hclosed : (slash? region).isSome = true)
    (hother : ∀ tag r, IsClosing name tag → '<' :: name ++ region ++ '>' :: rest ≠ tag ++ r) :
    Starts name ('<' :: name ++ region ++ '>' :: rest) (.other ('<' :: name ++ region ++ ['>'])) rest
  | char {c s} (hblock : Block.cut? (c :: s) = none)
    (hclosing : ∀ tag r, IsClosing name tag → c :: s ≠ tag ++ r)
    (hregion : ∀ region rest, IsRegion region rest → c :: s ≠ '<' :: name ++ region ++ '>' :: rest) :
    Starts name (c :: s) (.other [c]) s

/-- The passages of a text, one after the other. -/
def IsReading (name : Text) : Text → List Passage → Prop
  | s, [] => s = []
  | s, p :: ps => ∃ rest, Starts name s p rest ∧ IsReading name rest ps

/-- The passage that a text starts with, if it is not empty, and the rest of it. -/
def passage? (name : Text) : Text → Option (Passage × Text)
  | [] => none
  | c :: s =>
    match Block.cut? (c :: s) with
    | some (block, rest) => some (.other block, rest)
    | none =>
      match closing? name (c :: s) with
      | some (tag, rest) => some (.closing tag, rest)
      | none =>
        match sameOpening? name (c :: s) with
        | some (tag, closed, rest) => some (if closed then .other tag else .opening tag, rest)
        | none => some (.other [c], s)

theorem passage?_of_block {name s block rest : Text} (h : Block.cut? s = some (block, rest)) :
    passage? name s = some (.other block, rest) := by
  cases s with
  | nil => cases h
  | cons c s => simp only [passage?, h]

theorem passage?_angle {name s : Text} :
    passage? name ('<' :: s) =
      match closing? name ('<' :: s) with
      | some (tag, rest) => some (.closing tag, rest)
      | none =>
        match sameOpening? name ('<' :: s) with
        | some (tag, closed, rest) => some (if closed then .other tag else .opening tag, rest)
        | none => some (.other ['<'], s) := by
  simp only [passage?, Block.cut?_eq_none_of_ne (show '<' ≠ '{' by decide)]

theorem passage?_of_starts {name s rest : Text} {p : Passage} (h : Starts name s p rest) :
    passage? name s = some (p, rest) := by
  cases h with
  | block hblock => exact passage?_of_block hblock
  | closing htag =>
    have hfound := closing?_of_isClosing htag rest
    obtain ⟨blanks, hblanks, rfl⟩ := htag
    simp only [List.cons_append] at hfound ⊢
    simp only [passage?_angle, hfound]
  | opening hregion hopen =>
    have hnone := closing?_eq_none_of_isRegion name hregion hopen
    have hsame := sameOpening?_of_isRegion name hregion
    simp only [List.cons_append] at hnone hsame ⊢
    simp only [passage?_angle, hnone, hsame, hopen, Option.isSome_none, Bool.false_eq_true, if_false]
  | closed hregion hclosed hother =>
    have hnone := closing?_eq_none_iff.2 hother
    have hsame := sameOpening?_of_isRegion name hregion
    simp only [List.cons_append] at hnone hsame ⊢
    simp only [passage?_angle, hnone, hsame, hclosed, if_true]
  | char hblock hclosing hregion =>
    simp only [passage?, hblock, closing?_eq_none_iff.2 hclosing,
      sameOpening?_eq_none_iff.2 hregion]

theorem starts_of_passage? {name s rest : Text} {p : Passage}
    (h : passage? name s = some (p, rest)) : Starts name s p rest := by
  cases s with
  | nil => cases h
  | cons c s =>
    simp only [passage?] at h
    split at h
    · rename_i hblock
      cases h
      exact .block hblock
    · rename_i hblock
      split at h
      · rename_i hfound
        cases h
        rw [← closing?_append hfound]
        exact .closing (isClosing_of_closing? hfound)
      · rename_i hnone
        split at h
        · rename_i closed _ hfound
          obtain ⟨region, hregion, hs, rfl, rfl⟩ := isRegion_of_sameOpening? hfound
          cases h
          rw [hs] at hnone ⊢
          by_cases hclosed : (slash? region).isSome = true
          · rw [if_pos hclosed]
            exact .closed hregion hclosed (closing?_eq_none_iff.1 hnone)
          · rw [if_neg hclosed]
            exact .opening hregion (by simpa using hclosed)
        · rename_i hother
          cases h
          exact .char hblock (closing?_eq_none_iff.1 hnone) (sameOpening?_eq_none_iff.1 hother)

/-- **Which passage a text starts with is decided**, and there is only one. -/
theorem starts_iff {name s rest : Text} {p : Passage} :
    Starts name s p rest ↔ passage? name s = some (p, rest) :=
  ⟨passage?_of_starts, starts_of_passage?⟩

theorem exists_passage? (name : Text) (c : Char) (s : Text) :
    ∃ p rest, passage? name (c :: s) = some (p, rest) ∧ rest.length < (c :: s).length := by
  simp only [passage?]
  split
  · rename_i h
    exact ⟨_, _, rfl, Block.cut?_length h⟩
  · split
    · rename_i h
      exact ⟨_, _, rfl, closing?_length h⟩
    · split
      · rename_i h
        exact ⟨_, _, rfl, sameOpening?_length h⟩
      · exact ⟨_, _, rfl, Nat.lt_succ_self _⟩

/-- **Every text has exactly one reading.** -/
theorem exists_isReading (name s : Text) : ∃ ps, ∀ qs, IsReading name s qs ↔ qs = ps := by
  induction hlen : s.length using Nat.strongRecOn generalizing s with
  | ind n ih =>
    subst hlen
    cases s with
    | nil =>
      refine ⟨[], fun qs => ?_⟩
      cases qs with
      | nil => simp [IsReading]
      | cons q qs => simp [IsReading, starts_iff, passage?]
    | cons c s =>
      obtain ⟨p, rest, hstart, hlt⟩ := exists_passage? name c s
      obtain ⟨ps, hps⟩ := ih rest.length hlt rest rfl
      refine ⟨p :: ps, fun qs => ?_⟩
      cases qs with
      | nil => simp [IsReading]
      | cons q qs =>
        simp only [IsReading, starts_iff, hstart, Option.some.injEq, Prod.mk.injEq,
          List.cons.injEq, ← hps]
        constructor
        · rintro ⟨r, ⟨rfl, rfl⟩, hread⟩
          exact ⟨rfl, hread⟩
        · rintro ⟨rfl, hread⟩
          exact ⟨rest, ⟨rfl, rfl⟩, hread⟩

/-- The text of passages. -/
def passagesText (ps : List Passage) : Text := ps.flatMap Passage.text

theorem starts_append {name s rest : Text} {p : Passage} (h : Starts name s p rest) :
    p.text ++ rest = s := by
  cases h with
  | block hblock => exact Block.cut?_append hblock
  | closing _ | char _ _ _ => rfl
  | opening _ _ | closed _ _ _ => simp [Passage.text]

/-- The passages of a text make it up. -/
theorem passagesText_of_isReading {name s : Text} {ps : List Passage} (h : IsReading name s ps) :
    passagesText ps = s := by
  induction ps generalizing s with
  | nil => exact h.symm
  | cons p ps ih =>
    obtain ⟨rest, hstart, hrest⟩ := h
    rw [passagesText, List.flatMap_cons, ← passagesText, ih hrest]
    exact starts_append hstart

/-! ## Closing tags that are one too many -/

/-- The number of closing tags. -/
def closes (ps : List Passage) : Nat := ps.countP Passage.isClosing

/-- The number of opening tags. -/
def opens (ps : List Passage) : Nat := ps.countP Passage.isOpening

/-- A closing tag of `ps`, behind the passages `body`, with which there are more closing tags
than opening tags. -/
structure IsExcess (ps body : List Passage) (tag : Text) : Prop where
  occurs : body ++ [.closing tag] <+: ps
  exceeds : opens (body ++ [.closing tag]) < closes (body ++ [.closing tag])

/-- The first such closing tag. -/
structure IsFirstExcess (ps body : List Passage) (tag : Text) : Prop extends
    IsExcess ps body tag where
  first : ∀ before tag', ¬ IsExcess body before tag'

/-- The first closing tag at which there are more closing tags than opening tags and
`depth`, with the passages before and after it. -/
def firstExcess : Nat → List Passage → Option (List Passage × Text × List Passage)
  | _, [] => none
  | 0, .closing tag :: ps => some ([], tag, ps)
  | depth + 1, .closing tag :: ps =>
    (firstExcess depth ps).map (Prod.map (.closing tag :: ·) id)
  | depth, .opening tag :: ps =>
    (firstExcess (depth + 1) ps).map (Prod.map (.opening tag :: ·) id)
  | depth, .other text :: ps => (firstExcess depth ps).map (Prod.map (.other text :: ·) id)

/-- Up to no passage are there more closing tags than opening tags and `depth`. -/
def Within (depth : Nat) (ps : List Passage) : Prop :=
  ∀ before, before <+: ps → closes before ≤ opens before + depth

theorem closes_cons (p : Passage) (ps : List Passage) :
    closes (p :: ps) = closes ps + if p.isClosing then 1 else 0 := List.countP_cons

theorem opens_cons (p : Passage) (ps : List Passage) :
    opens (p :: ps) = opens ps + if p.isOpening then 1 else 0 := List.countP_cons

theorem within_nil (depth : Nat) : Within depth [] := by
  intro before hbefore
  rw [List.prefix_nil.1 hbefore]
  exact Nat.zero_le _

/-- A passage in front moves the depth by what it counts. -/
theorem within_cons {depth depth' : Nat} {p : Passage} {ps : List Passage}
    (hp : depth' + (if p.isClosing then 1 else 0) = depth + if p.isOpening then 1 else 0)
    (h : Within depth' ps) : Within depth (p :: ps) := by
  intro before hbefore
  rcases List.prefix_cons_iff.1 hbefore with rfl | ⟨rest, rfl, hprefix⟩
  · exact Nat.zero_le _
  · have hrest := h rest hprefix
    rw [closes_cons, opens_cons]
    omega

theorem firstExcess_eq_none {depth : Nat} {ps : List Passage} (h : firstExcess depth ps = none) :
    Within depth ps := by
  fun_induction firstExcess depth ps with
  | case1 depth => exact within_nil depth
  | case2 => cases h
  | case3 depth tag ps ih => exact within_cons rfl (ih (Option.map_eq_none_iff.1 h))
  | case4 depth tag ps ih => exact within_cons rfl (ih (Option.map_eq_none_iff.1 h))
  | case5 depth text ps ih => exact within_cons rfl (ih (Option.map_eq_none_iff.1 h))

/-- What the first excess at a depth is: behind its passages as many closing tags are missing
as the depth says, and up to none of them is one too many. -/
theorem firstExcess_eq_some {depth : Nat} {ps body after : List Passage} {tag : Text}
    (h : firstExcess depth ps = some (body, tag, after)) :
    ps = body ++ .closing tag :: after ∧ closes body = opens body + depth ∧ Within depth body := by
  fun_induction firstExcess depth ps generalizing body with
  | case1 => cases h
  | case2 tag ps =>
    cases h
    exact ⟨rfl, rfl, within_nil 0⟩
  | case3 depth tag ps ih | case4 depth tag ps ih | case5 depth text ps ih =>
    simp only [Option.map_eq_some_iff, Prod.exists, Prod.map, Prod.mk.injEq, id] at h
    obtain ⟨body, _, _, hrest, rfl, rfl, rfl⟩ := h
    obtain ⟨rfl, hcount, hwithin⟩ := ih hrest
    refine ⟨rfl, ?_, within_cons rfl hwithin⟩
    rw [closes_cons, opens_cons, hcount]
    simp only [Passage.isClosing, Passage.isOpening, if_true, Bool.false_eq_true, if_false]
    omega

theorem not_isExcess {ps : List Passage} (h : Within 0 ps) (body : List Passage) (tag : Text) :
    ¬ IsExcess ps body tag := by
  rintro ⟨hoccurs, hexceeds⟩
  have hle := h _ hoccurs
  omega

theorem closes_closing (body : List Passage) (tag : Text) :
    closes (body ++ [.closing tag]) = closes body + 1 := by
  simp [closes, Passage.isClosing]

theorem opens_closing (body : List Passage) (tag : Text) :
    opens (body ++ [.closing tag]) = opens body := by
  simp [opens, Passage.isOpening]

theorem isFirstExcess_of_firstExcess {ps body after : List Passage} {tag : Text}
    (h : firstExcess 0 ps = some (body, tag, after)) : IsFirstExcess ps body tag := by
  obtain ⟨rfl, hcount, hwithin⟩ := firstExcess_eq_some h
  refine ⟨⟨⟨after, by simp⟩, ?_⟩, not_isExcess hwithin⟩
  rw [closes_closing, opens_closing]
  omega

/-- The first excess is the only one: of two of them neither lies before the other. -/
theorem IsFirstExcess.unique {ps body body' : List Passage} {tag tag' : Text}
    (h : IsFirstExcess ps body tag) (h' : IsFirstExcess ps body' tag') :
    body = body' ∧ tag = tag' := by
  have hcases : body ++ [.closing tag] = body' ++ [.closing tag'] := by
    rcases List.prefix_or_prefix_of_prefix h.occurs h'.occurs with hle | hle
    · rcases List.prefix_concat_iff.1 hle with heq | hlt
      · exact heq
      · exact absurd ⟨hlt, h.exceeds⟩ (h'.first body tag)
    · rcases List.prefix_concat_iff.1 hle with heq | hlt
      · exact heq.symm
      · exact absurd ⟨hlt, h'.exceeds⟩ (h.first body' tag')
  obtain ⟨rfl, htag⟩ := List.append_inj' hcases rfl
  cases htag
  exact ⟨rfl, rfl⟩

theorem isFirstExcess_iff {ps body : List Passage} {tag : Text} :
    IsFirstExcess ps body tag ↔ ∃ after, firstExcess 0 ps = some (body, tag, after) := by
  constructor
  · intro h
    cases hfound : firstExcess 0 ps with
    | none => exact absurd h.toIsExcess (not_isExcess (firstExcess_eq_none hfound) body tag)
    | some found =>
      obtain ⟨body', tag', after⟩ := found
      obtain ⟨rfl, rfl⟩ := h.unique (isFirstExcess_of_firstExcess hfound)
      exact ⟨after, rfl⟩
  · rintro ⟨after, h⟩
    exact isFirstExcess_of_firstExcess h

theorem firstExcess_eq_none_iff {ps : List Passage} :
    firstExcess 0 ps = none ↔ ∀ body tag, ¬ IsExcess ps body tag := by
  constructor
  · intro h
    exact not_isExcess (firstExcess_eq_none h)
  · intro h
    cases hfound : firstExcess 0 ps with
    | none => rfl
    | some found =>
      obtain ⟨body, tag, after⟩ := found
      exact absurd (isFirstExcess_of_firstExcess hfound).toIsExcess (h body tag)

/-- **What the first excess encloses is balanced**, and up to no passage of it is there a
closing tag too many. -/
theorem IsFirstExcess.balanced {ps body : List Passage} {tag : Text}
    (h : IsFirstExcess ps body tag) :
    opens body = closes body ∧ ∀ before, before <+: body → closes before ≤ opens before := by
  obtain ⟨after, hfound⟩ := isFirstExcess_iff.1 h
  obtain ⟨-, hcount, hwithin⟩ := firstExcess_eq_some hfound
  exact ⟨hcount.symm, hwithin⟩

/-! ## The search for the closing tag -/

theorem passage?_of_ne {name s : Text} {c : Char} (h : c ≠ '<')
    (hblock : Block.cut? (c :: s) = none) : passage? name (c :: s) = some (.other [c], s) := by
  have hclosing : closing? name (c :: s) = none := by
    simp [closing?, Text.dropPrefix?, Ne.symm h]
  have hopening : sameOpening? name (c :: s) = none := by
    simp [sameOpening?, Text.dropPrefix?, Ne.symm h]
  simp only [passage?, hblock, hclosing, hopening]

/-- What the search for a closing tag does at each passage. -/
theorem contentsFrom?_step (name : Text) (depth : Nat) (s : Text) :
    contentsFrom? name depth s =
      match passage? name s with
      | none => none
      | some (.closing tag, rest) =>
        match depth with
        | 0 => some ([], tag, rest)
        | d + 1 => (contentsFrom? name d rest).map (Prod.map (tag ++ ·) id)
      | some (.opening tag, rest) =>
        (contentsFrom? name (depth + 1) rest).map (Prod.map (tag ++ ·) id)
      | some (.other text, rest) =>
        (contentsFrom? name depth rest).map (Prod.map (text ++ ·) id) := by
  cases s with
  | nil => simp [contentsFrom?, passage?]
  | cons c s =>
    cases hblock : Block.cut? (c :: s) with
    | some found =>
      obtain ⟨block, rest⟩ := found
      rw [passage?_of_block hblock]
      exact (contentsSearch name depth).run_block hblock
    | none =>
      by_cases hc : c = '<'
      · subst hc
        rw [contentsFrom?_angle, passage?_angle]
        cases closing? name ('<' :: s) with
        | some found => rfl
        | none =>
          cases sameOpening? name ('<' :: s) with
          | none => rfl
          | some found =>
            obtain ⟨tag, closed, rest⟩ := found
            cases closed <;> rfl
      · rw [passage?_of_ne hc hblock]
        exact (contentsSearch name depth).run_char hc hblock

/-- **The search finds the closing tag that is one too many in the reading**, and nothing if
there is none. -/
theorem contentsFrom?_reading {name s : Text} {ps : List Passage} (h : IsReading name s ps)
    (depth : Nat) :
    contentsFrom? name depth s =
      (firstExcess depth ps).map fun (body, tag, after) =>
        (passagesText body, tag, passagesText after) := by
  induction ps generalizing s depth with
  | nil =>
    cases h
    rw [contentsFrom?]
    rfl
  | cons p ps ih =>
    obtain ⟨rest, hstart, hrest⟩ := h
    rw [contentsFrom?_step, passage?_of_starts hstart]
    cases p with
    | closing tag =>
      cases depth with
      | zero =>
        rw [← passagesText_of_isReading hrest]
        rfl
      | succ d =>
        simp [firstExcess, ih hrest, Option.map_map, Function.comp_def, passagesText, Passage.text]
    | opening tag =>
      simp [firstExcess, ih hrest, Option.map_map, Function.comp_def, passagesText, Passage.text]
    | other tag =>
      simp [firstExcess, ih hrest, Option.map_map, Function.comp_def, passagesText, Passage.text]

end Tag

namespace Cursor

/-- A search that passes over every byte outside of ASCII, and finds the same at all offsets
behind the text, finds at an offset in a character what it finds at the next character. -/
theorem search_fromByte {β : Type} {f : Nat → β} {text : Text}
    (hf : ∀ j d, read? text.utf8 j = some d → Text.isAscii d = false → f j = f (j + 1))
    (hend : ∀ j k, read? text.utf8 j = none → read? text.utf8 k = none → f j = f k) {i n : Nat}
    {s : Text} (h : Reads text.utf8 n s) :
    ∃ before, s = before ++ Text.fromByte i s ∧ f (n + i) = f (n + Text.byteLength before) := by
  fun_induction Text.fromByte i s generalizing n with
  | case1 s => exact ⟨[], rfl, rfl⟩
  | case2 i =>
    refine ⟨[], rfl, hend _ _ ?_ h.nil⟩
    have hlen := h.length
    rw [read?, List.getElem?_eq_none (by rw [← hlen]; simp)]
    rfl
  | case3 i c s ih =>
    by_cases hle : c.utf8Size ≤ i + 1
    · obtain ⟨before, hs, hfound⟩ := ih h.next
      refine ⟨c :: before, by rw [List.cons_append, ← hs], ?_⟩
      rw [Text.byteLength_cons, ← Nat.add_assoc, ← hfound]
      congr 1
      omega
    · -- The offset lies in the first character, which is then not in ASCII.
      have hzero : i + 1 - c.utf8Size = 0 := by omega
      have hwide : Text.isAscii c = false := by
        cases hc : Text.isAscii c with
        | false => rfl
        | true =>
          rw [utf8Size_of_isAscii hc] at hle
          omega
      refine ⟨[c], by rw [hzero, Text.fromByte]; rfl, ?_⟩
      rw [h.over hf hwide (by omega)]
      rfl

/-- **The closing tag that is found**, from any offset on: the first one that is one too many
in the reading of the text. -/
theorem matchingClose_of_isReading {name text before s : Text} {ps : List Tag.Passage}
    (htext : text = before ++ s) (h : Tag.IsReading name s ps) :
    matchingClose text.utf8 name.utf8 1 (Text.byteLength before) =
      some ((Tag.firstExcess 0 ps).map fun (body, tag, _) =>
        (Text.byteLength before + Text.byteLength (Tag.passagesText body),
          Text.byteLength before + Text.byteLength (Tag.passagesText body) +
            Text.byteLength tag)) := by
  have hat : Text.atByte? (Text.byteLength before) text = some s := by
    rw [htext]
    exact Text.atByte?_byteLength before s
  rw [matchingClose_contents name (Reads.of_atByte? hat), Tag.contents?,
    Tag.contentsFrom?_reading h, Option.map_map]
  rfl

/-- The offsets of an element whose opening tag stands between two offsets, with the attributes
`region`, the contents `body` and the closing tag `close`. -/
def pairedMatch (name region body close : Text) (start bodyStart : Nat) : TagMatch where
  name := name
  start := start
  stop := bodyStart + Text.byteLength body + Text.byteLength close
  attributes := (start + 1 + Text.byteLength name,
    start + 1 + Text.byteLength name + Text.byteLength region)
  body := some (bodyStart, bodyStart + Text.byteLength body)

/-- What the scan finds at an opening tag that is accepted and left open. -/
theorem scan_of_isReading {name text before front region s : Text} {accept : Text → Bool}
    {ps : List Tag.Passage} (hname : Tag.isName name = true) (haccept : accept name = true)
    (hbefore : before = front ++ ('<' :: name ++ region ++ ['>'])) (htext : text = before ++ s)
    (hregion : Tag.IsRegion region s) (hopen : Tag.slash? region = none)
    (hread : Tag.IsReading name s ps) :
    scan text accept (Text.byteLength front) =
      match Tag.firstExcess 0 ps with
      | none => some (.unmatched name (Text.byteLength front) (Text.byteLength before))
      | some (body, tag, _) =>
        some (.found (pairedMatch name region (Tag.passagesText body) tag (Text.byteLength front)
          (Text.byteLength before))) := by
  have hsource : text = front ++ ('<' :: name ++ region ++ '>' :: s) := by
    rw [htext, hbefore]
    simp
  have hlen : Text.byteLength before =
      Text.byteLength front + 1 + Text.byteLength name + Text.byteLength region + 1 := by
    rw [hbefore]
    simp [show '<'.utf8Size = 1 from rfl, show '>'.utf8Size = 1 from rfl]
    omega
  have hat : Text.atByte? (Text.byteLength front) text =
      some ('<' :: (name ++ (region ++ '>' :: s))) := by
    rw [hsource, Text.atByte?_byteLength]
    simp
  rw [scan_eq accept hat, Scan.next_angle, Tag.name?_of_isName hname hregion.boundary]
  simp only [haccept, if_true, Scan.atName, hregion.ends, hopen, Tag.contents?,
    Tag.contentsFrom?_reading hread]
  cases Tag.firstExcess 0 ps with
  | none =>
    simp [Outcome.of, hlen, show '<'.utf8Size = 1 from rfl, show '>'.utf8Size = 1 from rfl]
    omega
  | some found =>
    obtain ⟨body, tag, after⟩ := found
    simp [Outcome.of, pairedMatch, Location.tagMatch, Element.locate, Element.text,
      Element.opening, Element.isSelfClosing, Element.body, hlen, show '<'.utf8Size = 1 from rfl,
      show '>'.utf8Size = 1 from rfl]
    omega

/-- **An element ends at the first closing tag that is one too many.**  Read the text behind an
offset as its closing tags, its opening tags that are left open, and what else there is: there
is one such reading.  The search for the closing tag finds the first closing tag with which
there are more closing tags than opening tags, so what it encloses is balanced.  It finds
nothing exactly if there is no such closing tag, and then the scan reports the opening tag in
front as unmatched. -/
theorem matchingClose_reading (name text : Text) (i : Nat) :
    ∃ before ps,
      text = before ++ Text.fromByte i text ∧
      (∀ qs, Tag.IsReading name (Text.fromByte i text) qs ↔ qs = ps) ∧
      (∀ start stop, matchingClose text.utf8 name.utf8 1 i = some (some (start, stop)) ↔
        ∃ body tag, Tag.IsFirstExcess ps body tag ∧
          start = Text.byteLength before + Text.byteLength (Tag.passagesText body) ∧
          stop = start + Text.byteLength tag) ∧
      (∀ body tag, Tag.IsFirstExcess ps body tag → Tag.opens body = Tag.closes body ∧
        ∀ q, q <+: body → Tag.closes q ≤ Tag.opens q) ∧
      (matchingClose text.utf8 name.utf8 1 i = some none ↔
        ∀ body tag, ¬ Tag.IsExcess ps body tag) ∧
      (∀ (accept : Text → Bool) (front region : Text), Tag.isName name = true →
        accept name = true → before = front ++ ('<' :: name ++ region ++ ['>']) →
        Tag.IsRegion region (Text.fromByte i text) → Tag.slash? region = none →
        (scan text accept (Text.byteLength front) =
            some (.unmatched name (Text.byteLength front) (Text.byteLength before)) ↔
          ∀ body tag, ¬ Tag.IsExcess ps body tag) ∧
        ∀ body tag, Tag.IsFirstExcess ps body tag →
          scan text accept (Text.byteLength front) =
            some (.found (pairedMatch name region (Tag.passagesText body) tag
              (Text.byteLength front) (Text.byteLength before)))) := by
  obtain ⟨before, htext, hoffset⟩ := search_fromByte (i := i)
    (f := matchingClose text.utf8 name.utf8 1) (fun _ _ => matchingClose_wide)
    (fun j k hj hk => by rw [matchingClose_of_none hj, matchingClose_of_none hk])
    (Reads.of_atByte? (Text.atByte?_zero text))
  obtain ⟨ps, hps⟩ := Tag.exists_isReading name (Text.fromByte i text)
  have hread : Tag.IsReading name (Text.fromByte i text) ps := (hps ps).2 rfl
  have hclose := matchingClose_of_isReading htext hread
  rw [Nat.zero_add, Nat.zero_add] at hoffset
  rw [← hoffset] at hclose
  refine ⟨before, ps, htext, hps, ?_, fun _ _ h => h.balanced, ?_, ?_⟩
  · intro start stop
    simp only [hclose, Tag.isFirstExcess_iff, Option.some.injEq, Option.map_eq_some_iff,
      Prod.exists, Prod.mk.injEq]
    constructor
    · rintro ⟨body, tag, after, hfound, rfl, rfl⟩
      exact ⟨body, tag, ⟨after, hfound⟩, rfl, rfl⟩
    · rintro ⟨body, tag, ⟨after, hfound⟩, rfl, rfl⟩
      exact ⟨body, tag, after, hfound, rfl, rfl⟩
  · rw [hclose, ← Tag.firstExcess_eq_none_iff]
    simp
  · intro accept front region hname haccept hbefore hregion hopen
    have hscan := scan_of_isReading hname haccept hbefore htext hregion hopen hread
    constructor
    · rw [hscan, ← Tag.firstExcess_eq_none_iff]
      cases Tag.firstExcess 0 ps with
      | none => simp
      | some found => simp
    · intro body tag hfirst
      obtain ⟨after, hfound⟩ := Tag.isFirstExcess_iff.1 hfirst
      rw [hscan, hfound]

/-- `<A>x<A k="</A>"/></A>`. -/
def nestedText : Text :=
  ['<', 'A', '>', 'x', '<', 'A', ' ', 'k', '=', '"', '<', '/', 'A', '>', '"', '/', '>',
    '<', '/', 'A', '>']

/-- The nested tag is closed at once, and the quoted one lies in its attributes. -/
theorem matchingClose_reading_nested :
    Tag.isName ['A'] = true ∧ Tag.IsRegion [] (Text.fromByte 3 nestedText) ∧
      Tag.slash? [] = none ∧
      scan nestedText (· == ['A']) 0 = some (.found
        { name := ['A'], start := 0, stop := 21, attributes := (2, 2), body := some (3, 17) }) := by
  have hregion : Tag.IsRegion [] (Text.fromByte 3 nestedText) :=
    ⟨by decide +kernel, by decide +kernel⟩
  obtain ⟨before, ps, htext, hps, -, -, -, hscan⟩ := matchingClose_reading ['A'] nestedText 3
  have hread : Tag.IsReading ['A'] (Text.fromByte 3 nestedText)
      [.other ['x'], .other ['<', 'A', ' ', 'k', '=', '"', '<', '/', 'A', '>', '"', '/', '>'],
        .closing ['<', '/', 'A', '>']] :=
    ⟨nestedText.drop 4, Tag.starts_of_passage? (by decide +kernel), nestedText.drop 17,
      Tag.starts_of_passage? (by decide +kernel), [], Tag.starts_of_passage? (by decide +kernel),
      rfl⟩
  have hbefore : before = [] ++ ('<' :: ['A'] ++ [] ++ ['>']) :=
    List.append_cancel_right (htext.symm.trans (by decide +kernel))
  obtain ⟨-, hfound⟩ := hscan (· == ['A']) [] [] (by decide) (by decide) hbefore hregion (by decide)
  rw [← (hps _).1 hread] at hfound
  refine ⟨by decide, hregion, by decide, ?_⟩
  rw [hbefore] at hfound
  exact hfound _ _ (Tag.isFirstExcess_iff.2 ⟨_, rfl⟩)

end Cursor
end Componentry
