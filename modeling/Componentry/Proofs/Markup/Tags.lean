import Componentry.Proofs.Markup.Attributes

/-! # Written tags are found and stepped over

Tags met by the two searches over markup:

* `Scan.next_closed`, `Scan.next_paired`: a tag that is looked for is found, with its
  name, its attributes and its contents, if the scan for its end steps over the
  attributes and that for its closing tag over the contents.  `Scan.next_singleTag`,
  `Scan.next_element` say so of the tags that `Markup.source` writes;
* `Tag.skips_singleTag`, `Tag.skips_element`: a search for a closing tag steps
  over whole elements, also over those of the same name, whose opening and closing
  tags it counts.

All of them hold whatever text follows.
-/
namespace Componentry

namespace Tag

/-! ## Names -/

/-- Whether a text can be the name of a tag. -/
def isName : Text → Bool
  | [] => false
  | c :: s => isNameStart c && s.all isNameChar

theorem isName_cons {name : Text} (h : isName name = true) :
    ∃ c s, name = c :: s ∧ isNameStart c = true ∧ ∀ d ∈ c :: s, isNameChar d = true := by
  cases name with
  | nil => cases h
  | cons c s =>
    simp only [isName, Bool.and_eq_true] at h
    refine ⟨c, s, rfl, h.1, ?_⟩
    intro d hd
    rcases List.mem_cons.1 hd with rfl | hd
    · exact isNameChar_of_isNameStart h.1
    · exact List.all_eq_true.1 h.2 d hd

theorem isName_chars {name : Text} (h : isName name = true) :
    ∀ c ∈ name, isNameChar c = true := by
  obtain ⟨c, s, rfl, -, hall⟩ := isName_cons h
  exact hall

theorem isNameChar_ne {c : Char} (h : isNameChar c = true) :
    c ≠ '<' ∧ c ≠ '{' ∧ c ≠ '/' ∧ c ≠ '>' ∧ Text.isBlank c = false := by
  have hne : ∀ d, isNameChar d = false → c ≠ d := by
    rintro d hd rfl
    exact absurd (h.symm.trans hd) (by decide)
  refine ⟨hne _ (by decide), hne _ (by decide), hne _ (by decide), hne _ (by decide), ?_⟩
  simp only [Text.isBlank, Bool.or_eq_false_iff, decide_eq_false_iff_not]
  exact ⟨⟨⟨⟨hne _ (by decide), hne _ (by decide)⟩, hne _ (by decide)⟩, hne _ (by decide)⟩,
    hne _ (by decide)⟩

/-- A component's name starts like the name of a tag. -/
theorem isNameStart_of_isUpper {c : Char} (h : Text.isUpper c = true) : isNameStart c = true := by
  unfold Text.isUpper at h
  split at h
  · simp [isNameStart, Text.isAsciiLetter, h]
  · rename_i hc
    simp [isNameStart, Text.isAscii, hc]

theorem isName_of_isComponentName {name : Text} (h : isComponentName name = true)
    (hchars : name.all isNameChar = true) : isName name = true := by
  cases name with
  | nil => cases h
  | cons c s =>
    simp only [List.all_cons, Bool.and_eq_true] at hchars
    simp only [isName, Bool.and_eq_true]
    exact ⟨isNameStart_of_isUpper h, hchars.2⟩

theorem isName_of_isTag {r : Registry} {name : Text} {attributes : List (Text × Operand)}
    (h : r.isTag name attributes = true) : isName name = true := by
  simp only [Registry.isTag, Registry.invokes, Bool.and_eq_true] at h
  exact isName_of_isComponentName h.1.1.1 h.1.2

theorem atBoundary_isNameChar {c : Char} {s : Text} (h : atBoundary (c :: s) = true) :
    isNameChar c = false := by
  cases hc : isNameChar c with
  | false => rfl
  | true =>
    obtain ⟨-, -, h₁, h₂, h₃⟩ := isNameChar_ne hc
    simp [atBoundary, h₁, h₂, h₃] at h

/-- A name is as long as the run of its characters. -/
theorem name_unique {name name' s s' : Text} (h : ∀ c ∈ name, isNameChar c = true)
    (h' : ∀ c ∈ name', isNameChar c = true) (hs : ∀ c ∈ s.head?, isNameChar c = false)
    (hs' : ∀ c ∈ s'.head?, isNameChar c = false) (heq : name ++ s = name' ++ s') :
    name = name' := by
  have htake : ∀ {n t : Text}, (∀ c ∈ n, isNameChar c = true) →
      (∀ c ∈ t.head?, isNameChar c = false) → (n ++ t).takeWhile isNameChar = n := by
    intro n t hn ht
    cases t with
    | nil => rw [List.takeWhile_append_of_pos hn, List.takeWhile_nil, List.append_nil]
    | cons c t => exact Attribute.takeWhile_append_cons hn (ht c rfl)
  rw [← htake h hs, heq, htake h' hs']

/-- The name of a tag is read back. -/
theorem name?_of_isName {name s : Text} (h : isName name = true) (hs : atBoundary s = true) :
    name? (name ++ s) = some (name, s) := by
  obtain ⟨c, n, rfl, hc, hall⟩ := isName_cons h
  have hn : ∀ d ∈ n, isNameChar d = true := fun d hd => hall d (by simp [hd])
  cases s with
  | nil => cases hs
  | cons b s =>
    have hb := atBoundary_isNameChar hs
    rw [List.cons_append, name?, if_pos hc]
    simp only [Attribute.takeWhile_append_cons hn hb, Attribute.dropWhile_append_cons hn hb, hs,
      if_true]

/-! ## What follows a name -/

theorem atBoundary_attributesSource (attributes : List (Text × Operand)) {s : Text}
    (hs : atBoundary s = true) : atBoundary (attributesSource attributes ++ s) = true := by
  cases attributes with
  | nil => exact hs
  | cons a attributes =>
    obtain ⟨key, value⟩ := a
    cases value with
    | text v => rfl
    | var x => rfl

theorem atBoundary_append {s : Text} (h : atBoundary s = true) (t : Text) :
    atBoundary (s ++ t) = true := by
  cases s with
  | nil => cases h
  | cons c s => exact h

theorem atBoundary_head {s : Text} (h : atBoundary s = true) :
    ∀ c ∈ s.head?, isNameChar c = false := by
  cases s with
  | nil => cases h
  | cons b s =>
    intro c hc
    cases hc
    exact atBoundary_isNameChar h

/-- The tag of another name is no opening tag of this one. -/
theorem sameOpening?_ne {name other s : Text} (hname : isName name = true)
    (hother : isName other = true) (hne : other ≠ name) (hs : atBoundary s = true) :
    sameOpening? name ('<' :: other ++ s) = none := by
  unfold sameOpening?
  split
  · rfl
  · rename_i t ht
    have heq := Text.dropPrefix?_eq_some.1 ht
    simp only [List.cons_append, List.cons.injEq, true_and] at heq
    split
    · rename_i hb
      exact absurd (name_unique (isName_chars hother) (isName_chars hname) (atBoundary_head hs)
        (atBoundary_head hb) heq) hne
    · rfl

/-- The closing tag of another name does not close an element of this one. -/
theorem closing?_ne {name other : Text} (hname : isName name = true)
    (hother : isName other = true) (hne : other ≠ name) (rest : Text) :
    closing? name (closingTag other ++ rest) = none := by
  unfold closing?
  split
  · rfl
  · rename_i t ht
    have heq := Text.dropPrefix?_eq_some.1 ht
    simp only [closingTag, List.cons_append, List.append_assoc, List.cons.injEq, true_and,
      List.nil_append] at heq
    split
    · rename_i r hr
      have hhead : ∀ c ∈ t.head?, isNameChar c = false := by
        intro c hc
        cases t with
        | nil => cases hc
        | cons b t =>
          cases hc
          cases hbn : isNameChar c with
          | false => rfl
          | true =>
            obtain ⟨-, -, -, h₁, h₂⟩ := isNameChar_ne hbn
            rw [List.dropWhile_cons_of_neg (by simp [h₂])] at hr
            exact absurd (List.cons.inj hr).1 h₁
      exact absurd (name_unique (isName_chars hother) (isName_chars hname) (by simp; decide) hhead
        heq) hne
    · rfl

theorem closing?_self (name rest : Text) :
    closing? name (closingTag name ++ rest) = some (closingTag name, rest) := by
  have hpre : Text.dropPrefix? ('<' :: '/' :: name) (closingTag name ++ rest) =
      some ('>' :: rest) := Text.dropPrefix?_eq_some.2 (by simp [closingTag])
  have hb : ¬ Text.isBlank '>' = true := by decide
  rw [closing?, hpre]
  simp [List.dropWhile_cons_of_neg hb, List.takeWhile_cons_of_neg hb, closingTag]

/-- An opening tag closes nothing. -/
theorem closing?_opening (name : Text) {other s : Text} (hother : isName other = true) :
    closing? name ('<' :: other ++ s) = none := by
  obtain ⟨c, n, rfl, -, hall⟩ := isName_cons hother
  have hc := (isNameChar_ne (hall c (by simp))).2.2.1
  simp [closing?, Text.dropPrefix?, Ne.symm hc]

/-- A closing tag opens nothing. -/
theorem sameOpening?_closing {name s : Text} (hname : isName name = true) :
    sameOpening? name ('<' :: '/' :: s) = none := by
  obtain ⟨c, n, rfl, -, hall⟩ := isName_cons hname
  have hc := (isNameChar_ne (hall c (by simp))).2.2.1
  simp [sameOpening?, Text.dropPrefix?, hc]

/-! ## The search for a closing tag -/

/-- The search for a closing tag of `name`, with `depth` elements of that name
open. -/
def contentsSearch (name : Text) (depth : Nat) : Search (Option (Text × Text × Text)) where
  run := contentsFrom? name depth
  under w := Option.map (Prod.map (w ++ ·) id)
  under_nil b := by cases b <;> simp [Prod.map]
  under_append v w b := by cases b <;> simp [Prod.map]
  run_block {s block rest} h := by
    cases s with
    | nil => simp [Block.cut?, Block.opening?] at h
    | cons c s =>
      rw [contentsFrom?]
      split
      · rename_i h'
        rw [h] at h'
        cases h'
        rfl
      · rename_i h'
        rw [h] at h'
        cases h'
  run_char {c s} hc hb := by
    rw [contentsFrom?]
    split
    · rename_i h'
      rw [hb] at h'
      cases h'
    · rw [if_neg hc]
      rfl

/-- Every search for a closing tag of `name` steps over `w`. -/
def Passes (name w : Text) : Prop := ∀ depth, (contentsSearch name depth).Skips w

theorem Passes.append {name v w : Text} (hv : Passes name v) (hw : Passes name w) :
    Passes name (v ++ w) := fun depth => (hv depth).append (hw depth)

/-- What the search does at `<`, which starts no block. -/
theorem contentsFrom?_angle (name : Text) (depth : Nat) (s : Text) :
    contentsFrom? name depth ('<' :: s) =
      match closing? name ('<' :: s) with
      | some (close, rest) =>
        match depth with
        | 0 => some ([], close, rest)
        | d + 1 => (contentsFrom? name d rest).map (Prod.map (close ++ ·) id)
      | none =>
        match sameOpening? name ('<' :: s) with
        | some (tag, closed, rest) =>
          (contentsFrom? name (if closed then depth else depth + 1) rest).map
            (Prod.map (tag ++ ·) id)
        | none => (contentsFrom? name depth s).map (Prod.map ('<' :: ·) id) := by
  rw [contentsFrom?]
  split
  · rename_i h'
    rw [Block.cut?_eq_none_of_ne (by decide)] at h'
    cases h'
  · rw [if_pos rfl]
    split
    · rename_i h
      cases depth <;> simp [h]
    · rename_i h
      simp only [h]
      split
      · rename_i h'
        simp [h']
      · rename_i h'
        simp [h']

/-- The contents end at their own closing tag. -/
theorem contents?_of_passes {name body : Text} (h : Passes name body) (rest : Text) :
    contents? name (body ++ closingTag name ++ rest) = some (body, closingTag name, rest) := by
  have hstep := h 0 (closingTag name ++ rest)
  have hclose : contentsFrom? name 0 (closingTag name ++ rest) =
      some ([], closingTag name, rest) := by
    have hself := closing?_self name rest
    rw [closingTag, List.cons_append, List.cons_append, contentsFrom?_angle,
      ← List.cons_append, ← List.cons_append, ← closingTag, hself]
  rw [contents?, List.append_assoc]
  refine hstep.trans ?_
  simp only [contentsSearch, hclose]
  simp [Prod.map]

/-! ## Elements are stepped over -/

theorem skips_attributesSource {β : Type} {S : Search β} {attributes : List (Text × Operand)}
    (h : attributes.all Operand.isWellFormed = true) : S.Skips (attributesSource attributes) := by
  induction attributes with
  | nil => exact .nil
  | cons a attributes ih =>
    simp only [List.all_cons, Bool.and_eq_true] at h
    rw [attributesSource, List.flatMap_cons]
    refine Search.Skips.append ?_ (ih h.2)
    obtain ⟨c, s, hkey, hall⟩ := Operand.isWellFormed_key h.1
    have hstart : S.Skips (' ' :: a.1 ++ ['=']) := by
      refine .chars fun d hd => ?_
      simp only [List.cons_append, List.mem_cons, List.mem_append, List.not_mem_nil, or_false,
        hkey] at hd
      rcases hd with rfl | rfl | hd | rfl
      · decide
      · exact ⟨(hall d (by simp)).2, (Attribute.isKeyChar_ne (hall d (by simp)).1).2.1⟩
      · exact ⟨(hall d (by simp [hd])).2, (Attribute.isKeyChar_ne (hall d (by simp [hd])).1).2.1⟩
      · decide
    obtain ⟨key, value⟩ := a
    cases value with
    | text v =>
      have hv : S.Skips ('"' :: v ++ ['"']) := by
        refine .chars fun d hd => ?_
        simp only [List.cons_append, List.mem_cons, List.mem_append, List.not_mem_nil,
          or_false] at hd
        rcases hd with rfl | hd | rfl
        · decide
        · exact (Operand.isWellFormed_text h.1 d hd).2
        · decide
      simpa [Operand.attributeSource] using hstart.append hv
    | var x =>
      obtain ⟨d, t, rfl, -, hident⟩ := isIdentifier_cons (Operand.isWellFormed_var h.1)
      have hx : S.Skips (d :: t ++ ['}']) := by
        refine Search.Skips.append (.chars fun e he => ?_) (.char (by decide) (by decide))
        have hne := Block.isIdentChar_ne (hident e he)
        exact ⟨hne.2.2.2.2.2.1, hne.2.2.1⟩
      have hbrace := Search.Skips.brace (hident d (by simp)) hx
      simpa [Operand.attributeSource] using hstart.append hbrace

theorem skips_name {β : Type} {S : Search β} {name : Text}
    (h : ∀ c ∈ name, isNameChar c = true) : S.Skips name :=
  .chars fun c hc => ⟨(isNameChar_ne (h c hc)).1, (isNameChar_ne (h c hc)).2.1⟩

/-- The rest of an opening tag behind `<`. -/
theorem skips_tagRest {β : Type} {S : Search β} {name : Text}
    {attributes : List (Text × Operand)} (hname : isName name = true)
    (h : attributes.all Operand.isWellFormed = true) :
    S.Skips (name ++ attributesSource attributes ++ ['>']) ∧
      S.Skips (name ++ attributesSource attributes ++ ['/', '>']) := by
  have hstart := (skips_name (S := S) (isName_chars hname)).append (skips_attributesSource h)
  exact ⟨hstart.append (.text (by decide)), hstart.append (.text (by decide))⟩

theorem sameOpening?_openingTag (name : Text) {attributes : List (Text × Operand)}
    (h : attributes.all Operand.isWellFormed = true) (rest : Text) :
    sameOpening? name (openingTag name attributes ++ rest) =
      some (openingTag name attributes, false, rest) := by
  have hpre : Text.dropPrefix? ('<' :: name) (openingTag name attributes ++ rest) =
      some (attributesSource attributes ++ '>' :: rest) :=
    Text.dropPrefix?_eq_some.2 (by simp [openingTag])
  rw [sameOpening?, hpre]
  simp [atBoundary_attributesSource attributes (s := '>' :: rest) rfl,
    attributes?_of_spans (spans_attributesSource (Operand.all_isReadable h)), slash?_attributesSource,
    openingTag]

theorem sameOpening?_singleTag (name : Text) {attributes : List (Text × Operand)}
    (h : attributes.all Operand.isWellFormed = true) (rest : Text) :
    sameOpening? name (singleTag name attributes ++ rest) =
      some (singleTag name attributes, true, rest) := by
  have hpre : Text.dropPrefix? ('<' :: name) (singleTag name attributes ++ rest) =
      some (attributesSource attributes ++ '/' :: '>' :: rest) :=
    Text.dropPrefix?_eq_some.2 (by simp [singleTag])
  have hspans : Spans (attributesSource attributes ++ ['/']) :=
    (spans_attributesSource (Operand.all_isReadable h)).append (.fixed (by decide))
  have hattr := attributes?_of_spans hspans rest
  rw [List.append_assoc, List.singleton_append] at hattr
  rw [sameOpening?, hpre]
  simp [atBoundary_attributesSource attributes (s := '/' :: '>' :: rest) rfl, hattr,
    slash?_append_slash, singleTag]

/-- A tag that the search neither counts nor stops at. -/
theorem Passes.angle {name w : Text} (h₁ : ∀ rest, closing? name ('<' :: w ++ rest) = none)
    (h₂ : ∀ rest, sameOpening? name ('<' :: w ++ rest) = none) (hw : Passes name w) :
    Passes name ('<' :: w) := by
  intro depth rest
  have hc := h₁ rest
  have ho := h₂ rest
  have hstep := hw depth rest
  simp only [contentsSearch, List.cons_append] at *
  rw [contentsFrom?_angle, hc, ho]
  simp only [hstep, Option.map_map]
  rfl

/-- **A tag that closes itself is stepped over**, whatever its name. -/
theorem passes_singleTag {name other : Text} {attributes : List (Text × Operand)}
    (hname : isName name = true) (hother : isName other = true)
    (h : attributes.all Operand.isWellFormed = true) : Passes name (singleTag other attributes) := by
  have hopen : singleTag other attributes =
      '<' :: (other ++ attributesSource attributes ++ ['/', '>']) := by simp [singleTag]
  have hclose : ∀ rest, closing? name (singleTag other attributes ++ rest) = none := by
    intro rest
    simpa [singleTag] using closing?_opening name
      (s := attributesSource attributes ++ '/' :: '>' :: rest) hother
  by_cases hne : other = name
  · subst hne
    intro depth rest
    have ho := sameOpening?_singleTag other h rest
    have hc := hclose rest
    simp only [hopen, contentsSearch, List.cons_append] at *
    rw [contentsFrom?_angle, hc, ho]
    rfl
  · rw [hopen]
    refine Passes.angle ?_ ?_ fun depth => (skips_tagRest hother h).2
    · intro rest
      rw [← hopen]
      exact hclose rest
    · intro rest
      have hb := atBoundary_attributesSource attributes (s := '/' :: '>' :: rest) rfl
      simpa using sameOpening?_ne hname hother hne hb

/-- A closing tag of another name is stepped over. -/
theorem passes_closingTag {name other : Text} (hname : isName name = true)
    (hother : isName other = true) (hne : other ≠ name) : Passes name (closingTag other) := by
  refine Passes.angle (fun rest => closing?_ne hname hother hne rest) ?_ ?_
  · intro rest
    exact sameOpening?_closing hname
  · intro depth
    have hall := isName_chars hother
    refine Search.Skips.append (v := ['/']) (.char (by decide) (by decide)) ?_
    exact (skips_name hall).append (.text (by decide))

/-- **An element is stepped over if its contents are**, whatever its name. -/
theorem passes_element {name other body : Text} {attributes : List (Text × Operand)}
    (hname : isName name = true) (hother : isName other = true)
    (h : attributes.all Operand.isWellFormed = true) (hbody : Passes name body) :
    Passes name (openingTag other attributes ++ body ++ closingTag other) := by
  have hopen : openingTag other attributes =
      '<' :: (other ++ attributesSource attributes ++ ['>']) := by simp [openingTag]
  have hnoclose : ∀ rest, closing? name (openingTag other attributes ++ rest) = none := by
    intro rest
    simpa [openingTag] using closing?_opening name
      (s := attributesSource attributes ++ '>' :: rest) hother
  by_cases hne : other = name
  · -- The search counts the opening tag, steps over the contents one level deeper, and
    -- counts the closing tag.
    subst hne
    intro depth rest
    have ho := sameOpening?_openingTag other h (body ++ (closingTag other ++ rest))
    have hc := hnoclose (body ++ (closingTag other ++ rest))
    have hstep := hbody (depth + 1) (closingTag other ++ rest)
    have hself := closing?_self other rest
    have hend : contentsFrom? other (depth + 1) (closingTag other ++ rest) =
        (contentsFrom? other depth rest).map (Prod.map (closingTag other ++ ·) id) := by
      simp only [closingTag, List.cons_append] at *
      rw [contentsFrom?_angle, hself]
      rfl
    have hopened : contentsFrom? other depth (openingTag other attributes ++
        (body ++ (closingTag other ++ rest))) =
        (contentsFrom? other (depth + 1) (body ++ (closingTag other ++ rest))).map
          (Prod.map (openingTag other attributes ++ ·) id) := by
      simp only [hopen, List.cons_append] at *
      rw [contentsFrom?_angle, hc, ho]
      rfl
    simp only [contentsSearch, List.append_assoc] at *
    rw [hopened, hstep, hend, Option.map_map, Option.map_map]
    congr 1
  · refine Passes.append (Passes.append ?_ hbody) ?_
    · rw [hopen]
      refine Passes.angle ?_ ?_ fun depth => (skips_tagRest hother h).1
      · intro rest
        rw [← hopen]
        exact hnoclose rest
      · intro rest
        have hb := atBoundary_attributesSource attributes (s := '>' :: rest) rfl
        simpa using sameOpening?_ne hname hother hne hb
    · exact passes_closingTag hname hother hne

end Tag

/-! ## The scan for elements -/

namespace Scan

theorem under_nil (b : Scan) : b.under [] = b := by cases b <;> rfl

theorem under_append (v w : Text) (b : Scan) : b.under (v ++ w) = (b.under w).under v := by
  cases b <;> simp [under]

/-- The scan for elements with an accepted name. -/
def search (accept : Text → Bool) : Search Scan where
  run := next accept
  under w b := b.under w
  under_nil := under_nil
  under_append := under_append
  run_block {s block rest} h := by
    cases s with
    | nil => simp [Block.cut?, Block.opening?] at h
    | cons c s =>
      rw [next]
      split
      · rename_i h'
        rw [h] at h'
        cases h'
        rfl
      · rename_i h'
        rw [h] at h'
        cases h'
  run_char {c s} hc hb := by
    rw [next]
    split
    · rename_i h'
      rw [hb] at h'
      cases h'
    · rw [if_neg hc]

/-- What the scan does at `<`, which starts no block. -/
theorem next_angle (accept : Text → Bool) (s : Text) :
    next accept ('<' :: s) =
      match Tag.name? s with
      | none => (next accept s).under ['<']
      | some (name, rest) =>
        if accept name then atName name rest else (next accept rest).under ('<' :: name) := by
  rw [next]
  split
  · rename_i h'
    rw [Block.cut?_eq_none_of_ne (by decide)] at h'
    cases h'
  · rw [if_pos rfl]
    split
    · rename_i h
      simp [h]
    · rename_i h
      simp [h]

variable {accept : Text → Bool} {name : Text} {attributes : List (Text × Operand)}

/-- A tag that closes itself is found, with any attributes that are stepped over. -/
theorem next_closed {region : Text} (hname : Tag.isName name = true) (hacc : accept name = true)
    (hb : Tag.atBoundary (region ++ ['/']) = true) (h : Tag.Spans region) (rest : Text) :
    next accept ('<' :: name ++ region ++ '/' :: '>' :: rest) =
      .found [] ⟨name, region, ['/', '>'], none⟩ rest := by
  have hspans : Tag.Spans (region ++ ['/']) := h.append (.fixed (by decide))
  have hattr := Tag.attributes?_of_spans hspans rest
  have hbound := Tag.atBoundary_append hb ('>' :: rest)
  rw [List.append_assoc, List.singleton_append] at hattr hbound
  rw [List.cons_append, List.cons_append, List.append_assoc, next_angle,
    Tag.name?_of_isName hname hbound]
  simp [hacc, atName, hattr, Tag.slash?_append_slash]

/-- A paired element is found, with any attributes that are stepped over and contents that
end at its closing tag. -/
theorem next_paired {region body : Text} (hname : Tag.isName name = true)
    (hacc : accept name = true) (hb : Tag.atBoundary (region ++ ['>']) = true)
    (h : Tag.Spans region) (hslash : Tag.slash? region = none) (hbody : Tag.Passes name body)
    (rest : Text) :
    next accept ('<' :: name ++ region ++ '>' :: (body ++ closingTag name ++ rest)) =
      .found [] ⟨name, region, ['>'], some (body, closingTag name)⟩ rest := by
  have hattr := Tag.attributes?_of_spans h (body ++ closingTag name ++ rest)
  have hbound := Tag.atBoundary_append hb (body ++ closingTag name ++ rest)
  rw [List.append_assoc, List.singleton_append] at hbound
  rw [List.cons_append, List.cons_append, List.append_assoc, next_angle,
    Tag.name?_of_isName hname hbound]
  simp only [hacc, if_true, atName, hattr, hslash, Tag.contents?_of_passes hbody]

/-- A written tag that closes itself is found. -/
theorem next_singleTag (hname : Tag.isName name = true) (hacc : accept name = true)
    (h : attributes.all Operand.isReadable = true) (rest : Text) :
    next accept (singleTag name attributes ++ rest) =
      .found [] ⟨name, attributesSource attributes, ['/', '>'], none⟩ rest := by
  have hnext := next_closed hname hacc (Tag.atBoundary_attributesSource attributes (s := ['/']) rfl)
    (Tag.spans_attributesSource h) rest
  simpa [singleTag] using hnext

/-- A written element is found, with its contents. -/
theorem next_element (hname : Tag.isName name = true) (hacc : accept name = true)
    (h : attributes.all Operand.isWellFormed = true) {body : Text} (hbody : Tag.Passes name body)
    (rest : Text) :
    next accept (openingTag name attributes ++ body ++ closingTag name ++ rest) =
      .found [] ⟨name, attributesSource attributes, ['>'], some (body, closingTag name)⟩ rest := by
  have hnext := next_paired hname hacc (Tag.atBoundary_attributesSource attributes (s := ['>']) rfl)
    (Tag.spans_attributesSource (Operand.all_isReadable h)) (Tag.slash?_attributesSource attributes)
    hbody rest
  simpa [openingTag] using hnext

/-- The opening tag of a name that is not accepted is stepped over. -/
theorem skips_openingTag (hname : Tag.isName name = true) (hacc : accept name = false)
    (h : attributes.all Operand.isWellFormed = true) :
    (search accept).Skips (openingTag name attributes) := by
  intro rest
  have hb := Tag.atBoundary_attributesSource attributes (s := '>' :: rest) rfl
  have hsource : openingTag name attributes ++ rest =
      '<' :: (name ++ (attributesSource attributes ++ '>' :: rest)) := by simp [openingTag]
  have hskip : (search accept).Skips (attributesSource attributes ++ ['>']) :=
    (Tag.skips_attributesSource h).append (.text (by decide))
  have hstep := hskip rest
  rw [List.append_assoc, List.singleton_append] at hstep
  simp only [search] at *
  rw [hsource, next_angle, Tag.name?_of_isName hname hb]
  simp only [hacc, Bool.false_eq_true, if_false, hstep]
  rw [← under_append]
  simp [openingTag]

/-- A closing tag is stepped over. -/
theorem skips_closingTag (hname : Tag.isName name = true) :
    (search accept).Skips (closingTag name) := by
  intro rest
  have hrest : (search accept).Skips ('/' :: name ++ ['>']) := by
    refine Search.Skips.append (.append (v := ['/']) (.char (by decide) (by decide)) ?_)
      (.text (by decide))
    exact Tag.skips_name (Tag.isName_chars hname)
  have hstep := hrest rest
  have hnone : Tag.name? ('/' :: name ++ ['>'] ++ rest) = none := by
    simp [Tag.name?, Tag.isNameStart, Text.isAsciiLetter, Text.isAscii]
  have hsource : closingTag name ++ rest = '<' :: ('/' :: name ++ ['>'] ++ rest) := by
    simp [closingTag]
  simp only [search] at *
  rw [hsource, next_angle, hnone]
  simp only [hstep]
  rw [← under_append]
  rfl

end Scan

end Componentry
