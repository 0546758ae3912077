import Componentry.Tag.Block

/-!
# Tags

The parts of a tag in markup, each cut off the start of a text:

* `Tag.name?`: the name behind `<`, which must be followed by a boundary;
* `Tag.attributes?`: everything up to the `>` that ends the opening tag, where
  quoted values, template blocks and braces hide a `>`;
* `Tag.slash?`: the `/` that closes a tag at once;
* `Tag.closing?`: a closing tag `</name>`;
* `Tag.contents?`: the contents of an element up to its own closing tag, with
  nested elements of the same name stepped over.

Each function returns the pieces it cut and the rest of the text, and the
`_append` lemmas say that together they are the text.
-/

namespace Componentry.Tag

/-! ## Names -/

/-- Whether a character may start a tag name. -/
def isNameStart (c : Char) : Bool := Text.isAsciiLetter c || !Text.isAscii c

/-- Whether a character may stand in a tag name. -/
def isNameChar (c : Char) : Bool :=
  Text.isAsciiLetter c || Text.isAsciiDigit c || !Text.isAscii c ||
    c = '_' || c = '.' || c = '-' || c = ':'

theorem isNameChar_of_isNameStart {c : Char} (h : isNameStart c = true) : isNameChar c = true := by
  simp only [isNameStart, isNameChar, Bool.or_eq_true] at *
  rcases h with h | h <;> simp [h]

/-- Whether a tag name may end before this text. -/
def atBoundary : Text → Bool
  | [] => false
  | c :: _ => Text.isBlank c || c = '>' || c = '/'

/-- The tag name that starts a text, if a boundary follows it, and the rest. -/
def name? : Text → Option (Text × Text)
  | [] => none
  | c :: s =>
    if isNameStart c then
      let rest := s.dropWhile isNameChar
      if atBoundary rest then some (c :: s.takeWhile isNameChar, rest) else none
    else none

theorem name?_append {s name rest : Text} (h : name? s = some (name, rest)) :
    name ++ rest = s := by
  cases s with
  | nil => simp [name?] at h
  | cons c s =>
    simp only [name?] at h
    split at h
    · split at h
      · cases h
        simp
      · cases h
    · cases h

theorem name?_length {s name rest : Text} (h : name? s = some (name, rest)) :
    rest.length < s.length := by
  cases s with
  | nil => simp [name?] at h
  | cons c s =>
    simp only [name?] at h
    split at h
    · split at h
      · cases h
        have := (List.dropWhile_sublist isNameChar (l := s)).length_le
        simp only [List.length_cons]
        omega
      · cases h
    · cases h

/-! ## The opening tag -/

/-- What stands before the `>` that ends an opening tag, and what follows it.
Inside a quoted value nothing else counts; outside of one, template blocks are
stepped over and a `>` between braces does not end the tag. -/
def attributesFrom? (quote : Option Char) (depth : Nat) (s : Text) : Option (Text × Text) :=
  match s with
  | [] => none
  | c :: t =>
    match quote with
    | some q =>
      (attributesFrom? (if c = q then none else some q) depth t).map (Prod.map (c :: ·) id)
    | none =>
      match h : Block.cut? (c :: t) with
      | some (block, rest) =>
        have : rest.length < (c :: t).length := Block.cut?_length h
        (attributesFrom? none depth rest).map (Prod.map (block ++ ·) id)
      | none =>
        if c = '>' && depth == 0 then some ([], t)
        else
          let quote' := if Block.isQuote c then some c else none
          let depth' :=
            if c = '{' then depth + 1 else if c = '}' then depth - 1 else depth
          (attributesFrom? quote' depth' t).map (Prod.map (c :: ·) id)
termination_by s.length
decreasing_by all_goals (simp only [List.length_cons] at *; omega)

/-- What stands before the `>` that ends an opening tag, and what follows it. -/
def attributes? (s : Text) : Option (Text × Text) := attributesFrom? none 0 s

theorem attributesFrom?_append {quote : Option Char} {depth : Nat} {s region rest : Text}
    (h : attributesFrom? quote depth s = some (region, rest)) :
    region ++ '>' :: rest = s := by
  fun_induction attributesFrom? quote depth s generalizing region with
  | case1 => simp at h
  | case2 depth c t q ih =>
    simp only [Option.map_eq_some_iff, Prod.exists, Prod.map, Prod.mk.injEq, id] at h
    obtain ⟨a, b, hab, rfl, rfl⟩ := h
    simp [ih hab]
  | case3 depth c t block rest' hb _ ih =>
    simp only [Option.map_eq_some_iff, Prod.exists, Prod.map, Prod.mk.injEq, id] at h
    obtain ⟨a, b, hab, rfl, rfl⟩ := h
    rw [← Block.cut?_append hb, ← ih hab]
    simp
  | case4 depth c t hb hc =>
    simp only [Bool.and_eq_true, decide_eq_true_eq] at hc
    cases h
    simp [hc.1]
  | case5 depth c t hb hc =>
    rename_i ih
    simp only [Option.map_eq_some_iff, Prod.exists, Prod.map, Prod.mk.injEq, id] at h
    obtain ⟨a, b, hab, rfl, rfl⟩ := h
    simp [ih hab]

/-- An opening tag is its attributes, `>`, and the rest follows. -/
theorem attributes?_append {s region rest : Text} (h : attributes? s = some (region, rest)) :
    region ++ '>' :: rest = s :=
  attributesFrom?_append h

/-- Cuts the `/` that closes a tag at once, with the blanks after it, off the
attributes. -/
def slash? (region : Text) : Option (Text × Text) :=
  match region.reverse.dropWhile Text.isBlank with
  | '/' :: attrs => some (attrs.reverse, '/' :: (region.reverse.takeWhile Text.isBlank).reverse)
  | _ => none

theorem slash?_append {region attrs tail : Text} (h : slash? region = some (attrs, tail)) :
    attrs ++ tail = region := by
  unfold slash? at h
  split at h
  · rename_i a ha
    cases h
    have happ := List.takeWhile_append_dropWhile (p := Text.isBlank) (l := region.reverse)
    rw [ha] at happ
    have hrev := congrArg List.reverse happ
    simpa using hrev
  · cases h

/-! ## The closing tag -/

/-- The closing tag of `name` that starts a text, and what follows it. -/
def closing? (name s : Text) : Option (Text × Text) :=
  match Text.dropPrefix? ('<' :: '/' :: name) s with
  | none => none
  | some t =>
    match t.dropWhile Text.isBlank with
    | '>' :: rest => some ('<' :: '/' :: name ++ t.takeWhile Text.isBlank ++ ['>'], rest)
    | _ => none

theorem closing?_append {name s close rest : Text} (h : closing? name s = some (close, rest)) :
    close ++ rest = s := by
  unfold closing? at h
  split at h
  · cases h
  · rename_i t ht
    split at h
    · rename_i r hr
      cases h
      have happ := List.takeWhile_append_dropWhile (p := Text.isBlank) (l := t)
      rw [hr] at happ
      rw [Text.dropPrefix?_eq_some.1 ht, List.append_assoc, List.append_assoc]
      exact congrArg _ happ
    · cases h

theorem closing?_length {name s close rest : Text} (h : closing? name s = some (close, rest)) :
    rest.length < s.length := by
  have happ := closing?_append h
  have hpos : 0 < close.length := by
    unfold closing? at h
    split at h
    · cases h
    · split at h
      · cases h
        simp
      · cases h
  rw [← happ, List.length_append]
  omega

/-- The opening tag of `name` that starts a text, whether it is closed at once,
and what follows it. -/
def sameOpening? (name s : Text) : Option (Text × Bool × Text) :=
  match Text.dropPrefix? ('<' :: name) s with
  | none => none
  | some t =>
    if atBoundary t then
      (attributes? t).map fun (region, rest) =>
        ('<' :: name ++ region ++ ['>'], (slash? region).isSome, rest)
    else none

theorem sameOpening?_append {name s tag rest : Text} {closed : Bool}
    (h : sameOpening? name s = some (tag, closed, rest)) : tag ++ rest = s := by
  unfold sameOpening? at h
  split at h
  · cases h
  · rename_i t ht
    split at h
    · simp only [Option.map_eq_some_iff, Prod.exists, Prod.mk.injEq] at h
      obtain ⟨region, r, hr, rfl, -, rfl⟩ := h
      rw [Text.dropPrefix?_eq_some.1 ht, ← attributes?_append hr]
      simp
    · cases h

theorem sameOpening?_length {name s tag rest : Text} {closed : Bool}
    (h : sameOpening? name s = some (tag, closed, rest)) : rest.length < s.length := by
  have happ := sameOpening?_append h
  have hpos : 0 < tag.length := by
    unfold sameOpening? at h
    split at h
    · cases h
    · split at h
      · simp only [Option.map_eq_some_iff, Prod.exists, Prod.mk.injEq] at h
        obtain ⟨region, r, -, rfl, -, -⟩ := h
        simp
      · cases h
  rw [← happ, List.length_append]
  omega

/-- The contents of an element called `name`, its closing tag, and what follows
it.  `depth` nested elements of the same name are open; template blocks hide
tags, and tags of other names do not count. -/
def contentsFrom? (name : Text) (depth : Nat) (s : Text) : Option (Text × Text × Text) :=
  match s with
  | [] => none
  | c :: t =>
    match h : Block.cut? (c :: t) with
    | some (block, rest) =>
      have : rest.length < (c :: t).length := Block.cut?_length h
      (contentsFrom? name depth rest).map (Prod.map (block ++ ·) id)
    | none =>
      if c = '<' then
        match h₁ : closing? name (c :: t) with
        | some (close, rest) =>
          have : rest.length < (c :: t).length := closing?_length h₁
          match depth with
          | 0 => some ([], close, rest)
          | d + 1 => (contentsFrom? name d rest).map (Prod.map (close ++ ·) id)
        | none =>
          match h₂ : sameOpening? name (c :: t) with
          | some (tag, closed, rest) =>
            have : rest.length < (c :: t).length := sameOpening?_length h₂
            (contentsFrom? name (if closed then depth else depth + 1) rest).map
              (Prod.map (tag ++ ·) id)
          | none => (contentsFrom? name depth t).map (Prod.map (c :: ·) id)
      else (contentsFrom? name depth t).map (Prod.map (c :: ·) id)
termination_by s.length
decreasing_by all_goals (simp only [List.length_cons] at *; omega)

/-- The contents of an element called `name` whose opening tag has just been
read, its closing tag, and what follows it. -/
def contents? (name s : Text) : Option (Text × Text × Text) := contentsFrom? name 0 s

theorem contentsFrom?_append {name s body close rest : Text} {depth : Nat}
    (h : contentsFrom? name depth s = some (body, close, rest)) :
    body ++ close ++ rest = s := by
  fun_induction contentsFrom? name depth s generalizing body with
  | case1 => simp at h
  | case2 depth c t block rest' hb _ ih =>
    simp only [Option.map_eq_some_iff, Prod.exists, Prod.map, Prod.mk.injEq, id] at h
    obtain ⟨a, b, d, hab, rfl, rfl, rfl⟩ := h
    rw [← Block.cut?_append hb, ← ih hab]
    simp
  | case3 t hb close' rest' hcl _ =>
    cases h
    simpa using closing?_append hcl
  | case4 t close' rest' d hb hcl _ ih =>
    simp only [Option.map_eq_some_iff, Prod.exists, Prod.map, Prod.mk.injEq, id] at h
    obtain ⟨a, b, d, hab, rfl, rfl, rfl⟩ := h
    rw [← closing?_append hcl, ← ih hab]
    simp
  | case5 depth t hb hcl tag closed rest' ho _ ih =>
    simp only [Option.map_eq_some_iff, Prod.exists, Prod.map, Prod.mk.injEq, id] at h
    obtain ⟨a, b, d, hab, rfl, rfl, rfl⟩ := h
    rw [← sameOpening?_append ho, ← ih hab]
    simp
  | case6 depth t hb hcl ho ih =>
    simp only [Option.map_eq_some_iff, Prod.exists, Prod.map, Prod.mk.injEq, id] at h
    obtain ⟨a, b, d, hab, rfl, rfl, rfl⟩ := h
    simp [← ih hab]
  | case7 depth c t hb hc ih =>
    simp only [Option.map_eq_some_iff, Prod.exists, Prod.map, Prod.mk.injEq, id] at h
    obtain ⟨a, b, d, hab, rfl, rfl, rfl⟩ := h
    simp [← ih hab]

/-- Contents, closing tag and what follows make up the text. -/
theorem contents?_append {name s body close rest : Text}
    (h : contents? name s = some (body, close, rest)) : body ++ close ++ rest = s :=
  contentsFrom?_append h

end Componentry.Tag
