import Componentry.Definition.Basic
import Componentry.Proofs.Quoting

/-! # Listings read back

A listing of definitions is text that other tools read, so it must be possible to
split it again.  Names never stand in the way: whatever a name is, it is written as a
string literal that reads back (`Text.unquote?_quote`), and the tag that opens a
block is found at the very start of the block (`Definition.find?_opening`).

A body is written as it is and reaches to the first closing tag.  The closing tag
starts with a line feed and holds no other, so no closing tag begins in a body and
ends behind it (`Text.cut?_eq_self`).  Hence a listing reads back exactly if no body
holds a closing tag of its own (`Definition.split_listing`).
-/
namespace Componentry

namespace Text

/-! ## Reading a quoted name -/

/-- A character that is written as itself is no control character. -/
theorem le_toNat_of_quoteChar {c : Char} (h : quoteChar c = [c]) : 32 ≤ c.toNat := by
  unfold quoteChar at h
  split at h
  · simp at h
  split at h
  · simp at h
  split at h
  · simp at h
  split at h
  · simp at h
  split at h
  · simp at h
  split at h
  · simp at h
  split at h
  · simp at h
  split at h
  · simp at h
  · omega

theorem readEscapedUnit_twoHex {n : Nat} (h : n < 256) (rest : Text) :
    readEscapedUnit ('0' :: '0' :: (twoHex n ++ rest)) = .ok (Char.ofNat n, rest) := by
  have h₀ : hexDigit? '0' = some 0 := by decide
  have h₁ := hexDigit?_digitChar (show n / 16 < 16 by omega)
  have h₂ := hexDigit?_digitChar (show n % 16 < 16 by omega)
  have hunit : readUnit ('0' :: '0' :: (twoHex n ++ rest)) = .ok (n, rest) := by
    have hvalue : n / 16 * 16 + n % 16 = n := by omega
    simp [readUnit, twoHex, fourHex?, h₀, h₁, h₂, hvalue]
  have hlow : isLowSurrogate n = false := by
    simp only [isLowSurrogate, Bool.and_eq_false_iff, decide_eq_false_iff_not]
    omega
  have hhigh : isHighSurrogate n = false := by
    simp only [isHighSurrogate, Bool.and_eq_false_iff, decide_eq_false_iff_not]
    omega
  simp [readEscapedUnit, hunit, hlow, hhigh]

/-- The way a character is written reads back as the character. -/
theorem readQuoted_quoteChar (c : Char) (rest : Text) :
    readQuoted (quoteChar c ++ rest) =
      (readQuoted rest).map fun (value, after) => (c :: value, after) := by
  rcases quoteChar_cases c with ⟨e, he, hshort, hmem⟩ | ⟨he, hlt⟩ | ⟨he, hq, hb, -⟩
  · rw [he, List.cons_append, List.singleton_append, readQuoted]
    · rw [hshort]
    · rintro rfl
      simp at hmem
  · have hunit := readEscapedUnit_twoHex (show c.toNat < 256 by omega) rest
    rw [he, List.cons_append, List.cons_append, List.cons_append, List.cons_append, readQuoted]
    split
    · rename_i e hr
      rw [hunit] at hr
      cases hr
    · rename_i d r hr
      rw [hunit, Char.ofNat_toNat] at hr
      cases hr
      rfl
  · have hle := le_toNat_of_quoteChar he
    rw [he, List.singleton_append, readQuoted.eq_def]
    split
    · simp_all
    · simp_all
    · simp_all
    · simp_all
    · simp_all
    · rename_i hcons
      cases hcons
      rw [if_neg (by omega)]

theorem readQuoted_quoted (s rest : Text) :
    readQuoted (s.flatMap quoteChar ++ '"' :: rest) = .ok (s, rest) := by
  induction s with
  | nil => rw [List.flatMap_nil, List.nil_append, readQuoted]
  | cons c s ih =>
    rw [List.flatMap_cons, List.append_assoc, readQuoted_quoteChar, ih]
    rfl

/-- **A quoted text reads back.** -/
theorem unquote?_quote (s : Text) : unquote? (quote s) = some s := by
  have happ : quote s = '"' :: (s.flatMap quoteChar ++ '"' :: []) := rfl
  rw [happ, unquote?, readQuoted_quoted]

/-! ## Cutting at a mark -/

/-- The first occurrence of a mark whose first character occurs nowhere else in it: a
text that does not hold the mark is cut off as a whole. -/
theorem cut?_eq_self {c : Char} {p s : Text} (hc : c ∉ p) (h : ¬ (c :: p) <:+: s) (rest : Text) :
    cut? (c :: p) (s ++ (c :: p ++ rest)) = some (s, rest) := by
  induction s with
  | nil =>
    rw [List.nil_append, List.cons_append, cut?, ← List.cons_append,
      dropPrefix?_eq_some.2 rfl]
  | cons d s ih =>
    have hnone : dropPrefix? (c :: p) (d :: s ++ (c :: p ++ rest)) = none := by
      cases hdrop : dropPrefix? (c :: p) (d :: s ++ (c :: p ++ rest)) with
      | none => rfl
      | some r =>
        have heq := dropPrefix?_eq_some.1 hdrop
        rw [List.cons_append, List.cons_append] at heq
        obtain ⟨rfl, htail⟩ := List.cons.inj heq
        -- The mark lies within the text, or its first character within the rest of it.
        rcases List.append_eq_append_iff.1 htail with ⟨w, hw, hrest⟩ | ⟨w, hw, -⟩
        · cases w with
          | nil =>
            rw [List.append_nil] at hw
            subst hw
            exact absurd (List.infix_refl _) h
          | cons e w =>
            obtain ⟨rfl, -⟩ := List.cons.inj hrest
            exact absurd (by rw [hw]; simp) hc
        · refine absurd (List.IsPrefix.isInfix ⟨w, ?_⟩) h
          rw [hw, List.cons_append]
    have hmark : ¬ (c :: p) <:+: s := fun hs => h (List.infix_cons hs)
    rw [List.cons_append, cut?, ← List.cons_append, hnone, ih hmark]
    rfl

/-- A text that holds the mark is cut within itself. -/
theorem cut?_within {p s : Text} (hp : p ≠ []) (h : p <:+: s) (rest : Text) :
    ∃ a b, cut? p (s ++ rest) = some (a, b) ∧ a.length < s.length := by
  induction s with
  | nil => exact absurd (List.infix_nil.1 h) hp
  | cons d s ih =>
    rw [List.cons_append, cut?]
    cases hdrop : dropPrefix? p (d :: (s ++ rest)) with
    | some r => exact ⟨[], r, rfl, by simp⟩
    | none =>
      have hs : p <:+: s := by
        rcases List.infix_cons_iff.1 h with ⟨t, ht⟩ | hs
        · have hfound : dropPrefix? p (d :: (s ++ rest)) = some (t ++ rest) := by
            rw [dropPrefix?_eq_some, ← List.append_assoc, ht, List.cons_append]
          rw [hdrop] at hfound
          cases hfound
        · exact hs
      obtain ⟨a, b, hcut, hlt⟩ := ih hs
      refine ⟨d :: a, b, by simp [hcut], ?_⟩
      simp only [List.length_cons]
      omega

end Text

namespace Definition

/-! ## Blocks -/

theorem nameEnd?_quoteChar (c : Char) (rest : Text) :
    nameEnd? (Text.quoteChar c ++ rest) =
      (nameEnd? rest).map fun (a, b) => (Text.quoteChar c ++ a, b) := by
  rcases Text.quoteChar_cases c with ⟨e, he, -, hmem⟩ | ⟨he, hlt⟩ | ⟨he, hq, hb, hn⟩
  · have hne : e ≠ '\n' := by
      rintro rfl
      simp at hmem
    simp [he, nameEnd?, hne]
  · have h₁ := Text.digitChar_ne (show c.toNat / 16 < 16 by omega)
    have h₂ := Text.digitChar_ne (show c.toNat % 16 < 16 by omega)
    simp [he, Text.twoHex, nameEnd?, h₁.1, h₁.2.1, h₂.1, h₂.2.1]
    rfl
  · simp [he, nameEnd?, hb]

theorem nameEnd?_quoted (s rest : Text) :
    nameEnd? (s.flatMap Text.quoteChar ++ '"' :: rest) =
      some (s.flatMap Text.quoteChar ++ ['"'], rest) := by
  induction s with
  | nil => simp [nameEnd?]
  | cons c s ih =>
    rw [List.flatMap_cons, List.append_assoc, nameEnd?_quoteChar, ih]
    simp

/-- What follows the name in the tag that opens a block. -/
def nameTail : Text := [' ', '%', '}', '\n']

/-- The tag that opens a block is read, whatever the name is. -/
theorem opening?_openTag (name rest : Text) :
    opening? (openTag ++ (Text.quote name ++ (nameTail ++ rest))) = some (Text.quote name, rest) := by
  have hkeyword : Marker.keyword? [] ['d', 'e', 'f', 'i', 'n', 'e']
      (openTag ++ (Text.quote name ++ (nameTail ++ rest))) =
        some (' ' :: (Text.quote name ++ (nameTail ++ rest))) := rfl
  have hspaces : Marker.spaces? (' ' :: (Text.quote name ++ (nameTail ++ rest))) =
      some ('"' :: (name.flatMap Text.quoteChar ++ '"' :: (nameTail ++ rest))) := by
    simp [Text.quote, Marker.spaces?, Text.trimStart, show Text.isSpace ' ' = true by decide,
      show Text.isSpace '"' = false by decide]
  have hend : Marker.tagEnd? [] (nameTail ++ rest) = some ('\n' :: rest) := rfl
  rw [opening?, hkeyword]
  simp only [Option.bind_eq_bind, Option.bind_some, hspaces, Text.dropPrefix?, if_true,
    nameEnd?_quoted, hend]
  rfl

theorem block_append (d : Definition) (rest : Text) :
    d.block ++ rest = openTag ++ (Text.quote d.name ++
      (nameTail ++ (d.body ++ (closeTag ++ '\n' :: rest)))) := by
  simp [block, nameTail]

/-- What may stand before a block of a listing: nothing before the first one, a line
feed before the others. -/
def IsGap (gap : Text) : Prop := gap = [] ∨ gap = ['\n']

theorem IsGap.isVoid {gap : Text} (h : IsGap gap) : Text.isVoid gap = true := by
  rcases h with rfl | rfl <;> decide

/-- A block is found at its very start. -/
theorem find?_opening {gap : Text} (h : IsGap gap) (d : Definition) (rest : Text) :
    Text.find? opening? (gap ++ (d.block ++ rest)) =
      some (gap, Text.quote d.name, d.body ++ (closeTag ++ '\n' :: rest)) := by
  have hfound : Text.find? opening? (d.block ++ rest) =
      some ([], Text.quote d.name, d.body ++ (closeTag ++ '\n' :: rest)) := by
    rw [block_append, Text.find?.eq_def, opening?_openTag]
  rcases h with rfl | rfl
  · exact hfound
  · have hnone : opening? ('\n' :: (d.block ++ rest)) = none := rfl
    rw [List.singleton_append, Text.find?.eq_def, hnone]
    simp only [hfound, Option.map_some]

/-! ## Splitting -/

/-- Splitting a listing reads its first block off, as far as the first closing tag
behind the tag that opens the block. -/
theorem splitFrom_block {gap : Text} (h : IsGap gap) (d : Definition) (rest : Text) (offset : Nat)
    {body after : Text}
    (hcut : Text.cut? closeTag (d.body ++ (closeTag ++ '\n' :: rest)) = some (body, after)) :
    ∃ offset', splitFrom offset (gap ++ (d.block ++ rest)) =
      (splitFrom offset' after).map (⟨d.name, body⟩ :: ·) := by
  refine ⟨offset + Text.byteLength (gap ++ (d.block ++ rest)) - Text.byteLength after, ?_⟩
  rw [splitFrom]
  split
  · rename_i hf
    rw [find?_opening h] at hf
    cases hf
  · rename_i hf
    rw [find?_opening h] at hf
    cases hf
    rw [h.isVoid, Text.unquote?_quote]
    simp only [Bool.not_true, Bool.false_eq_true, if_false]
    split
    · rename_i hnone
      rw [hcut] at hnone
      cases hnone
    · rename_i b a hsome
      rw [hcut] at hsome
      cases hsome
      rfl

theorem splitFrom_gap {gap : Text} (h : IsGap gap) (offset : Nat) :
    splitFrom offset gap = .ok [] := by
  have hnone : Text.find? opening? gap = none := by
    rcases h with rfl | rfl <;> rfl
  rw [splitFrom]
  split
  · rw [if_pos h.isVoid]
  · rename_i hf
    rw [hnone] at hf
    cases hf

theorem map_cons_eq_ok {d d' : Definition} {more : List Definition}
    {result : Except Fault (List Definition)} :
    result.map (d :: ·) = .ok (d' :: more) ↔ d = d' ∧ result = .ok more := by
  cases result <;> simp [Except.map]

theorem splitFrom_listing (definitions : List Definition) {gap : Text} (h : IsGap gap)
    (offset : Nat) :
    splitFrom offset (gap ++ listing definitions) = .ok definitions ↔
      ∀ d ∈ definitions, ¬ closeTag <:+: d.body := by
  induction definitions generalizing gap offset with
  | nil =>
    rw [listing, List.flatMap_nil, List.append_nil, splitFrom_gap h]
    simp
  | cons d definitions ih =>
    rw [listing, List.flatMap_cons, ← listing]
    by_cases hmark : closeTag <:+: d.body
    · -- The body is cut short, so the first definition is not the one that was listed.
      obtain ⟨body, after, hcut, hlt⟩ :=
        Text.cut?_within (by decide) hmark (closeTag ++ '\n' :: listing definitions)
      obtain ⟨offset', hsplit⟩ := splitFrom_block h d (listing definitions) offset hcut
      rw [hsplit, map_cons_eq_ok]
      constructor
      · rintro ⟨hd, -⟩
        rw [← hd] at hlt
        exact absurd hlt (Nat.lt_irrefl _)
      · intro hall
        exact absurd hmark (hall d (by simp))
    · have hcut := Text.cut?_eq_self (c := '\n') (p := closeTag.tail) (by decide) hmark
        ('\n' :: listing definitions)
      obtain ⟨offset', hsplit⟩ := splitFrom_block h d (listing definitions) offset hcut
      have hgap : IsGap ['\n'] := Or.inr rfl
      have hrest := ih hgap offset'
      rw [hsplit, map_cons_eq_ok, List.forall_mem_cons, ← hrest, List.singleton_append]
      exact ⟨fun hok => ⟨hmark, hok.2⟩, fun hok => ⟨rfl, hok.2⟩⟩

/-- **A listing of definitions splits back into the definitions exactly if no body
holds the closing tag.** -/
theorem split_listing (definitions : List Definition) :
    split (listing definitions) = .ok definitions ↔ ∀ d ∈ definitions, ¬ closeTag <:+: d.body :=
  splitFrom_listing definitions (Or.inl rfl) 0

end Definition

end Componentry
