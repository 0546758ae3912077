import Componentry.Cursor.Tag
import Componentry.Proofs.Cursor.Bytes

/-! # The searches over bytes find what the searches over characters find

Every search of the scan over bytes is compared with the function that cuts the same
part off the rest of the text.  Where the rest of the text is `s`
(`Cursor.Reads bytes i s`), the search ends, and the offset that it returns is `i` and
the bytes of the part (`block?_eq`, `tagEnd_eq`, `isSelfClosing_eq`, `closeEnd_eq`,
`matchingClose_eq`).

All that a search looks for is in ASCII, so it passes over the bytes of every other
character.  That also holds of the byte behind a backslash in a literal, although the
jump over it may end inside of a character (`blockEnd_eq`).
-/
namespace Componentry.Cursor

variable {bytes : List UInt8} {i : Nat} {s : Text}

theorem wide_ne {d a : Char} (hd : Text.isAscii d = false) (ha : Text.isAscii a = true) : d ≠ a := by
  rintro rfl
  rw [ha] at hd
  cases hd

theorem isAscii_of_isQuote {c : Char} (h : Block.isQuote c = true) : Text.isAscii c = true := by
  simp only [Block.isQuote, Bool.or_eq_true, decide_eq_true_eq] at h
  rcases h with rfl | rfl <;> rfl

theorem isQuote_of_wide {d : Char} (hd : Text.isAscii d = false) : Block.isQuote d = false := by
  rw [Bool.eq_false_iff]
  intro hq
  rw [isAscii_of_isQuote hq] at hd
  cases hd

/-- The quote of a literal behind a character of it. -/
theorem isAscii_of_mem_literal {c q : Char} (hq : Text.isAscii q = true) :
    ∀ p ∈ (if c = q then none else some q), Text.isAscii p = true := by
  intro p hp
  split at hp
  · cases hp
  · cases hp
    exact hq

theorem isAscii_closeMark (kind : BlockKind) : Text.isAscii kind.closeMark = true := by
  cases kind <;> rfl

theorem isAscii_of_isBlank {c : Char} (h : Text.isBlank c = true) : Text.isAscii c = true := by
  simp only [Text.isBlank, Bool.or_eq_true, decide_eq_true_eq] at h
  rcases h with (((rfl | rfl) | rfl) | rfl) | rfl <;> rfl

theorem isBlank_of_wide {d : Char} (hd : Text.isAscii d = false) : Text.isBlank d = false := by
  rw [Bool.eq_false_iff]
  intro hb
  rw [isAscii_of_isBlank hb] at hd
  cases hd

/-! ## Template blocks -/

theorem opening?_eq (h : Reads bytes i s) : opening? bytes i = (Block.opening? s).map (·.1) := by
  unfold opening?
  split
  · rename_i hread
    obtain ⟨t, rfl⟩ := (h.read?_eq_iff (by decide)).1 hread
    have hnext := (h.ascii (by decide)).2
    split
    · rename_i hmark
      obtain ⟨t, rfl⟩ := (hnext.read?_eq_iff (by decide)).1 hmark
      rfl
    · rename_i hmark
      obtain ⟨t, rfl⟩ := (hnext.read?_eq_iff (by decide)).1 hmark
      rfl
    · rename_i hmark
      obtain ⟨t, rfl⟩ := (hnext.read?_eq_iff (by decide)).1 hmark
      rfl
    · rename_i h₁ h₂ h₃
      unfold Block.opening?
      split
      · rename_i heq
        cases heq
        exact absurd ((hnext.read?_eq_iff (by decide)).2 ⟨_, rfl⟩) h₁
      · rename_i heq
        cases heq
        exact absurd ((hnext.read?_eq_iff (by decide)).2 ⟨_, rfl⟩) h₂
      · rename_i heq
        cases heq
        exact absurd ((hnext.read?_eq_iff (by decide)).2 ⟨_, rfl⟩) h₃
      · rfl
  · rename_i hread
    unfold Block.opening?
    split <;> first | rfl | exact absurd ((h.read?_eq_iff (by decide)).2 ⟨_, rfl⟩) hread

/-- In a block the search passes over every byte outside of ASCII. -/
theorem blockEnd_wide {kind : BlockKind} {literal : Option Char}
    (hl : ∀ q ∈ literal, Text.isAscii q = true) {j : Nat} {d : Char} (hd : read? bytes j = some d)
    (hascii : Text.isAscii d = false) :
    blockEnd bytes kind literal j = blockEnd bytes kind literal (j + 1) := by
  rw [blockEnd_of_some hd]
  cases literal with
  | none => simp [isQuote_of_wide hascii, wide_ne hascii (isAscii_closeMark kind)]
  | some q => simp [wide_ne hascii (show Text.isAscii '\\' = true from rfl), wide_ne hascii (hl q rfl)]

/-- **The end of a block is found over the bytes**, wherever the jumps behind a backslash
end. -/
theorem blockEnd_eq {kind : BlockKind} {literal : Option Char}
    (hl : ∀ q ∈ literal, Text.isAscii q = true) {j : Nat} (h : Reads bytes j s) :
    blockEnd bytes kind literal j = j + Text.byteLength (Block.inside kind literal s).1 := by
  fun_induction Block.inside kind literal s generalizing j with
  | case1 literal => rw [blockEnd_of_none h.nil, ← h.length]
  | case2 q =>
    obtain ⟨hread, hnext⟩ := h.ascii rfl
    have hend : read? bytes (j + 2) = none := by
      have hlen := hnext.length
      rw [Text.byteLength_nil] at hlen
      rw [read?, List.getElem?_eq_none (by omega)]
      rfl
    rw [blockEnd_of_some hread]
    simp only [if_true]
    rw [blockEnd_of_none hend, ← hnext.length]
    rfl
  | case3 q d s' ih =>
    obtain ⟨hread, hnext⟩ := h.ascii rfl
    rw [blockEnd_of_some hread]
    simp only [if_true]
    -- The jump ends behind the first byte of `d`, from where the rest of it is passed over.
    have hjump : blockEnd bytes kind (some q) (j + 2) =
        blockEnd bytes kind (some q) (j + 1 + d.utf8Size) :=
      hnext.jump fun _ _ => blockEnd_wide hl
    rw [hjump, ih hl hnext.next]
    simp only [Prod.map, Text.byteLength_cons, utf8Size_of_isAscii (show Text.isAscii '\\' from rfl)]
    omega
  | case4 q c s hc ih =>
    have hstep : blockEnd bytes kind (some q) j =
        blockEnd bytes kind (if c = q then none else some q) (j + c.utf8Size) := by
      refine h.step (fun _ _ => blockEnd_wide hl) (fun hread => ?_) (fun hascii => ?_)
      · rw [blockEnd_of_some hread]
        simp [hc]
      · rw [if_neg (wide_ne hascii (hl q rfl))]
    rw [hstep, ih (isAscii_of_mem_literal (hl q rfl)) h.next]
    simp only [Prod.map, Text.byteLength_cons]
    omega
  | case5 c s hq ih =>
    have hascii : Text.isAscii c = true := by
      rw [Bool.and_eq_true] at hq
      exact isAscii_of_isQuote hq.2
    obtain ⟨hread, hnext⟩ := h.ascii hascii
    have hl' : ∀ p ∈ some c, Text.isAscii p = true := by
      rintro p ⟨⟩
      exact hascii
    rw [blockEnd_of_some hread]
    simp only [hq, if_true, ih hl' hnext, Prod.map, Text.byteLength_cons, utf8Size_of_isAscii hascii]
    omega
  | case6 s' hq =>
    obtain ⟨hread, hnext⟩ := h.ascii (isAscii_closeMark kind)
    have hbrace : read? bytes (j + 1) = some '}' := (hnext.read?_eq_iff rfl).2 ⟨_, rfl⟩
    rw [blockEnd_of_some hread]
    simp [hq, hbrace, utf8Size_of_isAscii (isAscii_closeMark kind),
      utf8Size_of_isAscii (show Text.isAscii '}' from rfl)]
  | case7 s hne hq ih =>
    obtain ⟨hread, hnext⟩ := h.ascii (isAscii_closeMark kind)
    have hbrace : read? bytes (j + 1) ≠ some '}' := by
      intro hbrace
      obtain ⟨t, rfl⟩ := (hnext.read?_eq_iff rfl).1 hbrace
      exact hne t rfl
    rw [blockEnd_of_some hread]
    simp only [hq, hbrace, Bool.false_eq_true, if_false, decide_false, Bool.and_false, ih hl hnext,
      Prod.map, Text.byteLength_cons, utf8Size_of_isAscii (isAscii_closeMark kind)]
    omega
  | case8 c s hq hmark ih =>
    have hstep : blockEnd bytes kind none j = blockEnd bytes kind none (j + c.utf8Size) := by
      refine h.step (fun _ _ => blockEnd_wide hl) (fun hread => ?_) (fun _ => rfl)
      rw [blockEnd_of_some hread]
      simp [hq, hmark]
    rw [hstep, ih hl h.next]
    simp only [Prod.map, Text.byteLength_cons]
    omega

/-- The block that starts where the rest of the text is `s`. -/
theorem block?_eq (h : Reads bytes i s) :
    block? bytes i = (Block.cut? s).map fun p => i + Text.byteLength p.1 := by
  rw [block?, opening?_eq h, Block.cut?, Option.map_map, Option.map_map]
  cases ho : Block.opening? s with
  | none => rfl
  | some found =>
    obtain ⟨kind, t⟩ := found
    obtain rfl := Block.opening?_eq_some ho
    have hascii : Text.isAscii kind.mark = true := by cases kind <;> rfl
    have hnext := ((h.ascii rfl).2.ascii hascii).2
    have hend : blockEnd bytes kind none (i + 1 + 1) = _ := blockEnd_eq (by simp) hnext
    simp only [Option.map_some, Function.comp_apply, hend, Prod.map, Text.byteLength_cons,
      utf8Size_of_isAscii hascii, utf8Size_of_isAscii (show Text.isAscii '{' from rfl)]
    congr 1
    omega

theorem block?_eq_some {block rest : Text} (h : Reads bytes i s)
    (hcut : Block.cut? s = some (block, rest)) :
    block? bytes i = some (i + Text.byteLength block) ∧ i < i + Text.byteLength block ∧
      Reads bytes (i + Text.byteLength block) rest := by
  refine ⟨by rw [block?_eq h, hcut, Option.map_some], ?_,
    Reads.add (by rwa [Block.cut?_append hcut])⟩
  have := Text.byteLength_pos (Block.cut?_append hcut) (Block.cut?_length hcut)
  omega

theorem block?_eq_none (h : Reads bytes i s) (hcut : Block.cut? s = none) :
    block? bytes i = none := by
  rw [block?_eq h, hcut, Option.map_none]

/-! ## Names -/

theorem atBoundary_eq (h : Reads bytes i s) : atBoundary bytes i = Tag.atBoundary s := by
  cases s with
  | nil => rw [atBoundary, h.nil]; rfl
  | cons c s =>
    cases hc : Text.isAscii c with
    | true => rw [atBoundary, (h.ascii hc).1]; rfl
    | false =>
      obtain ⟨d, hd, hascii⟩ := h.wide hc c.utf8Size_pos
      have hout : ∀ {a : Char}, Text.isAscii a = false →
          (Text.isBlank a || a = '>' || a = '/') = false := fun {a} ha => by
        simp [isBlank_of_wide ha, wide_ne ha (show Text.isAscii '>' = true from rfl),
          wide_ne ha (show Text.isAscii '/' = true from rfl)]
      rw [Nat.add_zero] at hd
      rw [atBoundary, hd, Option.any_some, hout hascii, Tag.atBoundary, hout hc]

theorem any_isNameStart {c : Char} (h : Reads bytes i (c :: s)) :
    (read? bytes i).any Tag.isNameStart = Tag.isNameStart c := by
  cases hc : Text.isAscii c with
  | true => rw [(h.ascii hc).1]; rfl
  | false =>
    obtain ⟨d, hd, hascii⟩ := h.wide hc c.utf8Size_pos
    rw [Nat.add_zero] at hd
    simp [hd, Tag.isNameStart, hascii, hc]

/-- A tag name ends where it ends among the characters. -/
theorem nameEnd_eq {c : Char} (h : Reads bytes i (c :: s)) (hstart : Tag.isNameStart c = true) :
    nameEnd bytes i = i + Text.byteLength (c :: s.takeWhile Tag.isNameChar) ∧
      Reads bytes (nameEnd bytes i) (s.dropWhile Tag.isNameChar) := by
  have hstop : nameEnd bytes i = i + Text.byteLength (c :: s.takeWhile Tag.isNameChar) := by
    rw [nameEnd, any_isNameStart h, if_pos hstart,
      h.skipWhile (b := true) (fun d hd => by simp [Tag.isNameChar, hd]),
      List.takeWhile_cons_of_pos (Tag.isNameChar_of_isNameStart hstart)]
  refine ⟨hstop, ?_⟩
  rw [hstop]
  exact Reads.add (by rwa [List.cons_append, List.takeWhile_append_dropWhile])

theorem nameEnd_eq_of_some {name rest : Text} (h : Reads bytes i s)
    (hname : Tag.name? s = some (name, rest)) :
    nameEnd bytes i = i + Text.byteLength name ∧ name ≠ [] ∧
      atBoundary bytes (nameEnd bytes i) = true := by
  cases s with
  | nil => cases hname
  | cons c s =>
    rw [Tag.name?] at hname
    split at hname
    · rename_i hstart
      dsimp only at hname
      split at hname
      · rename_i hboundary
        cases hname
        obtain ⟨hstop, hrest⟩ := nameEnd_eq h hstart
        exact ⟨hstop, by simp, by rw [atBoundary_eq hrest, hboundary]⟩
      · cases hname
    · cases hname

theorem nameEnd_eq_of_none (h : Reads bytes i s) (hname : Tag.name? s = none) :
    (nameEnd bytes i = i || !atBoundary bytes (nameEnd bytes i)) = true := by
  cases s with
  | nil => simp [nameEnd, h.nil]
  | cons c s =>
    rw [Tag.name?] at hname
    split at hname
    · rename_i hstart
      dsimp only at hname
      split at hname
      · cases hname
      · rename_i hboundary
        rw [atBoundary_eq (nameEnd_eq h hstart).2]
        simp [hboundary]
    · rename_i hstart
      simp [nameEnd, any_isNameStart h, hstart]

/-! ## The opening tag -/

theorem block?_wide {d : Char} (hd : read? bytes i = some d) (hascii : Text.isAscii d = false) :
    block? bytes i = none := by
  have hbrace : d ≠ '{' := wide_ne hascii rfl
  simp [block?, opening?, hd, hbrace]

theorem tagEnd_wide {quote : Option Char} (hq : ∀ q ∈ quote, Text.isAscii q = true) {depth : Nat}
    {j : Nat} {d : Char} (hd : read? bytes j = some d) (hascii : Text.isAscii d = false) :
    tagEnd bytes quote depth j = tagEnd bytes quote depth (j + 1) := by
  rw [tagEnd_of_some hd]
  cases quote with
  | some q => simp [wide_ne hascii (hq q rfl)]
  | none =>
    simp [block?_wide hd hascii, isQuote_of_wide hascii,
      wide_ne hascii (show Text.isAscii '>' = true from rfl),
      wide_ne hascii (show Text.isAscii '{' = true from rfl),
      wide_ne hascii (show Text.isAscii '}' = true from rfl)]

/-- What is said of the offset behind a part, where a piece stands in front of the part. -/
theorem map_under {β γ : Type} (v : Text) (f : Nat → β → γ) (found : Option (Text × β)) :
    (found.map (Prod.map (v ++ ·) id)).map (fun p => f (i + Text.byteLength p.1) p.2) =
      found.map fun p => f (i + Text.byteLength v + Text.byteLength p.1) p.2 := by
  rw [Option.map_map]
  congr 1
  funext p
  simp only [Function.comp_apply, Prod.map, Text.byteLength_append, id, Nat.add_assoc]

/-- **The search for the end of an opening tag ends** where the attributes do. -/
theorem tagEnd_eq {quote : Option Char} (hq : ∀ q ∈ quote, Text.isAscii q = true) {depth : Nat}
    (h : Reads bytes i s) :
    tagEnd bytes quote depth i =
      some ((Tag.attributesFrom? quote depth s).map fun p => i + Text.byteLength p.1) := by
  fun_induction Tag.attributesFrom? quote depth s generalizing i with
  | case1 =>
    rw [tagEnd_of_none h.nil]
    rfl
  | case2 depth c t q ih =>
    have hstep : tagEnd bytes (some q) depth i =
        tagEnd bytes (if c = q then none else some q) depth (i + c.utf8Size) := by
      refine h.step (fun _ _ => tagEnd_wide hq) (fun hread => ?_) (fun hascii => ?_)
      · rw [tagEnd_of_some hread]
      · rw [if_neg (wide_ne hascii (hq q rfl))]
    simp only [dite_eq_ite] at ih
    rw [hstep, ih (isAscii_of_mem_literal (hq q rfl)) h.next]
    exact congrArg some (map_under [c] (fun n _ => n) _).symm
  | case3 depth c t block rest hcut _ ih =>
    obtain ⟨d, hd, -⟩ := h.first
    obtain ⟨hblock, hlt, hrest⟩ := block?_eq_some h hcut
    rw [tagEnd_of_some hd]
    simp only [hblock, if_pos hlt]
    rw [ih (by simp) hrest]
    exact congrArg some (map_under block (fun n _ => n) _).symm
  | case4 depth c t hcut hend =>
    simp only [Bool.and_eq_true, decide_eq_true_eq] at hend
    obtain ⟨rfl, hdepth⟩ := hend
    have hblock := block?_eq_none h hcut
    rw [tagEnd_of_some (h.ascii rfl).1]
    simp [hblock, hdepth]
  | case5 depth c t hcut hend quote' depth' =>
    rename_i ih
    have hblock := block?_eq_none h hcut
    have hquote : quote' = if Block.isQuote c then some c else none := dite_eq_ite
    have hdepth : depth' = if c = '{' then depth + 1 else if c = '}' then depth - 1 else depth := by
      simp only [depth', dite_eq_ite]
    have hstep : tagEnd bytes none depth i = tagEnd bytes quote' depth' (i + c.utf8Size) := by
      refine h.step (fun _ _ => tagEnd_wide hq) (fun hread => ?_) (fun hascii => ?_)
      · rw [tagEnd_of_some hread]
        simp only [hblock, if_neg hend, hquote, hdepth]
      · rw [hquote, hdepth, isQuote_of_wide hascii, if_neg (wide_ne hascii (by decide)),
          if_neg (wide_ne hascii (by decide))]
        rfl
    have hq' : ∀ p ∈ quote', Text.isAscii p = true := by
      intro p hp
      rw [hquote] at hp
      split at hp
      · rename_i hc
        cases hp
        exact isAscii_of_isQuote hc
      · cases hp
    rw [hstep, ih hq' h.next]
    exact congrArg some (map_under [c] (fun n _ => n) _).symm

theorem tagEnd_attributes (h : Reads bytes i s) :
    tagEnd bytes none 0 i = some ((Tag.attributes? s).map fun p => i + Text.byteLength p.1) :=
  tagEnd_eq (by simp) h

/-- Going back over blanks ends behind the last character that is none.  The attributes are
written backwards, in the order in which they are gone over. -/
theorem blanksStart_eq {r : Text} (h : Reads bytes i (r.reverse ++ s)) :
    blanksStart bytes i (i + Text.byteLength r.reverse) =
      some (i + Text.byteLength (r.dropWhile Text.isBlank).reverse) := by
  induction r generalizing s with
  | nil =>
    rw [List.dropWhile_nil, List.reverse_nil, Text.byteLength_nil, Nat.add_zero]
    cases i with
    | zero => rfl
    | succ n => simp [blanksStart]
  | cons c r ih =>
    rw [List.reverse_cons, List.append_assoc] at h
    have hpos := c.utf8Size_pos
    have hstop : i + Text.byteLength (c :: r).reverse =
        i + Text.byteLength r.reverse + (c.utf8Size - 1) + 1 := by
      simp
      omega
    obtain ⟨d, hd, hlast⟩ := Reads.last (Reads.add h)
    have hblank : Text.isBlank d = Text.isBlank c := by
      rcases hlast with rfl | ⟨hd, hc⟩
      · rfl
      · rw [isBlank_of_wide hd, isBlank_of_wide hc]
    rw [hstop, blanksStart, if_pos (by omega), hd]
    simp only [Option.bind_eq_bind, Option.bind_some, hblank]
    by_cases hc : Text.isBlank c = true
    · rw [if_pos hc, List.dropWhile_cons_of_pos hc, utf8Size_of_isAscii (isAscii_of_isBlank hc)]
      exact ih h
    · rw [if_neg hc, List.dropWhile_cons_of_neg hc, hstop]

/-- Attributes without the blanks at their end, and these blanks. -/
theorem exists_blanks (region : Text) :
    ∃ blanks, (∀ c ∈ blanks, Text.isBlank c = true) ∧
      region = (region.reverse.dropWhile Text.isBlank).reverse ++ blanks := by
  refine ⟨(region.reverse.takeWhile Text.isBlank).reverse, fun c hc => ?_, ?_⟩
  · exact List.all_eq_true.1 List.all_takeWhile c (List.mem_reverse.1 hc)
  · rw [← List.reverse_append, List.takeWhile_append_dropWhile, List.reverse_reverse]

theorem lastNonBlank_of_dropWhile {region kept : Text} (h : Reads bytes i (region ++ s))
    (hkept : (region.reverse.dropWhile Text.isBlank).reverse = kept) :
    lastNonBlank bytes i (i + Text.byteLength region) =
      some (max (i + Text.byteLength kept - 1) i) := by
  have hstart := blanksStart_eq (r := region.reverse) (by rwa [List.reverse_reverse])
  rw [List.reverse_reverse, hkept] at hstart
  rw [lastNonBlank, hstart]
  rfl

/-- Whether a tag closes itself is seen on the last character of its attributes. -/
theorem isSelfClosing_of_last {start stop last : Nat} {c : Char}
    (hlast : lastNonBlank bytes start stop = some last) (hstart : start ≤ last)
    (hstop : last < stop) (hread : read? bytes last = some c) :
    isSelfClosing bytes start stop = some (decide (c = '/')) := by
  rw [isSelfClosing, hlast]
  simp [hstart, hstop, hread]

/-- **The slash that closes a tag at once** is found behind the attributes. -/
theorem isSelfClosing_eq_of_some {region attributes tail : Text} (h : Reads bytes i (region ++ s))
    (hslash : Tag.slash? region = some (attributes, tail)) :
    lastNonBlank bytes i (i + Text.byteLength region) = some (i + Text.byteLength attributes) ∧
      isSelfClosing bytes i (i + Text.byteLength region) = some true := by
  unfold Tag.slash? at hslash
  split at hslash
  · rename_i attrs hdrop
    cases hslash
    obtain ⟨blanks, -, hregion⟩ := exists_blanks region
    rw [hdrop, List.reverse_cons, List.append_assoc] at hregion
    have hlast : lastNonBlank bytes i (i + Text.byteLength region) =
        some (i + Text.byteLength attrs.reverse) := by
      rw [lastNonBlank_of_dropWhile h (by rw [hdrop, List.reverse_cons])]
      simp [utf8Size_of_isAscii (show Text.isAscii '/' from rfl)]
    have hread : read? bytes (i + Text.byteLength attrs.reverse) = some '/' := by
      rw [hregion, List.append_assoc] at h
      exact (h.add.ascii rfl).1
    have hlt : i + Text.byteLength attrs.reverse < i + Text.byteLength region := by
      have := Char.utf8Size_pos '/'
      rw [hregion]
      simp
      omega
    exact ⟨hlast, isSelfClosing_of_last hlast (Nat.le_add_right _ _) hlt hread⟩
  · cases hslash

theorem isSelfClosing_eq_of_none {region : Text} (h : Reads bytes i (region ++ s))
    (hslash : Tag.slash? region = none) :
    isSelfClosing bytes i (i + Text.byteLength region) = some false := by
  obtain ⟨blanks, hblanks, hregion⟩ := exists_blanks region
  have hlast := lastNonBlank_of_dropWhile h rfl
  cases hdrop : region.reverse.dropWhile Text.isBlank with
  | nil =>
    rw [hdrop] at hregion hlast
    -- All of the attributes are blank, so what stands first is no slash.
    cases blanks with
    | nil =>
      rw [isSelfClosing, hlast]
      simp [hregion]
    | cons c blanks =>
      have hc : Text.isBlank c = true := hblanks c (by simp)
      have hread : read? bytes i = some c := by
        rw [hregion] at h
        exact (h.ascii (isAscii_of_isBlank hc)).1
      have hne : c ≠ '/' := by
        rintro rfl
        cases hc
      have hfirst : max (i + Text.byteLength ([] : Text).reverse - 1) i = i := by simp
      rw [hfirst] at hlast
      have hpos : i < i + Text.byteLength region := by
        have := c.utf8Size_pos
        rw [hregion]
        simp
        omega
      rw [isSelfClosing_of_last hlast (Nat.le_refl i) hpos hread, decide_eq_false hne]
  | cons c attrs =>
    -- What stands last is a character other than a slash.
    have hne : c ≠ '/' := by
      rintro rfl
      rw [Tag.slash?, hdrop] at hslash
      cases hslash
    rw [hdrop, List.reverse_cons, List.append_assoc] at hregion
    have hpos := c.utf8Size_pos
    rw [hdrop, List.reverse_cons] at hlast
    obtain ⟨d, hd, hdc⟩ := Reads.last (Reads.add (v := attrs.reverse) (by
      rw [hregion, List.append_assoc] at h
      exact h))
    have hdne : d ≠ '/' := by
      rcases hdc with rfl | ⟨hd, -⟩
      · exact hne
      · exact wide_ne hd rfl
    have hslash : max (i + Text.byteLength (attrs.reverse ++ [c]) - 1) i =
        i + Text.byteLength attrs.reverse + (c.utf8Size - 1) := by
      simp
      omega
    have hlt : i + Text.byteLength attrs.reverse + (c.utf8Size - 1) <
        i + Text.byteLength region := by
      rw [hregion]
      simp
      omega
    rw [hslash] at hlast
    have hstart : i ≤ i + Text.byteLength attrs.reverse + (c.utf8Size - 1) := by omega
    rw [isSelfClosing_of_last hlast hstart hlt hd, decide_eq_false hdne]

/-! ## The closing tag -/

/-- A closing tag is found where one starts. -/
theorem closeEnd_eq (name : Text) {t : Text} (h : Reads bytes i ('<' :: t)) :
    closeEnd bytes name.utf8 i =
      some ((Tag.closing? name ('<' :: t)).map fun p => i + Text.byteLength p.1) := by
  have hnext := (h.ascii rfl).2
  unfold closeEnd
  split
  · rename_i hslash
    obtain ⟨t, rfl⟩ := (hnext.read?_eq_iff rfl).1 hslash
    have hname := (hnext.ascii rfl).2
    rw [hname.from?]
    simp only [Option.bind_eq_bind, Option.bind_some, hname.isPrefixOf, Text.length_utf8]
    simp only [Tag.closing?, Text.dropPrefix?, if_true]
    cases hdrop : Text.dropPrefix? name t with
    | none => rfl
    | some u =>
      rw [Text.dropPrefix?_eq_some.1 hdrop] at hname
      have hblanks := hname.add.skipWhile (p := Text.isBlank) (b := false)
        (fun d hd => isBlank_of_wide hd)
      have hrest : Reads bytes (Cursor.skipWhile Text.isBlank bytes (i + 2 + Text.byteLength name))
          (u.dropWhile Text.isBlank) := by
        rw [show i + 2 = i + 1 + 1 from rfl, hblanks]
        exact Reads.add (by rw [List.takeWhile_append_dropWhile]; exact hname.add)
      simp only [Option.isSome_some, if_true, Option.pure_def]
      congr 1
      split
      · rename_i hgt
        obtain ⟨rest, hu⟩ := (hrest.read?_eq_iff rfl).1 hgt
        rw [show i + 2 = i + 1 + 1 from rfl, hblanks, hu]
        simp only [Option.map_some, Text.byteLength_append, Text.byteLength_cons,
          Text.byteLength_nil, show '<'.utf8Size = 1 from rfl, show '/'.utf8Size = 1 from rfl,
          show '>'.utf8Size = 1 from rfl]
        congr 1
        omega
      · rename_i hgt
        split
        · rename_i hu
          exact absurd ((hrest.read?_eq_iff rfl).2 ⟨_, hu⟩) hgt
        · rfl
  · rename_i hslash
    have hdrop : Text.dropPrefix? ('<' :: '/' :: name) ('<' :: t) = none := by
      cases t with
      | nil => rfl
      | cons c t =>
        have hne : ¬ '/' = c := by
          rintro rfl
          exact hslash (hnext.ascii rfl).1
        simp [Text.dropPrefix?, hne]
    rw [Tag.closing?, hdrop]
    rfl

/-- An opening tag of a given name is found where one starts. -/
theorem openEnd_eq (name : Text) {t : Text} (h : Reads bytes i ('<' :: t)) :
    openEnd bytes name.utf8 i =
      some ((Tag.sameOpening? name ('<' :: t)).map fun p => (i + Text.byteLength p.1, p.2.1)) := by
  have hname := (h.ascii rfl).2
  rw [openEnd, hname.from?]
  simp only [Option.bind_eq_bind, Option.bind_some, hname.isPrefixOf, Text.length_utf8]
  simp only [Tag.sameOpening?, Text.dropPrefix?, if_true]
  cases hdrop : Text.dropPrefix? name t with
  | none => rfl
  | some u =>
    rw [Text.dropPrefix?_eq_some.1 hdrop] at hname
    have hrest := hname.add
    rw [atBoundary_eq hrest, Option.isSome_some, Bool.true_and]
    cases hboundary : Tag.atBoundary u with
    | false => simp [hboundary]
    | true =>
      simp only [hboundary, if_true, tagEnd_attributes hrest, Option.bind_some]
      cases hattributes : Tag.attributes? u with
      | none => rfl
      | some found =>
        obtain ⟨region, rest⟩ := found
        rw [← Tag.attributes?_append hattributes] at hrest
        have hclosed : isSelfClosing bytes (i + 1 + Text.byteLength name)
            (i + 1 + Text.byteLength name + Text.byteLength region) =
              some (Tag.slash? region).isSome := by
          cases hslash : Tag.slash? region with
          | none => exact isSelfClosing_eq_of_none hrest hslash
          | some found => exact (isSelfClosing_eq_of_some hrest hslash).2
        simp only [Option.map_some, hclosed, Option.bind_some, Option.pure_def,
          Text.byteLength_append, Text.byteLength_cons, Text.byteLength_nil,
          show '<'.utf8Size = 1 from rfl, show '>'.utf8Size = 1 from rfl]
        congr 3
        omega

/-! ## The contents of an element -/

theorem matchingClose_wide {name : List UInt8} {depth j : Nat} {d : Char}
    (hd : read? bytes j = some d) (hascii : Text.isAscii d = false) :
    matchingClose bytes name depth j = matchingClose bytes name depth (j + 1) := by
  rw [matchingClose_of_some hd]
  simp [block?_wide hd hascii, wide_ne hascii (show Text.isAscii '<' = true from rfl)]

/-- The offsets of a closing tag behind a piece that stands in front. -/
theorem map_offsets (v : Text) (found : Option (Text × Text × Text)) :
    (found.map (Prod.map (v ++ ·) id)).map (fun p =>
        (i + Text.byteLength p.1, i + Text.byteLength p.1 + Text.byteLength p.2.1)) =
      found.map fun p => (i + Text.byteLength v + Text.byteLength p.1,
        i + Text.byteLength v + Text.byteLength p.1 + Text.byteLength p.2.1) :=
  map_under v (fun n q => (n, n + Text.byteLength q.1)) found

/-- **The search for the closing tag ends**, with the offsets of the tag and behind it. -/
theorem matchingClose_eq (name : Text) {depth : Nat} (h : Reads bytes i s) :
    matchingClose bytes name.utf8 (depth + 1) i =
      some ((Tag.contentsFrom? name depth s).map fun p =>
        (i + Text.byteLength p.1, i + Text.byteLength p.1 + Text.byteLength p.2.1)) := by
  fun_induction Tag.contentsFrom? name depth s generalizing i with
  | case1 =>
    rw [matchingClose_of_none h.nil]
    rfl
  | case2 depth c t block rest hcut _ ih =>
    obtain ⟨d, hd, -⟩ := h.first
    obtain ⟨hblock, hlt, hrest⟩ := block?_eq_some h hcut
    rw [matchingClose_of_some hd]
    simp only [hblock, if_pos hlt]
    rw [ih hrest]
    exact congrArg some (map_offsets block _).symm
  | case3 t close rest hcut hclose _ =>
    have hblock := block?_eq_none h hcut
    rw [matchingClose_of_some (h.ascii rfl).1]
    simp [hblock, closeEnd_eq name h, hclose]
  | case4 t close rest d hcut hclose hlen ih =>
    have hblock := block?_eq_none h hcut
    have hrest : Reads bytes (i + Text.byteLength close) rest :=
      Reads.add (by rwa [Tag.closing?_append hclose])
    have hpos := Text.byteLength_pos (Tag.closing?_append hclose) hlen
    rw [matchingClose_of_some (h.ascii rfl).1]
    simp only [hblock, if_true, closeEnd_eq name h, hclose, Option.bind_eq_bind, Option.bind_some,
      Option.map_some, Nat.add_sub_cancel, Nat.succ_ne_zero, if_false]
    rw [if_pos (Nat.lt_add_of_pos_right hpos), ih hrest]
    exact congrArg some (map_offsets close _).symm
  | case5 depth t tag closed rest hcut hclose hopen hlen ih =>
    have hblock := block?_eq_none h hcut
    have hrest : Reads bytes (i + Text.byteLength tag) rest :=
      Reads.add (by rwa [Tag.sameOpening?_append hopen])
    have hpos := Text.byteLength_pos (Tag.sameOpening?_append hopen) hlen
    have hdepth : (if closed = true then depth + 1 else depth + 1 + 1) =
        (if closed = true then depth else depth + 1) + 1 := by
      cases closed <;> rfl
    rw [matchingClose_of_some (h.ascii rfl).1]
    simp only [hblock, if_true, closeEnd_eq name h, hclose, openEnd_eq name h, hopen,
      Option.bind_eq_bind, Option.bind_some, Option.map_some, Option.map_none, hdepth]
    simp only [dite_eq_ite] at ih
    rw [if_pos (Nat.lt_add_of_pos_right hpos), ih hrest]
    exact congrArg some (map_offsets tag _).symm
  | case6 depth t hcut hclose hopen ih =>
    have hblock := block?_eq_none h hcut
    rw [matchingClose_of_some (h.ascii rfl).1]
    simp only [hblock, if_true, closeEnd_eq name h, hclose, openEnd_eq name h, hopen,
      Option.bind_eq_bind, Option.bind_some, Option.map_none]
    rw [ih (h.ascii rfl).2]
    exact congrArg some (map_offsets ['<'] _).symm
  | case7 depth c t hcut hc ih =>
    have hblock := block?_eq_none h hcut
    have hstep : matchingClose bytes name.utf8 (depth + 1) i =
        matchingClose bytes name.utf8 (depth + 1) (i + c.utf8Size) := by
      refine h.step (fun _ _ => matchingClose_wide) (fun hread => ?_) (fun _ => rfl)
      rw [matchingClose_of_some hread]
      simp only [hblock, if_neg hc]
    rw [hstep, ih h.next]
    exact congrArg some (map_offsets [c] _).symm

theorem matchingClose_contents (name : Text) (h : Reads bytes i s) :
    matchingClose bytes name.utf8 1 i = some ((Tag.contents? name s).map fun p =>
      (i + Text.byteLength p.1, i + Text.byteLength p.1 + Text.byteLength p.2.1)) :=
  matchingClose_eq name h

end Componentry.Cursor
