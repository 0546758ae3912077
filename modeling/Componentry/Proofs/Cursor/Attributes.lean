import Componentry.Cursor.Attribute
import Componentry.Proofs.Cursor.Tags

/-! # Attributes, read by bytes and by characters

Every loop of the reading of attributes by bytes ends, every cut that it makes is at
the start of a character, and what it finds is what the reading by characters finds
(`attributes_eq`, `pieces_eq`, `props_eq`).  The offset at which a loop goes on is
described by the text that is left there (`Text.atByte?`).

In a brace a backslash takes one byte with it, so the search for the closing brace may
jump into a character; it passes over the rest of it (`braceEnd_eq`).
-/
namespace Componentry.Cursor

variable {bytes : List UInt8} {i : Nat} {s : Text}

/-! ## Braces -/

/-- Between braces the search passes over every byte outside of ASCII. -/
theorem braceEnd_wide {literal : Option Char} (hl : ∀ q ∈ literal, Text.isAscii q = true)
    {depth : Int} {j : Nat} {d : Char} (hd : read? bytes j = some d)
    (hascii : Text.isAscii d = false) :
    braceEnd bytes literal depth j = braceEnd bytes literal depth (j + 1) := by
  rw [braceEnd_of_some hd]
  cases literal with
  | none =>
    simp [isQuote_of_wide hascii, wide_ne hascii (show Text.isAscii '\\' = true from rfl),
      wide_ne hascii (show Text.isAscii '{' = true from rfl),
      wide_ne hascii (show Text.isAscii '}' = true from rfl)]
  | some q => simp [wide_ne hascii (show Text.isAscii '\\' = true from rfl), wide_ne hascii (hl q rfl)]

/-- A backslash is taken for itself only at the end of the text. -/
theorem escape_eq_false {c : Char} (h : Reads bytes i (c :: s))
    (hesc : ∀ d t, c = '\\' → s = d :: t → False) :
    (c = '\\' && i + 1 < bytes.length) = false := by
  rw [Bool.and_eq_false_iff, decide_eq_false_iff_not, decide_eq_false_iff_not]
  by_cases hc : c = '\\'
  · right
    subst hc
    cases s with
    | cons d t => exact (hesc d t rfl rfl).elim
    | nil =>
      have hlen := (h.ascii rfl).2.length
      rw [Text.byteLength_nil] at hlen
      omega
  · exact Or.inl hc

/-- **The closing brace is found over the bytes**, wherever the jumps behind a backslash
end.  `depth` braces besides that one are open. -/
theorem braceEnd_eq {literal : Option Char} (hl : ∀ q ∈ literal, Text.isAscii q = true)
    {depth : Nat} (h : Reads bytes i s) :
    braceEnd bytes literal (depth + 1) i =
      (Attribute.bracesFrom? literal depth s).map fun p => i + Text.byteLength p.1 + 1 := by
  fun_induction Attribute.bracesFrom? literal depth s generalizing i with
  | case1 => rw [braceEnd_of_none h.nil]; rfl
  | case2 literal depth d s ih =>
    obtain ⟨hread, hnext⟩ := h.ascii rfl
    have hlen := hnext.length
    have hpos := d.utf8Size_pos
    rw [Text.byteLength_cons] at hlen
    have hesc : (decide ('\\' = '\\') && decide (i + 1 < bytes.length)) = true := by
      simp
      omega
    -- The jump ends behind the first byte of `d`, from where the rest of it is passed over.
    have hjump : braceEnd bytes literal (depth + 1) (i + 2) =
        braceEnd bytes literal (depth + 1) (i + 1 + d.utf8Size) :=
      hnext.jump fun _ _ => braceEnd_wide hl
    rw [braceEnd_of_some hread, if_pos hesc, hjump, ih hl hnext.next, Nat.add_assoc i 1]
    exact (map_under ['\\', d] (fun n _ => n + 1) _).symm
  | case3 depth c s hesc q ih =>
    have hstep : braceEnd bytes (some q) (depth + 1) i =
        braceEnd bytes (if c = q then none else some q) (depth + 1) (i + c.utf8Size) := by
      refine h.step (fun _ _ => braceEnd_wide hl) (fun hread => ?_) (fun hc => ?_)
      · rw [braceEnd_of_some hread, escape_eq_false h hesc]
        rfl
      · rw [if_neg (wide_ne hc (hl q rfl))]
    rw [hstep, ih (isAscii_of_mem_literal (hl q rfl)) h.next]
    exact (map_under [c] (fun n _ => n + 1) _).symm
  | case4 depth c s hesc hq ih =>
    have hascii := isAscii_of_isQuote hq
    obtain ⟨hread, hnext⟩ := h.ascii hascii
    rw [braceEnd_of_some hread, escape_eq_false h hesc]
    simp only [Bool.false_eq_true, if_false, hq, if_true]
    have hsize : Text.byteLength [c] = 1 := utf8Size_of_isAscii hascii
    rw [ih (by simpa using hascii) hnext, ← hsize]
    exact (map_under [c] (fun n _ => n + Text.byteLength [c]) _).symm
  | case5 depth s hesc hq ih =>
    obtain ⟨hread, hnext⟩ := h.ascii rfl
    rw [braceEnd_of_some hread, escape_eq_false h hesc]
    simp only [Bool.false_eq_true, if_false, hq, if_true]
    rw [← Int.natCast_succ, ih hl hnext]
    exact (map_under ['{'] (fun n _ => n + 1) _).symm
  | case6 s hesc hq hopen =>
    obtain ⟨hread, -⟩ := h.ascii rfl
    rw [braceEnd_of_some hread, escape_eq_false h hesc]
    simp [hq]
  | case7 s d hesc hq hopen ih =>
    obtain ⟨hread, hnext⟩ := h.ascii rfl
    rw [braceEnd_of_some hread, escape_eq_false h hesc]
    have hdepth : ((d.succ : Nat) : Int) + 1 - 1 = (d : Int) + 1 := by omega
    have hne : (d : Int) + 1 ≠ 0 := by omega
    simp only [Bool.false_eq_true, if_false, hq, hopen, if_true, hdepth, hne]
    rw [ih hl hnext]
    exact (map_under ['}'] (fun n _ => n + 1) _).symm
  | case8 depth c s hesc hq hopen hclose ih =>
    have hstep : braceEnd bytes none (depth + 1) i =
        braceEnd bytes none (depth + 1) (i + c.utf8Size) := by
      refine h.step (fun _ _ => braceEnd_wide hl) (fun hread => ?_) (fun _ => rfl)
      rw [braceEnd_of_some hread, escape_eq_false h hesc]
      simp [hq, hopen, hclose]
    rw [hstep, ih hl h.next]
    exact (map_under [c] (fun n _ => n + 1) _).symm

variable {text : Text}

theorem braceEnd_of_open {t : Text} (h : Reads bytes i ('{' :: t)) :
    braceEnd bytes none 0 i =
      (Attribute.braces? t).map fun p => i + 1 + Text.byteLength p.1 + 1 := by
  obtain ⟨hread, hnext⟩ := h.ascii rfl
  rw [braceEnd_of_some hread]
  exact braceEnd_eq (by simp) hnext

/-- What is between braces is cut out of the text. -/
theorem braceEnd_cut {t inner rest : Text} (h : Text.atByte? i text = some ('{' :: t))
    (hbraces : Attribute.braces? t = some (inner, rest)) :
    ∃ stop, braceEnd text.utf8 none 0 i = some stop ∧
      text.slice? (i + 1) (stop - 1) = some inner ∧ Text.atByte? stop text = some rest := by
  have ht : Text.atByte? (i + 1) text = some (inner ++ '}' :: rest) := by
    rw [Attribute.bracesFrom?_append hbraces]
    exact atByte?_ascii h rfl
  refine ⟨i + 1 + Text.byteLength inner + 1, ?_, Text.slice?_add ht, ?_⟩
  · rw [braceEnd_of_open (.of_atByte? h), hbraces]
    rfl
  · exact atByte?_ascii (Text.atByte?_add ht) rfl

/-! ## Runs of characters -/

/-- What a predicate holds of is cut out of the text, if the predicate does not tell the
characters outside of ASCII apart. -/
theorem skipWhile_cut {p : Char → Bool} {b : Bool} (hp : ∀ d, Text.isAscii d = false → p d = b)
    (h : Text.atByte? i text = some s) :
    text.slice? i (skipWhile p text.utf8 i) = some (s.takeWhile p) ∧
      Text.atByte? (skipWhile p text.utf8 i) text = some (s.dropWhile p) := by
  rw [(Reads.of_atByte? h).skipWhile hp]
  rw [← List.takeWhile_append_dropWhile (p := p) (l := s)] at h
  exact ⟨Text.slice?_add h, Text.atByte?_add h⟩

theorem cut?_singleton (q : Char) (t : Text) :
    Text.cut? [q] t =
      (t.dropWhile (· != q)).tail?.map fun rest => (t.takeWhile (· != q), rest) := by
  induction t with
  | nil => rfl
  | cons c t ih =>
    by_cases hc : q = c
    · subst hc
      simp [Text.cut?, Text.dropPrefix?]
    · have hne : (c != q) = true := by simpa using Ne.symm hc
      rw [List.dropWhile_cons_of_pos (p := (· != q)) hne,
        List.takeWhile_cons_of_pos (p := (· != q)) hne]
      simp only [Text.cut?, Text.dropPrefix?, if_neg hc, ih, Option.map_map]
      rfl

/-- A quoted value ends before the next quote, or with the text. -/
theorem closingQuote_cut {q : Char} (hq : Text.isAscii q = true)
    (h : Text.atByte? i text = some s) {close : Nat}
    (hclose : close = ((find? [q] s).map (i + ·)).getD text.utf8.length) :
    text.slice? i close = some (s.takeWhile (· != q)) ∧
      Text.atByte? (min (close + 1) text.utf8.length) text =
        some ((s.dropWhile (· != q)).drop 1) := by
  have hlen := Text.atByte?_le h
  have hcut := cut?_singleton q s
  rw [find?, hcut] at hclose
  rw [Text.length_utf8] at hclose ⊢
  cases hdrop : s.dropWhile (· != q) with
  | nil =>
    have hs := List.takeWhile_append_dropWhile (p := (· != q)) (l := s)
    rw [hdrop, List.append_nil] at hs
    rw [hdrop] at hclose
    rw [← List.append_nil s] at h
    subst hclose
    simp only [List.tail?_nil, Option.map_none, Option.getD_none, hs, ← hlen]
    refine ⟨Text.slice?_add h, ?_⟩
    rw [Nat.min_eq_right (Nat.le_succ _)]
    exact Text.atByte?_add h
  | cons c rest =>
    rw [hdrop] at hclose hcut
    have hs := Text.cut?_eq_some hcut
    rw [hs, List.append_assoc] at h
    subst hclose
    have hclose := Text.atByte?_add h
    have hrest := Text.atByte?_add hclose
    have hle := Text.atByte?_le hrest
    rw [Text.byteLength_cons, Text.byteLength_nil, utf8Size_of_isAscii hq] at hrest hle
    simp only [List.tail?_cons, Option.map_some, Option.getD_some]
    refine ⟨Text.slice?_add h, ?_⟩
    rw [Nat.min_eq_left (by omega)]
    exact hrest

/-! ## Values -/

/-- A value that is a template block, as two braces open one. -/
theorem attributeValue_block {t : Text} (h : Text.atByte? i text = some ('{' :: '{' :: t)) :
    ∃ stop, attributeValue text i = some ((Attribute.value ('{' :: '{' :: t)).1, stop) ∧
      Text.atByte? stop text = some (Attribute.value ('{' :: '{' :: t)).2 := by
  have hreads := Reads.of_atByte? h
  obtain ⟨hread, hnext⟩ := hreads.ascii rfl
  obtain ⟨⟨block, rest⟩, hcut⟩ : ∃ found, Block.cut? ('{' :: '{' :: t) = some found := ⟨_, rfl⟩
  have hvalue : Attribute.value ('{' :: '{' :: t) = (.text block, rest) := by
    simp [Attribute.value, hcut, Block.isQuote]
  rw [← Block.cut?_append hcut] at h
  refine ⟨i + Text.byteLength block, ?_, by rw [hvalue, Text.atByte?_add h]⟩
  rw [attributeValue, hread, hvalue]
  simp [(hnext.ascii rfl).1, (block?_eq_some hreads hcut).1, Text.slice?_add h, Block.isQuote]

/-- A value in single braces, or with braces that are never closed. -/
theorem attributeValue_brace {t : Text} (h : Text.atByte? i text = some ('{' :: t))
    (hhead : t.head? ≠ some '{') :
    ∃ stop, attributeValue text i = some ((Attribute.value ('{' :: t)).1, stop) ∧
      Text.atByte? stop text = some (Attribute.value ('{' :: t)).2 := by
  have hreads := Reads.of_atByte? h
  obtain ⟨hread, hnext⟩ := hreads.ascii rfl
  have hmark : read? text.utf8 (i + 1) ≠ some '{' := by
    intro hmark
    obtain ⟨u, rfl⟩ := (hnext.read?_eq_iff rfl).1 hmark
    exact hhead rfl
  cases hbraces : Attribute.braces? t with
  | none =>
    have hvalue : Attribute.value ('{' :: t) = (.text ('{' :: t), []) := by
      simp [Attribute.value, hhead, hbraces, Block.isQuote]
    have hstop : braceEnd text.utf8 none 0 i = none := by
      rw [braceEnd_of_open hreads, hbraces]
      rfl
    refine ⟨text.utf8.length, ?_, ?_⟩
    · rw [attributeValue, hread, hvalue]
      simp [hmark, hstop, h, Block.isQuote]
    · rw [← List.append_nil ('{' :: t)] at h
      rw [hvalue, ← hreads.length, Text.atByte?_add h]
  | some found =>
    obtain ⟨inner, rest⟩ := found
    have hvalue : Attribute.value ('{' :: t) = (.expression inner, rest) := by
      simp [Attribute.value, hhead, hbraces, Block.isQuote]
    obtain ⟨stop, hstop, hslice, hrest⟩ := braceEnd_cut h hbraces
    refine ⟨stop, ?_, by rw [hvalue, hrest]⟩
    rw [attributeValue, hread, hvalue]
    simp [hmark, hstop, hslice, Block.isQuote]

/-- **A value is read by bytes** as it is by characters, and what follows it is left. -/
theorem attributeValue_eq (h : Text.atByte? i text = some s) :
    ∃ stop, attributeValue text i = some ((Attribute.value s).1, stop) ∧
      Text.atByte? stop text = some (Attribute.value s).2 := by
  have hreads := Reads.of_atByte? h
  cases s with
  | nil =>
    refine ⟨i, ?_, h⟩
    rw [attributeValue, hreads.nil]
    rfl
  | cons c t =>
    by_cases hquote : Block.isQuote c = true
    · have hascii := isAscii_of_isQuote hquote
      have ht := atByte?_ascii h hascii
      obtain ⟨hslice, hrest⟩ := closingQuote_cut hascii ht rfl
      rw [attributeValue, (hreads.ascii hascii).1]
      simp only [hquote, if_true, ht, Option.bind_eq_bind, Option.bind_some, hslice,
        Option.pure_def, Attribute.value]
      exact ⟨_, rfl, hrest⟩
    by_cases hopen : c = '{'
    · subst hopen
      by_cases hhead : t.head? = some '{'
      · obtain ⟨t, rfl⟩ := List.head?_eq_some_iff.1 hhead
        exact attributeValue_block h
      · exact attributeValue_brace h hhead
    · -- A bare value ends before the next blank.
      obtain ⟨d, hd, hdc⟩ := hreads.first
      have hdquote : Block.isQuote d = false := by
        rcases hdc with rfl | ⟨hascii, -⟩
        · simpa using hquote
        · exact isQuote_of_wide hascii
      have hdopen : d ≠ '{' := by
        rcases hdc with rfl | ⟨hascii, -⟩
        · exact hopen
        · exact wide_ne hascii rfl
      obtain ⟨hslice, hrest⟩ := skipWhile_cut (p := (!Text.isBlank ·)) (b := true)
        (fun d hd => by simp [isBlank_of_wide hd]) h
      rw [attributeValue, hd]
      simp only [hdquote, hdopen, hquote, hopen, Bool.false_eq_true, if_false, hslice,
        Option.bind_eq_bind, Option.bind_some, Option.pure_def, Attribute.value]
      exact ⟨_, rfl, hrest⟩

/-! ## Attributes -/

theorem isKeyChar_of_wide {d : Char} (hd : Text.isAscii d = false) :
    Attribute.isKeyChar d = true := by
  simp only [Attribute.isKeyChar, isBlank_of_wide hd, Bool.not_eq_true', Bool.or_eq_false_iff,
    decide_eq_false_iff_not]
  refine ⟨⟨⟨⟨⟨⟨⟨trivial, ?_⟩, ?_⟩, ?_⟩, ?_⟩, ?_⟩, ?_⟩, ?_⟩ <;> exact wide_ne hd rfl

theorem isKeyChar_eq_true {c : Char} (hc : Attribute.isKeyChar c = true) :
    Text.isBlank c = false ∧ c ≠ '/' ∧ c ≠ '{' := by
  simp only [Attribute.isKeyChar, Bool.not_eq_true', Bool.or_eq_false_iff,
    decide_eq_false_iff_not] at hc
  obtain ⟨⟨⟨⟨⟨⟨⟨hblank, -⟩, -⟩, hslash⟩, -⟩, -⟩, hopen⟩, -⟩ := hc
  exact ⟨hblank, hslash, hopen⟩

/-- The first byte of a key is one of a key. -/
theorem read?_key {c : Char} (h : Reads bytes i (c :: s)) (hc : Attribute.isKeyChar c = true) :
    ∃ d, read? bytes i = some d ∧ Attribute.isKeyChar d = true := by
  obtain ⟨d, hd, rfl | ⟨hascii, -⟩⟩ := h.first
  · exact ⟨d, hd, hc⟩
  · exact ⟨d, hd, isKeyChar_of_wide hascii⟩

/-- A key is cut out of the text. -/
theorem key_cut {c : Char} (h : Text.atByte? i text = some (c :: s))
    (hc : Attribute.isKeyChar c = true) :
    text.slice? i (skipWhile Attribute.isKeyChar text.utf8 i) =
        some (c :: s.takeWhile Attribute.isKeyChar) ∧
      Text.atByte? (skipWhile Attribute.isKeyChar text.utf8 i) text =
        some (s.dropWhile Attribute.isKeyChar) := by
  have hcut := skipWhile_cut (b := true) (fun _ => isKeyChar_of_wide) h
  rwa [List.takeWhile_cons_of_pos hc, List.dropWhile_cons_of_pos hc] at hcut

theorem attributesFrom_eq (h : Text.atByte? i text = some s) :
    attributesFrom text i = some (Attribute.parse s) := by
  have hreads := Reads.of_atByte? h
  fun_induction Attribute.parse s generalizing i with
  | case1 => rw [attributesFrom_of_none hreads.nil]
  | case2 t hbraces =>
    have hstop : braceEnd text.utf8 none 0 i = none := by
      rw [braceEnd_of_open hreads, hbraces]
      rfl
    rw [attributesFrom_of_some (hreads.ascii rfl).1]
    simp [hstop, Text.isBlank]
  | case3 t inner rest hbraces hlen a hspread ih | case4 t inner rest hbraces hlen hspread ih =>
    obtain ⟨stop, hstop, hslice, hrest⟩ := braceEnd_cut h hbraces
    have hlt : i < stop := Text.atByte?_lt h hrest (Nat.lt_succ_of_lt hlen)
    rw [attributesFrom_of_some (hreads.ascii rfl).1]
    simp [hstop, hslice, hlt, hspread, ih hrest (.of_atByte? hrest), Text.isBlank]
  | case5 c t hopen hkey key _ v hv =>
    rename_i hlen ih
    -- The byte at the cursor need not be the key's first character, but is one of a key.
    obtain ⟨d, hd, hdkey⟩ := read?_key hreads hkey
    obtain ⟨hblank, hslash, hdopen⟩ := isKeyChar_eq_true hdkey
    obtain ⟨hslice, hrest⟩ := key_cut h hkey
    obtain ⟨-, hnext⟩ := skipWhile_cut (b := false) (fun _ => isBlank_of_wide) hrest
    rw [hv] at hnext
    obtain ⟨-, hvalue⟩ := skipWhile_cut (b := false) (fun _ => isBlank_of_wide)
      (atByte?_ascii hnext rfl)
    obtain ⟨stop, hstop, hmore⟩ := attributeValue_eq hvalue
    have hlt : i < stop := Text.atByte?_lt h hmore (Nat.lt_succ_of_le hlen)
    rw [attributesFrom_of_some hd]
    simp [hblank, hslash, hdopen, hdkey, hslice, ((Reads.of_atByte? hnext).ascii rfl).1, hstop, hlt,
      ih hmore (.of_atByte? hmore), key]
  | case6 c t hopen hkey key hlen hv =>
    rename_i ih
    obtain ⟨d, hd, hdkey⟩ := read?_key hreads hkey
    obtain ⟨hblank, hslash, hdopen⟩ := isKeyChar_eq_true hdkey
    obtain ⟨hslice, hrest⟩ := key_cut h hkey
    obtain ⟨-, hnext⟩ := skipWhile_cut (b := false) (fun _ => isBlank_of_wide) hrest
    have hlt := Text.atByte?_lt h hrest (Nat.lt_succ_of_le hlen)
    -- What follows the key and blanks is not `=`, so the next attribute starts behind the key.
    have hequals : read? text.utf8 (skipWhile Text.isBlank text.utf8
        (skipWhile Attribute.isKeyChar text.utf8 i)) ≠ some '=' := by
      intro hequals
      obtain ⟨v, hv'⟩ := ((Reads.of_atByte? hnext).read?_eq_iff rfl).1 hequals
      exact hv v hv'
    rw [attributesFrom_of_some hd]
    simp [hblank, hslash, hdopen, hdkey, hslice, hequals, hlt, ih hrest (.of_atByte? hrest), key]
  | case7 c t hopen hkey ih =>
    -- Every character outside of ASCII may stand in a key.
    have hascii : Text.isAscii c = true :=
      Bool.of_not_eq_false fun hwide => hkey (isKeyChar_of_wide hwide)
    have ht := atByte?_ascii h hascii
    rw [attributesFrom_of_some (hreads.ascii hascii).1]
    simp [hopen, hkey, ih ht (.of_atByte? ht)]

/-- **The attributes of a text are read by bytes** as they are by characters. -/
theorem attributes_eq (text : Text) : attributes text = some (Attribute.parse text) :=
  attributesFrom_eq (i := 0) (Text.atByte?_zero text)

/-! ## Props -/

/-- The offsets around an occurrence cut the text before it and the text after it. -/
theorem find?_eq_some {p before after : Text} (h : Text.cut? p s = some (before, after)) :
    find? p s = some (Text.byteLength before) ∧
      s.slice? 0 (Text.byteLength before) = some before ∧
      Text.atByte? (Text.byteLength before + Text.byteLength p) s = some after := by
  have hs : Text.atByte? 0 s = some (before ++ (p ++ after)) := by
    rw [← List.append_assoc, ← Text.cut?_eq_some h]
    exact Text.atByte?_zero s
  have hbefore := Text.slice?_add hs
  have hafter := Text.atByte?_add (Text.atByte?_add hs)
  rw [Nat.zero_add] at hbefore hafter
  exact ⟨by rw [find?, h]; rfl, hbefore, hafter⟩

theorem find?_eq_none {p : Text} (h : Text.cut? p s = none) : find? p s = none := by
  rw [find?, h]
  rfl

/-- **The pieces of an attribute's text** are found by their offsets. -/
theorem pieces_eq (s : Text) : pieces s = some (AttributeValue.pieces s) := by
  fun_induction AttributeValue.pieces s with
  | case1 s hopen hempty | case2 s hopen hempty =>
    rw [pieces]
    simp [find?_eq_none hopen, hempty]
  | case3 s before after hopen hclose =>
    obtain ⟨hstart, -, hafter⟩ := find?_eq_some hopen
    have hne : s.isEmpty = false := by
      rw [Text.cut?_eq_some hopen]
      simp
    rw [pieces]
    simp [hstart, show Text.atByte? (Text.byteLength before + 2) s = some after from hafter,
      find?_eq_none hclose, hne]
  | case4 s before after hopen inner rest hclose hlen tail hempty
  | case5 s before after hopen inner rest hclose hlen tail hempty =>
    rename_i ih
    obtain ⟨hstart, hbefore, hafter⟩ := find?_eq_some hopen
    obtain ⟨hlength, -, -⟩ := find?_eq_some hclose
    change Text.atByte? (Text.byteLength before + 2) s = some after at hafter
    have hinner := hafter
    rw [Text.cut?_eq_some hclose, List.append_assoc] at hinner
    have hrest : Text.atByte? (Text.byteLength before + 2 + Text.byteLength inner + 2) s =
        some rest := Text.atByte?_add (v := ['}', '}']) (Text.atByte?_add hinner)
    rw [pieces]
    simp only [hstart, hafter, hlength, hbefore, Text.slice?_add hinner, hrest, hlen, ih,
      hempty, if_true, Option.bind_eq_bind, Option.bind_some]
    rfl

theorem valueSource_eq (value : AttributeValue) : valueSource value = some value.source := by
  cases value with
  | text value =>
    rw [valueSource, pieces_eq]
    rfl
  | expression source => rfl
  | flag => rfl

theorem addProps_eq (props : Props) (attributes : List Attribute) :
    addProps props attributes =
      some ⟨props.spreads ++ (Props.ofAttributes attributes).spreads,
        props.entries ++ (Props.ofAttributes attributes).entries⟩ := by
  induction attributes generalizing props with
  | nil => simp [addProps, Props.ofAttributes]
  | cons first more ih =>
    cases first with
    | spread source => simp [addProps, ih, Props.ofAttributes]
    | literal key value => simp [addProps, ih, valueSource_eq, Props.ofAttributes]

/-- **The props of an invocation** are made of its attributes' text. -/
theorem props_eq (text : Text) : props text = some (Props.ofText text) := by
  rw [props, attributes_eq]
  exact addProps_eq ⟨[], []⟩ _

end Componentry.Cursor
