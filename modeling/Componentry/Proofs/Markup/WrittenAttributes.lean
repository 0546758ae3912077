import Componentry.Proofs.Markup.Tags

/-! # The scan and the parser agree on written attributes

Two readers meet the attributes of a tag.  The scan looks for the end of the tag
(`Tag.attributes?`), and the parser reads the attributes from what the scan leaves
before that end (`Attribute.parse`).  They have rules of their own for quotes, braces
and template blocks.

`WrittenAttribute` has the ways in which an attribute is written.  Whatever follows
the tag, the scan finds it with just these attributes (`Scan.next_writtenAttributes`),
and the parser reads them back (`Attribute.parse_writtenAttributes`).

They differ between braces.  For the scan a `%` or `#` right behind the opening brace
starts a template block, and quotes know no escapes; for the parser a backslash takes
the next character with it everywhere.  `Scan.next_unmatched` has a tag for each of
the scan's own rules.
-/
namespace Componentry

/-- An attribute as it is written. -/
inductive WrittenAttribute where
  /-- A key and a text between quotes. -/
  | quoted (key : Text) (quote : Char) (value : Text)
  /-- A key and an expression between braces. -/
  | braced (key source : Text)
  /-- Three dots and an expression between braces. -/
  | spread (source : Text)
  /-- A key alone. -/
  | flag (key : Text)
deriving DecidableEq, Repr

namespace WrittenAttribute

def source : WrittenAttribute → Text
  | quoted key quote value => ' ' :: key ++ '=' :: (quote :: value ++ [quote])
  | braced key source => ' ' :: key ++ '=' :: ('{' :: source ++ ['}'])
  | spread source => ' ' :: ('{' :: ('.' :: '.' :: '.' :: source) ++ ['}'])
  | flag key => ' ' :: key

def sources (attributes : List WrittenAttribute) : Text := attributes.flatMap source

/-- Whether a text can be the key of an attribute. -/
def isKey (key : Text) : Bool := !key.isEmpty && key.all Attribute.isKeyChar

def hasNoBraces (source : Text) : Bool := source.all fun c => c != '{' && c != '}'

/-- Whether keys, quotes and braces are told apart from what stands between them. -/
def isWellFormed : WrittenAttribute → Bool
  | quoted key quote value => isKey key && Block.isQuote quote && value.all (· != quote)
  | braced key source => isKey key && hasNoBraces source
  | spread source => hasNoBraces source
  | flag key => isKey key

/-- Whether the scan steps over the attribute. -/
def isScanned : WrittenAttribute → Bool
  | braced _ source =>
    Tag.quotesClosed none source && source.head? != some '%' && source.head? != some '#'
  | spread source => Tag.quotesClosed none source
  | _ => true

/-- Whether the parser finds the end of the attribute. -/
def isRead : WrittenAttribute → Bool
  | braced _ source => Attribute.escapedClosed none source
  | spread source => Attribute.escapedClosed none source
  | _ => true

/-- The attribute that is read. -/
def meaning : WrittenAttribute → Attribute
  | quoted key _ value => .literal key (.text value)
  | braced key source => .literal key (.expression source)
  | spread source => .spread (Attribute.spreadSource source)
  | flag key => .literal key .flag

theorem isKey_cons {key : Text} (h : isKey key = true) :
    ∃ c s, key = c :: s ∧ ∀ d ∈ c :: s, Attribute.isKeyChar d = true := by
  simp only [isKey, Bool.and_eq_true, List.all_eq_true] at h
  cases key with
  | nil => simp at h
  | cons c s => exact ⟨c, s, rfl, h.2⟩

theorem hasNoBraces_ne {s : Text} (h : hasNoBraces s = true) : ∀ c ∈ s, c ≠ '{' ∧ c ≠ '}' := by
  simpa [hasNoBraces] using h

/-! ## The scan -/

theorem spans_key {key : Text} (h : isKey key = true) : Tag.Spans (' ' :: key) := by
  obtain ⟨c, s, rfl, hall⟩ := isKey_cons h
  refine Tag.Spans.append (v := [' ']) (.fixed (by decide)) (.chars fun d hd => ?_)
  exact Attribute.isKeyChar_ne (hall d hd)

theorem spans_source {a : WrittenAttribute} (h : a.isWellFormed = true) (hs : a.isScanned = true) :
    Tag.Spans a.source := by
  have hequals : Tag.Spans ['='] := .fixed (by decide)
  cases a with
  | quoted key quote value =>
    simp only [isWellFormed, Bool.and_eq_true, List.all_eq_true, bne_iff_ne] at h
    obtain ⟨⟨hkey, hquote⟩, hvalue⟩ := h
    exact (spans_key hkey).append (hequals.append (.quoted hquote hvalue))
  | braced key source =>
    simp only [isWellFormed, isScanned, Bool.and_eq_true, bne_iff_ne] at h hs
    obtain ⟨⟨hquotes, hpercent⟩, hhash⟩ := hs
    refine (spans_key h.1).append (hequals.append (.braced hquotes (hasNoBraces_ne h.2) ?_))
    exact fun c hc => ⟨fun heq => hpercent (heq ▸ hc), fun heq => hhash (heq ▸ hc)⟩
  | spread source =>
    -- The dots stand behind the brace, so no template block starts there.
    have hdots : ∀ c ∈ '.' :: '.' :: '.' :: source, c ≠ '{' ∧ c ≠ '}' := by
      simpa using hasNoBraces_ne h
    have hquotes : Tag.quotesClosed none ('.' :: '.' :: '.' :: source) = true := hs
    refine Tag.Spans.append (v := [' ']) (.fixed (by decide)) (.braced hquotes hdots ?_)
    simp
  | flag key => exact spans_key h

theorem spans_sources {attributes : List WrittenAttribute}
    (h : attributes.all isWellFormed = true) (hs : attributes.all isScanned = true) :
    Tag.Spans (sources attributes) := by
  induction attributes with
  | nil => exact .nil
  | cons a attributes ih =>
    simp only [List.all_cons, Bool.and_eq_true] at h hs
    rw [sources, List.flatMap_cons]
    exact (spans_source h.1 hs.1).append (ih h.2 hs.2)

theorem atBoundary_sources (attributes : List WrittenAttribute) :
    Tag.atBoundary (sources attributes ++ ['/']) = true := by
  cases attributes with
  | nil => rfl
  | cons a attributes => cases a <;> rfl

end WrittenAttribute

open WrittenAttribute

/-- **The scan ends a tag behind the attributes that were written**, whatever follows the
tag. -/
theorem Scan.next_writtenAttributes {accept : Text → Bool} {name : Text}
    {attributes : List WrittenAttribute} (hname : Tag.isName name = true)
    (haccept : accept name = true) (h : attributes.all isWellFormed = true)
    (hs : attributes.all isScanned = true) (rest : Text) :
    Scan.next accept ('<' :: name ++ sources attributes ++ '/' :: '>' :: rest) =
      .found [] ⟨name, sources attributes, ['/', '>'], none⟩ rest :=
  Scan.next_closed hname haccept (atBoundary_sources attributes) (spans_sources h hs) rest

/-- A quoted `>`, an expression with a quote and a backslash in a string literal, a spread and
a flag: `a='>' b={f("\\'")} {...p} c`. -/
def fourWays : List WrittenAttribute :=
  [.quoted ['a'] '\'' ['>'], .braced ['b'] "f(\"\\'\")".toList, .spread ['p'], .flag ['c']]

theorem Scan.next_fourWays :
    (fourWays.all isWellFormed = true ∧ fourWays.all isScanned = true) ∧
      Scan.next (· == ['N']) ('<' :: ['N'] ++ sources fourWays ++ '/' :: '>' :: ['<', 'N']) =
        .found [] ⟨['N'], sources fourWays, ['/', '>'], none⟩ ['<', 'N'] :=
  ⟨by decide, Scan.next_writtenAttributes (by decide) (by decide) (by decide) (by decide) _⟩

/-- **Where the scan does not find what was written**: in `k={#x}` it reads a comment that is
never closed, in `k={"a\"b"}` a quote that is never closed, and a name with a space in it is
not the name of a tag.  The parser reads both attributes. -/
theorem Scan.next_unmatched :
    Scan.next (· == ['N']) ('<' :: ['N'] ++ (WrittenAttribute.braced ['k'] ['#', 'x']).source ++
        ['/', '>']) =
      .unmatched [] ['N'] ['<', 'N']
        ((WrittenAttribute.braced ['k'] ['#', 'x']).source ++ ['/', '>']) ∧
    Scan.next (· == ['N'])
        ('<' :: ['N'] ++ (WrittenAttribute.braced ['k'] ['"', 'a', '\\', '"', 'b', '"']).source ++
          ['/', '>']) =
      .unmatched [] ['N'] ['<', 'N']
        ((WrittenAttribute.braced ['k'] ['"', 'a', '\\', '"', 'b', '"']).source ++ ['/', '>']) ∧
    Scan.next (· == ['N', ' ', 'B']) ('<' :: ['N', ' ', 'B'] ++ ['/', '>']) = .done ∧
    [WrittenAttribute.braced ['k'] ['#', 'x'],
        .braced ['k'] ['"', 'a', '\\', '"', 'b', '"']].all isRead = true := by
  decide +kernel

/-! ## The parser -/

namespace Attribute

/-- A key that no `=` follows is an attribute alone. -/
theorem parse_flag {key rest : Text} (h : isKey key = true)
    (hhead : ∀ c ∈ rest.head?, isKeyChar c = false)
    (hequals : ∀ v, rest.dropWhile Text.isBlank ≠ '=' :: v) :
    parse (key ++ rest) = .literal key .flag :: parse rest := by
  obtain ⟨c, s, rfl, hall⟩ := isKey_cons h
  have hs : ∀ d ∈ s, isKeyChar d = true := fun d hd => hall d (by simp [hd])
  have hstop : rest.takeWhile isKeyChar = [] ∧ rest.dropWhile isKeyChar = rest := by
    cases rest with
    | nil => exact ⟨rfl, rfl⟩
    | cons d rest =>
      have hd := hhead d rfl
      exact ⟨List.takeWhile_cons_of_neg (by simp [hd]), List.dropWhile_cons_of_neg (by simp [hd])⟩
  have htake : (s ++ rest).takeWhile isKeyChar = s := by
    rw [List.takeWhile_append_of_pos hs, hstop.1, List.append_nil]
  have hdrop : (s ++ rest).dropWhile isKeyChar = rest := by
    rw [List.dropWhile_append_of_pos hs, hstop.2]
  rw [List.cons_append, parse, if_neg (isKeyChar_ne (hall c (by simp))).2.1,
    if_pos (hall c (by simp))]
  simp only [htake]
  split
  · rename_i v hv
    rw [hdrop] at hv
    exact absurd hv (hequals v)
  · rw [hdrop]

theorem parse_spread {x : Text} (h : escapedClosed none x = true) (hx : hasNoBraces x = true)
    (rest : Text) :
    parse ('{' :: ('.' :: '.' :: '.' :: x) ++ '}' :: rest) =
      .spread (spreadSource x) :: parse rest := by
  have hdots : ∀ c ∈ '.' :: '.' :: '.' :: x, c ≠ '{' ∧ c ≠ '}' := by
    simpa using hasNoBraces_ne hx
  have hclosed : escapedClosed none ('.' :: '.' :: '.' :: x) = true := by
    rw [escapedClosed_char (by decide), escapedClosed_char (by decide),
      escapedClosed_char (by decide)]
    exact h
  have hbraces : braces? ('.' :: '.' :: '.' :: x ++ '}' :: rest) =
      some ('.' :: '.' :: '.' :: x, rest) := bracesFrom?_closed hclosed hdots rest
  have hspread : spread? ('.' :: '.' :: '.' :: x) = some (.spread (spreadSource x)) := rfl
  rw [List.cons_append, parse_braces hbraces, hspread]
  rfl

/-! Behind a key alone stands nothing or the blank of the next attribute. -/

theorem sources_head (attributes : List WrittenAttribute) :
    ∀ c ∈ (sources attributes).head?, isKeyChar c = false := by
  have hblank : isKeyChar ' ' = false := by decide
  cases attributes with
  | nil => simp [sources]
  | cons a attributes => cases a <;> simpa [sources, source] using hblank

theorem isKeyChar_stops {c : Char} (h : isKeyChar c = true) :
    Text.isBlank c = false ∧ c ≠ '=' := by
  simp only [isKeyChar, Bool.not_eq_true', Bool.or_eq_false_iff, decide_eq_false_iff_not] at h
  exact ⟨h.1.1.1.1.1.1.1, h.1.1.1.1.1.1.2⟩

theorem source_dropWhile {a : WrittenAttribute} (h : a.isWellFormed = true) (rest : Text) :
    ∃ c s, c ≠ '=' ∧ (a.source ++ rest).dropWhile Text.isBlank = c :: s := by
  -- The first character behind the blank is one of a key, or the brace of a spread.
  have hkey : ∀ {key t : Text}, isKey key = true →
      ∃ c s, c ≠ '=' ∧ (' ' :: (key ++ t)).dropWhile Text.isBlank = c :: s := by
    intro key t hk
    obtain ⟨c, s, rfl, hall⟩ := isKey_cons hk
    obtain ⟨hblank, hequals⟩ := isKeyChar_stops (hall c (by simp))
    refine ⟨c, s ++ t, hequals, ?_⟩
    rw [List.dropWhile_cons_of_pos (by decide), List.cons_append,
      List.dropWhile_cons_of_neg (by simp [hblank])]
  cases a with
  | quoted key quote value =>
    simp only [isWellFormed, Bool.and_eq_true] at h
    simpa [source] using hkey h.1.1
  | braced key source =>
    simp only [isWellFormed, Bool.and_eq_true] at h
    simpa [WrittenAttribute.source] using hkey h.1
  | spread source => exact ⟨'{', _, by decide, rfl⟩
  | flag key => exact hkey h

theorem sources_dropWhile {attributes : List WrittenAttribute}
    (h : attributes.all isWellFormed = true) (v : Text) :
    (sources attributes).dropWhile Text.isBlank ≠ '=' :: v := by
  cases attributes with
  | nil => simp [sources]
  | cons a attributes =>
    simp only [List.all_cons, Bool.and_eq_true] at h
    obtain ⟨c, s, hne, hdrop⟩ := source_dropWhile h.1 (sources attributes)
    rw [sources, List.flatMap_cons, ← sources, hdrop]
    exact fun heq => hne (List.cons.inj heq).1

theorem isBlank_of_isQuote {q : Char} (h : Block.isQuote q = true) : Text.isBlank q = false := by
  simp only [Block.isQuote, Bool.or_eq_true, decide_eq_true_eq] at h
  rcases h with rfl | rfl <;> decide

theorem parse_writtenAttribute {a : WrittenAttribute} (h : a.isWellFormed = true)
    (hr : a.isRead = true) {attributes : List WrittenAttribute}
    (hrest : attributes.all isWellFormed = true) :
    parse (a.source ++ sources attributes) = a.meaning :: parse (sources attributes) := by
  cases a with
  | quoted key quote value =>
    simp only [isWellFormed, Bool.and_eq_true, List.all_eq_true, bne_iff_ne] at h
    obtain ⟨⟨hkey, hquote⟩, hvalue⟩ := h
    obtain ⟨c, s, rfl, hall⟩ := isKey_cons hkey
    have hp := parse_keyed hall (List.forall_mem_nil _) (List.forall_mem_nil _)
      (isBlank_of_isQuote hquote) (value_quoted hquote hvalue (sources attributes))
    have hspaced := (parse_blank (c := ' ') rfl _).trans hp
    simpa [source, meaning] using hspaced
  | braced key source =>
    simp only [isWellFormed, Bool.and_eq_true] at h
    obtain ⟨c, s, rfl, hall⟩ := isKey_cons h.1
    have hp := parse_keyed hall (List.forall_mem_nil _) (List.forall_mem_nil _) (by decide)
      (value_braced hr (hasNoBraces_ne h.2) (sources attributes))
    have hspaced := (parse_blank (c := ' ') rfl _).trans hp
    simpa [WrittenAttribute.source, meaning] using hspaced
  | spread source =>
    have hp := parse_spread hr h (sources attributes)
    rw [WrittenAttribute.source, List.cons_append, parse_blank (by decide)]
    simpa [meaning] using hp
  | flag key =>
    rw [WrittenAttribute.source, List.cons_append, parse_blank (by decide)]
    exact parse_flag h (sources_head attributes) (sources_dropWhile hrest)

/-- **Written attributes are read back.** -/
theorem parse_writtenAttributes {attributes : List WrittenAttribute}
    (h : attributes.all isWellFormed = true) (hr : attributes.all isRead = true) :
    parse (sources attributes) = attributes.map WrittenAttribute.meaning := by
  induction attributes with
  | nil => rw [sources, List.flatMap_nil, parse, List.map_nil]
  | cons a attributes ih =>
    simp only [List.all_cons, Bool.and_eq_true] at h hr
    rw [sources, List.flatMap_cons, ← sources, parse_writtenAttribute h.1 hr.1 h.2, ih h.2 hr.2,
      List.map_cons]

end Attribute

end Componentry
