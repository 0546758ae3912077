import Componentry.Proofs.Cursor.Attributes
import Componentry.Proofs.Markup.WrittenAttributes

/-! # Parsing undoes printing for attributes

An attribute is printed with a layout: the white space in front of it, the white space
around its equals sign, and the quote of its text (`Attribute.printed`).  A list of printed
attributes is read back as it was, whatever the layouts are (`Attribute.parse_printedText`),
and so is it over the bytes, where no text makes the reading fail
(`Cursor.attributes_printedText`).

What stands between braces may hold braces of its own.  The search for the closing brace
decides whether it can be printed (`Attribute.isBraced`); that search does not look behind
the brace it finds (`Attribute.bracesFrom?_extend`), so the neighbours of an attribute play
no part in it.
-/
namespace Componentry

namespace Attribute

open WrittenAttribute

/-! ## Layouts -/

/-- How an attribute is printed. -/
structure Layout where
  /-- The white space in front of the attribute. -/
  gap : Text
  /-- The white space in front of the equals sign. -/
  before : Text
  /-- The white space behind the equals sign. -/
  after : Text
  /-- The quote around a text. -/
  quote : Char
deriving DecidableEq, Repr

/-- Whether a layout keeps attributes apart. -/
def Layout.isWellFormed (l : Layout) : Bool :=
  !l.gap.isEmpty && l.gap.all Text.isBlank && l.before.all Text.isBlank &&
    l.after.all Text.isBlank && Block.isQuote l.quote

/-- What stands behind the key of a literal. -/
def printedValue (l : Layout) : AttributeValue → Text
  | .text v => l.before ++ '=' :: (l.after ++ (l.quote :: v ++ [l.quote]))
  | .expression e => l.before ++ '=' :: (l.after ++ ('{' :: e ++ ['}']))
  | .flag => []

/-- An attribute as text. -/
def printed (l : Layout) : Attribute → Text
  | literal key value => l.gap ++ (key ++ printedValue l value)
  | spread s => l.gap ++ ('{' :: ('.' :: '.' :: '.' :: s) ++ ['}'])

/-- Attributes as text, one after the other. -/
def printedText (attributes : List (Layout × Attribute)) : Text :=
  attributes.flatMap fun p => p.2.printed p.1

/-- Whether braces around a text are balanced: the search that starts at the opening brace
ends behind the closing one. -/
def isBraced (inner : Text) : Bool :=
  Cursor.braceEnd (Text.utf8 ('{' :: inner ++ ['}'])) none 0 0 ==
    some (Text.byteLength ('{' :: inner ++ ['}']))

/-- Whether an attribute can be told from its text. -/
def isPrintable (quote : Char) : Attribute → Bool
  | literal key (.text v) => isKey key && v.all (· != quote)
  | literal key (.expression e) => isKey key && e.head? != some '{' && isBraced e
  | literal key .flag => isKey key
  | spread s =>
    !s.isEmpty && Text.trim s == s && s.head? != some '.' && isBraced ('.' :: '.' :: '.' :: s)

/-- Whether a list of attributes can be read back from its text. -/
def arePrintable (attributes : List (Layout × Attribute)) : Bool :=
  attributes.all fun p => p.1.isWellFormed && p.2.isPrintable p.1.quote

/-! ## Balanced braces -/

/-- A backslash at the end of a text takes no character with it, and no brace follows. -/
theorem ne_backslash {literal : Option Char} {depth : Nat} {c : Char} {s : Text} {found : Text × Text}
    (h : bracesFrom? literal depth s = some found)
    (hesc : ∀ d t, c = '\\' → s = d :: t → False) : c ≠ '\\' := by
  rintro rfl
  cases s with
  | nil => cases h
  | cons d t => exact hesc d t rfl rfl

/-- What is found for a closing brace does not depend on the text behind it. -/
theorem bracesFrom?_extend {literal : Option Char} {depth : Nat} {s inner rest : Text}
    (h : bracesFrom? literal depth s = some (inner, rest)) (more : Text) :
    bracesFrom? literal depth (s ++ more) = some (inner, rest ++ more) := by
  fun_induction bracesFrom? literal depth s generalizing inner with
  | case1 => cases h
  | case2 literal depth d s ih =>
    obtain ⟨⟨inner', rest'⟩, hs, heq⟩ := Option.map_eq_some_iff.1 h
    cases heq
    rw [List.cons_append, List.cons_append, bracesFrom?, ih hs]
    rfl
  | case3 depth c s hesc q ih =>
    obtain ⟨⟨inner', rest'⟩, hs, heq⟩ := Option.map_eq_some_iff.1 h
    cases heq
    rw [List.cons_append, bracesFrom?.eq_def]
    simp [ne_backslash hs hesc, ih hs]
  | case4 depth c s hesc hq ih =>
    obtain ⟨⟨inner', rest'⟩, hs, heq⟩ := Option.map_eq_some_iff.1 h
    cases heq
    rw [List.cons_append, bracesFrom?.eq_def]
    simp [ne_backslash hs hesc, hq, ih hs]
  | case5 depth s hesc hq ih =>
    obtain ⟨⟨inner', rest'⟩, hs, heq⟩ := Option.map_eq_some_iff.1 h
    cases heq
    rw [List.cons_append, bracesFrom?.eq_def]
    simp [hq, ih hs]
  | case6 s hesc hq hopen =>
    cases h
    rw [List.cons_append, bracesFrom?.eq_def]
    simp [hq]
  | case7 s d hesc hq hopen ih =>
    obtain ⟨⟨inner', rest'⟩, hs, heq⟩ := Option.map_eq_some_iff.1 h
    cases heq
    rw [List.cons_append, bracesFrom?.eq_def]
    simp [hq, ih hs]
  | case8 depth c s hesc hq hopen hclose ih =>
    obtain ⟨⟨inner', rest'⟩, hs, heq⟩ := Option.map_eq_some_iff.1 h
    cases heq
    rw [List.cons_append, bracesFrom?.eq_def]
    simp [ne_backslash hs hesc, hq, hopen, hclose, ih hs]

/-- Balanced braces are closed at their closing brace, whatever follows it. -/
theorem braces?_of_isBraced {inner : Text} (h : isBraced inner = true) (rest : Text) :
    braces? (inner ++ '}' :: rest) = some (inner, rest) := by
  have hreads : Cursor.Reads (Text.utf8 ('{' :: inner ++ ['}'])) 0 ('{' :: (inner ++ ['}'])) :=
    .of_atByte? (Text.atByte?_zero _)
  rw [isBraced, beq_iff_eq, Cursor.braceEnd_of_open hreads] at h
  obtain ⟨⟨found, left⟩, hfound, hlength⟩ := Option.map_eq_some_iff.1 h
  -- The search ends with the text, so nothing is left, and the inside is what was found.
  have happ := bracesFrom?_append hfound
  have hbytes := congrArg Text.byteLength happ
  have hsizes : '{'.utf8Size = 1 ∧ '}'.utf8Size = 1 := ⟨rfl, rfl⟩
  simp only [Text.byteLength_append, Text.byteLength_cons, Text.byteLength_nil] at hbytes hlength
  have hleft : left = [] := Text.byteLength_eq_zero.1 (by omega)
  subst hleft
  obtain rfl := List.append_cancel_right happ
  have hclosed := bracesFrom?_extend hfound rest
  rw [List.append_assoc] at hclosed
  exact hclosed

/-! ## Printed attributes are read back -/

theorem spreadSource_eq_self {s : Text} (htrim : Text.trim s = s) (hne : s ≠ [])
    (hdot : s.head? ≠ some '.') : spreadSource s = s := by
  unfold spreadSource
  rw [htrim]
  split
  · exact absurd rfl hne
  · exact absurd rfl hdot
  · exact absurd rfl hdot
  · rfl

/-- A layout as facts about its characters. -/
theorem Layout.isWellFormed_iff {l : Layout} :
    l.isWellFormed = true ↔
      l.gap ≠ [] ∧ (∀ c ∈ l.gap, Text.isBlank c = true) ∧ (∀ c ∈ l.before, Text.isBlank c = true) ∧
        (∀ c ∈ l.after, Text.isBlank c = true) ∧ Block.isQuote l.quote = true := by
  simp [isWellFormed, and_assoc]

/-- Behind the white space in front of an attribute stands a character that is neither blank
nor the sign of a value. -/
theorem printed_starts {l : Layout} {a : Attribute} (h : a.isPrintable l.quote = true) :
    ∃ c w, a.printed l = l.gap ++ c :: w ∧ Text.isBlank c = false ∧ c ≠ '=' := by
  cases a with
  | spread s => exact ⟨'{', _, rfl, by decide, by decide⟩
  | literal key value =>
    have hkey : isKey key = true := by
      cases value <;> simp only [isPrintable, Bool.and_eq_true] at h
      · exact h.1
      · exact h.1.1
      · exact h
    obtain ⟨c, s, rfl, hall⟩ := isKey_cons hkey
    obtain ⟨hblank, hequals⟩ := isKeyChar_stops (hall c (by simp))
    exact ⟨c, s ++ printedValue l value, rfl, hblank, hequals⟩

/-- Behind a key alone stands nothing or the white space of the next attribute. -/
theorem printedText_starts {attributes : List (Layout × Attribute)}
    (h : arePrintable attributes = true) :
    (∀ c ∈ (printedText attributes).head?, isKeyChar c = false) ∧
      ∀ v, (printedText attributes).dropWhile Text.isBlank ≠ '=' :: v := by
  cases attributes with
  | nil => simp [printedText]
  | cons first attributes =>
    obtain ⟨l, a⟩ := first
    simp only [arePrintable, List.all_cons, Bool.and_eq_true] at h
    obtain ⟨hgap, hblanks, -⟩ := Layout.isWellFormed_iff.1 h.1.1
    obtain ⟨c, w, hprinted, hblank, hequals⟩ := printed_starts h.1.2
    rw [printedText, List.flatMap_cons, hprinted, List.append_assoc, List.cons_append,
      dropWhile_append_cons hblanks hblank]
    refine ⟨?_, fun v heq => hequals (List.cons.inj heq).1⟩
    obtain ⟨d, gap, hd⟩ := List.exists_cons_of_ne_nil hgap
    rw [hd] at hblanks ⊢
    simp [isKeyChar, hblanks d (by simp)]

/-- A printed attribute is read back if what follows it cannot belong to a key alone. -/
theorem parse_printed {l : Layout} {a : Attribute} (hl : l.isWellFormed = true)
    (h : a.isPrintable l.quote = true) {rest : Text}
    (hhead : ∀ c ∈ rest.head?, isKeyChar c = false)
    (hequals : ∀ v, rest.dropWhile Text.isBlank ≠ '=' :: v) :
    parse (a.printed l ++ rest) = a :: parse rest := by
  obtain ⟨-, hgap, hbefore, hafter, hquote⟩ := Layout.isWellFormed_iff.1 hl
  cases a with
  | spread s =>
    simp only [isPrintable, Bool.and_eq_true, Bool.not_eq_true', List.isEmpty_eq_false_iff,
      beq_iff_eq, bne_iff_ne] at h
    obtain ⟨⟨⟨hne, htrim⟩, hdot⟩, hbraced⟩ := h
    have hspread : spread? ('.' :: '.' :: '.' :: s) = some (.spread (spreadSource s)) := rfl
    have hread := parse_braces (braces?_of_isBraced hbraced rest)
    rw [hspread, spreadSource_eq_self htrim hne hdot] at hread
    rw [printed, List.append_assoc, parse_blanks hgap]
    simpa using hread
  | literal key value =>
    rw [printed, List.append_assoc, parse_blanks hgap]
    cases value with
    | flag =>
      rw [printedValue, List.append_nil]
      exact parse_flag h hhead hequals
    | text v =>
      simp only [isPrintable, Bool.and_eq_true, List.all_eq_true, bne_iff_ne] at h
      obtain ⟨c, s, rfl, hall⟩ := isKey_cons h.1
      have hread := parse_keyed hall hbefore hafter (isBlank_of_isQuote hquote)
        (value_quoted hquote h.2 rest)
      simpa [printedValue] using hread
    | expression e =>
      simp only [isPrintable, Bool.and_eq_true, bne_iff_ne] at h
      obtain ⟨⟨hkey, hbrace⟩, hbraced⟩ := h
      obtain ⟨c, s, rfl, hall⟩ := isKey_cons hkey
      have hread := parse_keyed hall hbefore hafter (by decide)
        (value_balanced (braces?_of_isBraced hbraced rest) hbrace)
      simpa [printedValue] using hread

/-- **Printed attributes are read back.** -/
theorem parse_printedText {attributes : List (Layout × Attribute)}
    (h : arePrintable attributes = true) :
    parse (printedText attributes) = attributes.map Prod.snd := by
  induction attributes with
  | nil => rw [printedText, List.flatMap_nil, parse, List.map_nil]
  | cons first attributes ih =>
    obtain ⟨l, a⟩ := first
    rw [arePrintable, List.all_cons, ← arePrintable, Bool.and_eq_true, Bool.and_eq_true] at h
    obtain ⟨hhead, hequals⟩ := printedText_starts h.2
    rw [printedText, List.flatMap_cons, ← printedText, parse_printed h.1.1 h.1.2 hhead hequals,
      ih h.2, List.map_cons]

end Attribute

/-! ## Reading over the bytes -/

namespace Cursor

/-- **Parsing undoes printing for attributes.**  The reading over the bytes gives back every
list of printable attributes, in order and whatever their layouts are.  On every other text
it ends as well, and all its cuts are inside of the text and at the start of a character:
it gives what the reading by characters gives. -/
theorem attributes_printedText :
    (∀ attributes : List (Attribute.Layout × Attribute),
        Attribute.arePrintable attributes = true →
        Cursor.attributes (Attribute.printedText attributes) = some (attributes.map Prod.snd)) ∧
      ∀ text : Text, Cursor.attributes text = some (Attribute.parse text) := by
  refine ⟨fun attributes h => ?_, attributes_eq⟩
  rw [attributes_eq, Attribute.parse_printedText h]

/-- All forms with braces and quotes inside of them:
`\tä-b = 'say "hi"' c={ {"}": [d]} } e` and then, behind a line feed, `{...m({"\"}": 1})}`. -/
def fourPrinted : List (Attribute.Layout × Attribute) :=
  [(⟨['\t'], [' '], [' '], '\''⟩, .literal "ä-b".toList (.text "say \"hi\"".toList)),
    (⟨[' '], [], [], '"'⟩, .literal ['c'] (.expression " \x7b\"\x7d\": [d]\x7d ".toList)),
    (⟨[' '], [], [], '"'⟩, .literal ['e'] .flag),
    (⟨['\n'], [], [], '"'⟩, .spread "m(\x7b\"\\\"\x7d\": 1\x7d)".toList)]

theorem attributes_fourPrinted :
    Attribute.arePrintable fourPrinted = true ∧
      Cursor.attributes (Attribute.printedText fourPrinted) = some (fourPrinted.map Prod.snd) := by
  have h : Attribute.arePrintable fourPrinted = true := by decide +kernel
  exact ⟨h, attributes_printedText.1 fourPrinted h⟩

end Cursor

end Componentry
