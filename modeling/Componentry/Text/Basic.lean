/-!
# Texts and positions

Every document, name and rendered result is a `Text`: its characters in order.
Functions that cut a text return the pieces, so that what is cut off and what is
left can be put together again; positions are read off the pieces afterwards, as
byte offsets of the UTF-8 form (`byteLength`).

Two notions of white space are used.  Markup and attribute text is separated by
the five **blanks** of ASCII (`isBlank`); everything else trims and splits at
**spaces** in the sense of the Unicode property `White_Space` (`isSpace`).
-/

namespace Componentry

/-- A piece of text: its characters in order. -/
abbrev Text := List Char

namespace Text

/-! ## Positions -/

/-- The number of bytes of a text's UTF-8 form. -/
def byteLength : Text → Nat
  | [] => 0
  | c :: s => c.utf8Size + byteLength s

@[simp] theorem byteLength_nil : byteLength [] = 0 := rfl

@[simp] theorem byteLength_cons (c : Char) (s : Text) :
    byteLength (c :: s) = c.utf8Size + byteLength s := rfl

@[simp] theorem byteLength_append (s t : Text) :
    byteLength (s ++ t) = byteLength s + byteLength t := by
  induction s with
  | nil => simp
  | cons c s ih => simp [ih, Nat.add_assoc]

/-- The UTF-8 form of a text. -/
def utf8 (s : Text) : List UInt8 := s.flatMap String.utf8EncodeChar

/-- The text that bytes are the UTF-8 form of, if there is one. -/
def ofUtf8? (bytes : List UInt8) : Option Text :=
  (String.fromUTF8? ⟨bytes.toArray⟩).map String.toList

/-- The rest of a text from byte offset `n` on, if a character starts there or
the text ends there. -/
def atByte? : Nat → Text → Option Text
  | 0, s => some s
  | _ + 1, [] => none
  | n + 1, c :: s => if c.utf8Size ≤ n + 1 then atByte? (n + 1 - c.utf8Size) s else none

/-- The rest of a text from the first character at or after byte offset `n` on.
Behind the end of the text nothing is left. -/
def fromByte : Nat → Text → Text
  | 0, s => s
  | _ + 1, [] => []
  | n + 1, c :: s => fromByte (n + 1 - c.utf8Size) s

/-! ## Cutting -/

/-- What follows `p` in `s`, if `s` starts with `p`. -/
def dropPrefix? : Text → Text → Option Text
  | [], s => some s
  | _ :: _, [] => none
  | a :: p, b :: s => if a = b then dropPrefix? p s else none

/-- Whether `s` starts with `p`. -/
def startsWith (p s : Text) : Bool := (dropPrefix? p s).isSome

theorem dropPrefix?_eq_some {p s r : Text} : dropPrefix? p s = some r ↔ s = p ++ r := by
  induction p generalizing s with
  | nil => simp [dropPrefix?, eq_comm]
  | cons a p ih =>
    cases s with
    | nil => simp [dropPrefix?]
    | cons b s =>
      by_cases h : a = b
      · simp [dropPrefix?, h, ih]
      · simp [dropPrefix?, h, Ne.symm h]

theorem dropPrefix?_length {p s r : Text} (h : dropPrefix? p s = some r) :
    r.length + p.length = s.length := by
  rw [dropPrefix?_eq_some.1 h, List.length_append, Nat.add_comm]

theorem dropWhile_length_le (p : Char → Bool) (s : Text) : (s.dropWhile p).length ≤ s.length :=
  (List.dropWhile_sublist p).length_le

/-- The text before the first occurrence of `p` and the text after it. -/
def cut? (p : Text) : Text → Option (Text × Text)
  | [] => (dropPrefix? p []).map ([], ·)
  | c :: s =>
    match dropPrefix? p (c :: s) with
    | some r => some ([], r)
    | none => (cut? p s).map fun (a, b) => (c :: a, b)

/-- Whether `p` occurs in `s`. -/
def occurs (p s : Text) : Bool := (cut? p s).isSome

theorem cut?_eq_some {p s a b : Text} (h : cut? p s = some (a, b)) : s = a ++ p ++ b := by
  induction s generalizing a with
  | nil =>
    simp only [cut?, Option.map_eq_some_iff, Prod.mk.injEq] at h
    obtain ⟨r, hr, rfl, rfl⟩ := h
    simpa using dropPrefix?_eq_some.1 hr
  | cons c s ih =>
    rw [cut?] at h
    split at h
    · rename_i r hr
      cases h
      simpa using dropPrefix?_eq_some.1 hr
    · simp only [Option.map_eq_some_iff, Prod.exists, Prod.mk.injEq] at h
      obtain ⟨a', b', hs, rfl, rfl⟩ := h
      simp [ih hs]

/-- The text before the last occurrence of the character `x` and the text
after it. -/
def cutLast? (x : Char) (s : Text) : Option (Text × Text) :=
  match s.reverse.span (· != x) with
  | (_, []) => none
  | (after, _ :: before) => some (before.reverse, after.reverse)

/-- The pieces of a text between the occurrences of the character `x`. -/
def splitAt (x : Char) : Text → List Text
  | [] => [[]]
  | c :: s =>
    if c = x then [] :: splitAt x s
    else match splitAt x s with
      | [] => [[c]]
      | piece :: more => (c :: piece) :: more

/-- The pieces in order, with `separator` between neighbours. -/
def join (separator : Text) : List Text → Text
  | [] => []
  | [s] => s
  | s :: more => s ++ separator ++ join separator more

/-- The pieces between separators hold none. -/
theorem notMem_of_mem_splitAt {x : Char} {s piece : Text} (h : piece ∈ splitAt x s) : x ∉ piece := by
  induction s generalizing piece with
  | nil => simp_all [splitAt]
  | cons c s ih =>
    rw [splitAt] at h
    split at h
    · rcases List.mem_cons.1 h with rfl | h
      · simp
      · exact ih h
    · rename_i hc
      split at h
      · rw [List.mem_singleton.1 h]
        simpa using Ne.symm hc
      · rename_i first more hsplit
        rw [hsplit] at ih
        rcases List.mem_cons.1 h with rfl | h
        · simpa [Ne.symm hc] using ih (List.mem_cons_self ..)
        · exact ih (List.mem_cons_of_mem _ h)

theorem splitAt_of_notMem {x : Char} {piece : Text} (h : x ∉ piece) : splitAt x piece = [piece] := by
  induction piece with
  | nil => rfl
  | cons c piece ih =>
    simp only [List.mem_cons, not_or] at h
    rw [splitAt, if_neg (Ne.symm h.1), ih h.2]

theorem splitAt_append_cons {x : Char} {piece : Text} (h : x ∉ piece) (s : Text) :
    splitAt x (piece ++ x :: s) = piece :: splitAt x s := by
  induction piece with
  | nil => simp [splitAt]
  | cons c piece ih =>
    simp only [List.mem_cons, not_or] at h
    rw [List.cons_append, splitAt, if_neg (Ne.symm h.1), ih h.2]

/-- **Pieces that are joined are what the text is split into.** -/
theorem splitAt_join {x : Char} {pieces : List Text} (h : ∀ piece ∈ pieces, x ∉ piece)
    (hne : pieces ≠ []) : splitAt x (join [x] pieces) = pieces := by
  induction pieces with
  | nil => exact absurd rfl hne
  | cons piece pieces ih =>
    rw [List.forall_mem_cons] at h
    cases pieces with
    | nil => exact splitAt_of_notMem h.1
    | cons next pieces =>
      have hjoin : join [x] (piece :: next :: pieces) = piece ++ x :: join [x] (next :: pieces) := by
        simp [join]
      rw [hjoin, splitAt_append_cons h.1, ih h.2 (by simp)]

theorem splitAt_cons_self (x : Char) (s : Text) : splitAt x (x :: s) = [] :: splitAt x s := by
  simp [splitAt]

/-! ## White space -/

/-- The blanks that separate names and attributes in markup: space, tab, line
feed, form feed and carriage return. -/
def isBlank (c : Char) : Bool :=
  c = ' ' || c = '\t' || c = '\n' || c = '\x0c' || c = '\r'

/-- Characters with the Unicode property `White_Space`. -/
def isSpace (c : Char) : Bool :=
  let n := c.toNat
  (9 ≤ n && n ≤ 13) || n == 0x20 || n == 0x85 || n == 0xa0 || n == 0x1680 ||
    (0x2000 ≤ n && n ≤ 0x200a) || n == 0x2028 || n == 0x2029 || n == 0x202f ||
    n == 0x205f || n == 0x3000

theorem isSpace_of_isBlank {c : Char} (h : isBlank c = true) : isSpace c = true := by
  simp only [isBlank, Bool.or_eq_true, decide_eq_true_eq] at h
  rcases h with (((rfl | rfl) | rfl) | rfl) | rfl <;> decide

/-- A text without the spaces at its start. -/
def trimStart (s : Text) : Text := s.dropWhile isSpace

/-- A text without the spaces at its end. -/
def trimEnd (s : Text) : Text := (s.reverse.dropWhile isSpace).reverse

/-- A text without the spaces at its ends. -/
def trim (s : Text) : Text := trimEnd (trimStart s)

/-- Whether a text holds nothing but spaces. -/
def isVoid (s : Text) : Bool := s.all isSpace

/-- The maximal runs of a text without spaces, in order. -/
def words : Text → List Text
  | [] => []
  | c :: s =>
    if isSpace c then words s
    else match s with
      | [] => [[c]]
      | d :: _ =>
        if isSpace d then [c] :: words s
        else match words s with
          | [] => [[c]]
          | word :: more => (c :: word) :: more

/-- The words of a text with one space between neighbours. -/
def collapse (s : Text) : Text := join [' '] (words s)

/-- The lines of a text: every line feed ends one, together with a carriage
return before it; a last line need not be ended. -/
def lines : Text → List Text
  | [] => []
  | '\n' :: s => [] :: lines s
  | '\r' :: '\n' :: s => [] :: lines s
  | c :: s =>
    match lines s with
    | [] => [[c]]
    | line :: more => (c :: line) :: more

/-! ## ASCII -/

/-- Letters of ASCII. -/
def isAsciiLetter (c : Char) : Bool :=
  ('a' ≤ c && c ≤ 'z') || ('A' ≤ c && c ≤ 'Z')

/-- Digits of ASCII. -/
def isAsciiDigit (c : Char) : Bool := '0' ≤ c && c ≤ '9'

/-- Characters of ASCII. -/
def isAscii (c : Char) : Bool := c.toNat < 128

/-- The lower-case form of a text's ASCII letters; other characters stay. -/
def asciiLower (s : Text) : Text := s.map Char.toLower

/-! ## Order and numbers -/

/-- Texts in dictionary order of their code points, which is also the order of
their UTF-8 bytes. -/
def order : Text → Text → Ordering
  | [], [] => .eq
  | [], _ :: _ => .lt
  | _ :: _, [] => .gt
  | a :: s, b :: t => (compare a.toNat b.toNat).then (order s t)

/-- Texts sorted by code points. -/
def sort (texts : List Text) : List Text :=
  texts.mergeSort fun s t => (order s t).isLE

/-- The decimal numeral of a number. -/
def ofNat (n : Nat) : Text := Nat.toDigits 10 n

/-- The decimal numeral of an integer. -/
def ofInt : Int → Text
  | .ofNat n => ofNat n
  | .negSucc n => '-' :: ofNat (n + 1)

end Text

end Componentry
