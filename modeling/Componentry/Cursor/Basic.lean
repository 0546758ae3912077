import Componentry.Text.Basic

/-!
# Bytes and cuts

Searches over markup look at the bytes of a text (`Text.utf8`), which they find by
their offset, the **cursor**.  A byte is classed by the character with its number
(`Cursor.read?`): a byte of an ASCII character is that character, and every byte of
another character is not an ASCII character.

The pieces of a text that a search finds are cut out by offsets (`Text.slice?`,
`Text.atByte?`).  A cut fails at an offset outside of the text or inside of a
character, and `none` stands for this failure.
-/

namespace Componentry

namespace Text

/-- The first `n` bytes of a text, if a character ends there. -/
def takeBytes? : Nat → Text → Option Text
  | 0, _ => some []
  | _ + 1, [] => none
  | n + 1, c :: s =>
    if c.utf8Size ≤ n + 1 then (takeBytes? (n + 1 - c.utf8Size) s).map (c :: ·) else none

/-- The part of a text from byte offset `start` up to byte offset `stop`; none if they
are not in order, or if one of them is outside of the text or inside of a character. -/
def slice? (s : Text) (start stop : Nat) : Option Text :=
  if start ≤ stop then (atByte? start s).bind (takeBytes? (stop - start)) else none

end Text

namespace Cursor

/-- The byte at an offset, as the character with its number. -/
def read? (bytes : List UInt8) (i : Nat) : Option Char := bytes[i]?.map Char.ofUInt8

/-- The bytes from an offset on; none if the offset is behind their end. -/
def from? (bytes : List UInt8) (i : Nat) : Option (List UInt8) :=
  if i ≤ bytes.length then some (bytes.drop i) else none

theorem read?_lt {bytes : List UInt8} {i : Nat} {c : Char} (h : read? bytes i = some c) :
    i < bytes.length := by
  obtain ⟨b, hb, -⟩ := Option.map_eq_some_iff.1 h
  exact (List.getElem?_eq_some_iff.1 hb).1

/-- Whether an offset in a text is behind another one.  A loop that goes on only at such
offsets ends. -/
def goesOn (text : Text) (i stop : Nat) : Bool := i < stop && stop ≤ text.byteLength

theorem goesOn_iff {text : Text} {i stop : Nat} :
    goesOn text i stop = true ↔ i < stop ∧ stop ≤ text.byteLength := by
  simp [goesOn]

theorem goesOn_decreasing {text : Text} {i stop : Nat} (h : goesOn text i stop = true) :
    text.byteLength - stop < text.byteLength - i := by
  rw [goesOn_iff] at h
  omega

/-- The offset behind the bytes from `i` on that a predicate holds of. -/
def skipWhile (p : Char → Bool) (bytes : List UInt8) (i : Nat) : Nat :=
  match h : read? bytes i with
  | none => i
  | some c =>
    have : i < bytes.length := read?_lt h
    if p c then skipWhile p bytes (i + 1) else i
termination_by bytes.length - i

theorem skipWhile_of_none {p : Char → Bool} {bytes : List UInt8} {i : Nat}
    (h : read? bytes i = none) : skipWhile p bytes i = i := by
  rw [skipWhile]
  split
  · rfl
  · rename_i hc
    rw [h] at hc
    cases hc

theorem skipWhile_of_some {p : Char → Bool} {bytes : List UInt8} {i : Nat} {c : Char}
    (h : read? bytes i = some c) :
    skipWhile p bytes i = if p c then skipWhile p bytes (i + 1) else i := by
  rw [skipWhile]
  split
  · rename_i hc
    rw [h] at hc
    cases hc
  · rename_i hc
    rw [h] at hc
    cases hc
    rfl

end Cursor

end Componentry
