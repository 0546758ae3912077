import Componentry.Cursor.Basic
import Componentry.Registry

/-!
# The scan over bytes

`Cursor.scan` looks for the next element of a text with an accepted name, from a
byte offset on, and returns the offsets of its parts.  It moves a cursor over the
bytes of the text in four loops, and the searches inside of them: over text, a tag's
name, its attributes (`tagEnd`), and what comes before the closing tag
(`matchingClose`).  Template blocks are stepped over in all of them (`block?`).

The outer `Option` of a search is `none` if it reads a byte that is not there, if it
cuts the text outside of its characters, or if one of its loops does not go forward: a
loop that goes on at an offset that another search has found has no result where that
offset is not behind its own.  That there always is a result is a theorem about the
searches and not a part of their definitions.
-/

namespace Componentry.Cursor

/-! ## Template blocks -/

/-- The kind of template block that starts at an offset. -/
def opening? (bytes : List UInt8) (i : Nat) : Option BlockKind :=
  if read? bytes i = some '{' then
    match read? bytes (i + 1) with
    | some '{' => some .expression
    | some '%' => some .statement
    | some '#' => some .comment
    | _ => none
  else none

/-- The offset behind the block whose inside is read from `j` on.  `literal` is the
quote of the string literal that is being read; in it a backslash takes the next byte
with it.  A block that is never closed ends with the text. -/
def blockEnd (bytes : List UInt8) (kind : BlockKind) (literal : Option Char) (j : Nat) : Nat :=
  match h : read? bytes j with
  | none => bytes.length
  | some c =>
    have : j < bytes.length := read?_lt h
    match literal with
    | some q =>
      if c = '\\' then blockEnd bytes kind (some q) (j + 2)
      else blockEnd bytes kind (if c = q then none else some q) (j + 1)
    | none =>
      if kind.hasLiterals && Block.isQuote c then blockEnd bytes kind (some c) (j + 1)
      else if c = kind.closeMark && read? bytes (j + 1) = some '}' then j + 2
      else blockEnd bytes kind none (j + 1)
termination_by bytes.length - j

theorem blockEnd_of_none {bytes : List UInt8} {kind : BlockKind} {literal : Option Char} {j : Nat}
    (h : read? bytes j = none) : blockEnd bytes kind literal j = bytes.length := by
  rw [blockEnd]
  split
  · rfl
  · rename_i hc
    rw [h] at hc
    cases hc

theorem blockEnd_of_some {bytes : List UInt8} {kind : BlockKind} {literal : Option Char} {j : Nat}
    {c : Char} (h : read? bytes j = some c) :
    blockEnd bytes kind literal j =
      match literal with
      | some q =>
        if c = '\\' then blockEnd bytes kind (some q) (j + 2)
        else blockEnd bytes kind (if c = q then none else some q) (j + 1)
      | none =>
        if kind.hasLiterals && Block.isQuote c then blockEnd bytes kind (some c) (j + 1)
        else if c = kind.closeMark && read? bytes (j + 1) = some '}' then j + 2
        else blockEnd bytes kind none (j + 1) := by
  rw [blockEnd]
  split
  · rename_i hc
    rw [h] at hc
    cases hc
  · rename_i hc
    rw [h] at hc
    cases hc
    cases literal <;> rfl

/-- The offset behind the template block that starts at an offset, if one does. -/
def block? (bytes : List UInt8) (i : Nat) : Option Nat :=
  (opening? bytes i).map fun kind => blockEnd bytes kind none (i + 2)

/-! ## Tags -/

/-- The end of the tag name at an offset: the offset itself if there is none. -/
def nameEnd (bytes : List UInt8) (start : Nat) : Nat :=
  if (read? bytes start).any Tag.isNameStart then skipWhile Tag.isNameChar bytes start else start

/-- Whether a tag name may end at an offset. -/
def atBoundary (bytes : List UInt8) (i : Nat) : Bool :=
  (read? bytes i).any fun c => Text.isBlank c || c = '>' || c = '/'

/-- The offset of the `>` that ends the opening tag whose attributes are read from `i`
on, in a quoted value or between `depth` open braces. -/
def tagEnd (bytes : List UInt8) (quote : Option Char) (depth i : Nat) : Option (Option Nat) :=
  match h : read? bytes i with
  | none => some none
  | some c =>
    have : i < bytes.length := read?_lt h
    match quote with
    | some q => tagEnd bytes (if c = q then none else some q) depth (i + 1)
    | none =>
      match block? bytes i with
      | some stop => if i < stop then tagEnd bytes none depth stop else none
      | none =>
        if c = '>' && depth == 0 then some (some i)
        else
          tagEnd bytes (if Block.isQuote c then some c else none)
            (if c = '{' then depth + 1 else if c = '}' then depth - 1 else depth) (i + 1)
termination_by bytes.length - i

theorem tagEnd_of_none {bytes : List UInt8} {quote : Option Char} {depth i : Nat}
    (h : read? bytes i = none) : tagEnd bytes quote depth i = some none := by
  rw [tagEnd]
  split
  · rfl
  · rename_i hc
    rw [h] at hc
    cases hc

theorem tagEnd_of_some {bytes : List UInt8} {quote : Option Char} {depth i : Nat} {c : Char}
    (h : read? bytes i = some c) :
    tagEnd bytes quote depth i =
      match quote with
      | some q => tagEnd bytes (if c = q then none else some q) depth (i + 1)
      | none =>
        match block? bytes i with
        | some stop => if i < stop then tagEnd bytes none depth stop else none
        | none =>
          if c = '>' && depth == 0 then some (some i)
          else
            tagEnd bytes (if Block.isQuote c then some c else none)
              (if c = '{' then depth + 1 else if c = '}' then depth - 1 else depth) (i + 1) := by
  rw [tagEnd]
  split
  · rename_i hc
    rw [h] at hc
    cases hc
  · rename_i hc
    rw [h] at hc
    cases hc
    cases quote <;> rfl

/-- The offset behind the last byte between `start` and `stop` that is not blank, and
`start` if there is none. -/
def blanksStart (bytes : List UInt8) (start : Nat) : (stop : Nat) → Option Nat
  | 0 => some 0
  | j + 1 =>
    if start < j + 1 then do
      let c ← read? bytes j
      if Text.isBlank c then blanksStart bytes start j else some (j + 1)
    else some (j + 1)

/-- The offset of the last byte between two offsets that is not blank; the first of
them if there is none. -/
def lastNonBlank (bytes : List UInt8) (start stop : Nat) : Option Nat :=
  (blanksStart bytes start stop).map fun j => max (j - 1) start

/-- Whether the attributes from `start` up to the `>` at `stop` end with the `/` that
closes a tag at once. -/
def isSelfClosing (bytes : List UInt8) (start stop : Nat) : Option Bool := do
  let slash ← lastNonBlank bytes start stop
  if slash < stop then
    let c ← read? bytes slash
    return c = '/' && start ≤ slash
  else return false

/-! ## Closing tags -/

/-- The offset behind the closing tag of `name` whose `<` is at `i`, if it is one. -/
def closeEnd (bytes name : List UInt8) (i : Nat) : Option (Option Nat) :=
  if read? bytes (i + 1) = some '/' then do
    let rest ← from? bytes (i + 2)
    if name.isPrefixOf rest then
      let j := skipWhile Text.isBlank bytes (i + 2 + name.length)
      return if read? bytes j = some '>' then some (j + 1) else none
    else return none
  else some none

/-- The offset behind the opening tag of `name` whose `<` is at `i`, if it is one, and
whether the tag is closed at once. -/
def openEnd (bytes name : List UInt8) (i : Nat) : Option (Option (Nat × Bool)) := do
  let rest ← from? bytes (i + 1)
  let start := i + 1 + name.length
  if name.isPrefixOf rest && atBoundary bytes start then
    match ← tagEnd bytes none 0 start with
    | some stop =>
      let closed ← isSelfClosing bytes start stop
      return some (stop + 1, closed)
    | none => return none
  else return none

/-- The offsets of the closing tag of an element called `name` and behind it.  `depth`
elements of this name are open. -/
def matchingClose (bytes name : List UInt8) (depth i : Nat) : Option (Option (Nat × Nat)) :=
  match h : read? bytes i with
  | none => some none
  | some c =>
    have : i < bytes.length := read?_lt h
    match block? bytes i with
    | some stop => if i < stop then matchingClose bytes name depth stop else none
    | none =>
      if c = '<' then do
        match ← closeEnd bytes name i with
        | some stop =>
          if depth - 1 = 0 then return some (i, stop)
          else if i < stop then matchingClose bytes name (depth - 1) stop else none
        | none =>
          match ← openEnd bytes name i with
          | some (stop, closed) =>
            if i < stop then matchingClose bytes name (if closed then depth else depth + 1) stop
            else none
          | none => matchingClose bytes name depth (i + 1)
      else matchingClose bytes name depth (i + 1)
termination_by bytes.length - i

theorem matchingClose_of_none {bytes name : List UInt8} {depth i : Nat}
    (h : read? bytes i = none) : matchingClose bytes name depth i = some none := by
  rw [matchingClose]
  split
  · rfl
  · rename_i hc
    rw [h] at hc
    cases hc

theorem matchingClose_of_some {bytes name : List UInt8} {depth i : Nat} {c : Char}
    (h : read? bytes i = some c) :
    matchingClose bytes name depth i =
      match block? bytes i with
      | some stop => if i < stop then matchingClose bytes name depth stop else none
      | none =>
        if c = '<' then do
          match ← closeEnd bytes name i with
          | some stop =>
            if depth - 1 = 0 then return some (i, stop)
            else if i < stop then matchingClose bytes name (depth - 1) stop else none
          | none =>
            match ← openEnd bytes name i with
            | some (stop, closed) =>
              if i < stop then matchingClose bytes name (if closed then depth else depth + 1) stop
              else none
            | none => matchingClose bytes name depth (i + 1)
        else matchingClose bytes name depth (i + 1) := by
  rw [matchingClose]
  split
  · rename_i hc
    rw [h] at hc
    cases hc
  · rename_i hc
    rw [h] at hc
    cases hc
    rfl

/-! ## Elements -/

/-- A found element: the byte offsets of its parts.  A span is the offset of its first
byte and the offset behind its last one. -/
structure TagMatch where
  name : Text
  start : Nat
  stop : Nat
  attributes : Nat × Nat
  body : Option (Nat × Nat)
deriving DecidableEq, Repr

namespace TagMatch

/-- Whether the opening tag closes the element at once. -/
def isSelfClosing (m : TagMatch) : Bool := m.body.isNone

/-- The text of the attributes. -/
def attributesText? (m : TagMatch) (text : Text) : Option Text :=
  text.slice? m.attributes.1 m.attributes.2

/-- The text between the tags. -/
def bodyText? (m : TagMatch) (text : Text) : Option Text :=
  match m.body with
  | some (start, stop) => text.slice? start stop
  | none => some []

end TagMatch

/-- The outcome of one search for an element. -/
inductive Outcome where
  | found (element : TagMatch)
  /-- An opening tag without its end or without a closing tag, and the offset from which
  the search may go on. -/
  | unmatched (name : Text) (start resume : Nat)
  /-- No accepted opening tag is left. -/
  | done
deriving DecidableEq, Repr

/-- The outcome at the accepted opening tag at `start`, whose name ends at `stop`. -/
def scanTag (bytes : List UInt8) (name : Text) (start stop : Nat) : Option Outcome := do
  match ← tagEnd bytes none 0 stop with
  | none => return .unmatched name start stop
  | some gt =>
    if ← isSelfClosing bytes stop gt then
      let slash ← lastNonBlank bytes stop gt
      return .found ⟨name, start, gt + 1, (stop, slash), none⟩
    else
      match ← matchingClose bytes name.utf8 1 (gt + 1) with
      | some (closeStart, closeEnd) =>
        return .found ⟨name, start, closeEnd, (stop, gt), some (gt + 1, closeStart)⟩
      | none => return .unmatched name start (gt + 1)

/-- The first element at or behind an offset whose name is accepted. -/
def scan (text : Text) (accept : Text → Bool) (i : Nat) : Option Outcome :=
  match h : read? text.utf8 i with
  | none => some .done
  | some c =>
    have : i < text.utf8.length := read?_lt h
    match block? text.utf8 i with
    | some stop => if i < stop then scan text accept stop else none
    | none =>
      if c = '<' then
        let stop := nameEnd text.utf8 (i + 1)
        if stop = i + 1 || !atBoundary text.utf8 stop then scan text accept (i + 1)
        else do
          let name ← text.slice? (i + 1) stop
          if accept name then scanTag text.utf8 name i stop
          else if i < stop then scan text accept stop else none
      else scan text accept (i + 1)
termination_by text.utf8.length - i
decreasing_by all_goals omega

theorem scan_of_none {text : Text} {accept : Text → Bool} {i : Nat}
    (h : read? text.utf8 i = none) : scan text accept i = some .done := by
  rw [scan]
  split
  · rfl
  · rename_i hc
    rw [h] at hc
    cases hc

theorem scan_of_some {text : Text} {accept : Text → Bool} {i : Nat} {c : Char}
    (h : read? text.utf8 i = some c) :
    scan text accept i =
      match block? text.utf8 i with
      | some stop => if i < stop then scan text accept stop else none
      | none =>
        if c = '<' then
          let stop := nameEnd text.utf8 (i + 1)
          if stop = i + 1 || !atBoundary text.utf8 stop then scan text accept (i + 1)
          else do
            let name ← text.slice? (i + 1) stop
            if accept name then scanTag text.utf8 name i stop
            else if i < stop then scan text accept stop else none
        else scan text accept (i + 1) := by
  rw [scan]
  split
  · rename_i hc
    rw [h] at hc
    cases hc
  · rename_i hc
    rw [h] at hc
    cases hc
    rfl

/-- The first invocation of a component at or behind an offset; unmatched tags are
stepped over. -/
def nextInvocation (r : Registry) (text : Text) (i : Nat) : Option (Option TagMatch) := do
  match ← scan text r.invokes i with
  | .found m => return some m
  | .unmatched _ _ resume =>
    if goesOn text i resume then nextInvocation r text resume else none
  | .done => return none
termination_by text.byteLength - i
decreasing_by exact goesOn_decreasing ‹_›

end Componentry.Cursor
