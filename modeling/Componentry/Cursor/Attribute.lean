import Componentry.Attribute.Props
import Componentry.Cursor.Tag

/-!
# Attributes, read by bytes

`Cursor.attributes` reads the attributes of an opening tag with a cursor over the bytes
of their text, and cuts keys and values out by their offsets; `Cursor.props` makes the
props of an invocation of them, where the holes of a text are found by their offsets
too.  `none` stands for a cut that fails and for a loop that does not go forward, as in the
scan for tags.
-/

namespace Componentry.Cursor

/-! ## Values -/

/-- The offset behind the brace that closes the brace at which the search starts.
`depth` braces are open; a backslash takes the next byte with it. -/
def braceEnd (bytes : List UInt8) (literal : Option Char) (depth : Int) (i : Nat) : Option Nat :=
  match h : read? bytes i with
  | none => none
  | some c =>
    have : i < bytes.length := read?_lt h
    if c = '\\' && i + 1 < bytes.length then braceEnd bytes literal depth (i + 2)
    else
      match literal with
      | some q => braceEnd bytes (if c = q then none else some q) depth (i + 1)
      | none =>
        if Block.isQuote c then braceEnd bytes (some c) depth (i + 1)
        else if c = '{' then braceEnd bytes none (depth + 1) (i + 1)
        else if c = '}' then
          if depth - 1 = 0 then some (i + 1) else braceEnd bytes none (depth - 1) (i + 1)
        else braceEnd bytes none depth (i + 1)
termination_by bytes.length - i

theorem braceEnd_of_none {bytes : List UInt8} {literal : Option Char} {depth : Int} {i : Nat}
    (h : read? bytes i = none) :
    braceEnd bytes literal depth i = none := by
  rw [braceEnd]
  split
  · rfl
  · rename_i hc
    rw [h] at hc
    cases hc

theorem braceEnd_of_some {bytes : List UInt8} {literal : Option Char} {depth : Int} {i : Nat}
    {c : Char}
    (h : read? bytes i = some c) :
    braceEnd bytes literal depth i =
      if c = '\\' && i + 1 < bytes.length then braceEnd bytes literal depth (i + 2)
      else
        match literal with
        | some q => braceEnd bytes (if c = q then none else some q) depth (i + 1)
        | none =>
          if Block.isQuote c then braceEnd bytes (some c) depth (i + 1)
          else if c = '{' then braceEnd bytes none (depth + 1) (i + 1)
          else if c = '}' then
            if depth - 1 = 0 then some (i + 1) else braceEnd bytes none (depth - 1) (i + 1)
          else braceEnd bytes none depth (i + 1) := by
  rw [braceEnd]
  split
  · rename_i hc
    rw [h] at hc
    cases hc
  · rename_i hc
    rw [h] at hc
    cases hc
    rfl

/-- The byte offset of the first occurrence of a text. -/
def find? (p s : Text) : Option Nat := (Text.cut? p s).map fun found => Text.byteLength found.1

/-- The value at an offset behind `=`, and the offset behind it. -/
def attributeValue (text : Text) (j : Nat) : Option (AttributeValue × Nat) :=
  let bytes := text.utf8
  match read? bytes j with
  | none => some (.text [], j)
  | some c =>
    if Block.isQuote c then do
      let rest ← Text.atByte? (j + 1) text
      let close := ((find? [c] rest).map (j + 1 + ·)).getD bytes.length
      let value ← text.slice? (j + 1) close
      return (.text value, min (close + 1) bytes.length)
    else if c = '{' then
      if read? bytes (j + 1) = some '{' then do
        let stop := (block? bytes j).getD bytes.length
        let value ← text.slice? j stop
        return (.text value, stop)
      else
        match braceEnd bytes none 0 j with
        | some stop => do
          let source ← text.slice? (j + 1) (stop - 1)
          return (.expression source, stop)
        | none => do
          let value ← Text.atByte? j text
          return (.text value, bytes.length)
    else do
      let stop := skipWhile (!Text.isBlank ·) bytes j
      let value ← text.slice? j stop
      return (.text value, stop)

/-! ## Attributes -/

/-- The attributes from an offset on. -/
def attributesFrom (text : Text) (i : Nat) : Option (List Attribute) :=
  match h : read? text.utf8 i with
  | none => some []
  | some c =>
    have : i < text.utf8.length := read?_lt h
    if Text.isBlank c || c = '/' then attributesFrom text (i + 1)
    else if c = '{' then
      match braceEnd text.utf8 none 0 i with
      | none => some []
      | some stop => do
        let inner ← text.slice? (i + 1) (stop - 1)
        if i < stop then
          let more ← attributesFrom text stop
          return (Attribute.spread? inner).toList ++ more
        else none
    else if Attribute.isKeyChar c then do
      let keyEnd := skipWhile Attribute.isKeyChar text.utf8 i
      let key ← text.slice? i keyEnd
      let j := skipWhile Text.isBlank text.utf8 keyEnd
      if read? text.utf8 j = some '=' then
        let (value, stop) ← attributeValue text (skipWhile Text.isBlank text.utf8 (j + 1))
        if i < stop then
          let more ← attributesFrom text stop
          return .literal key value :: more
        else none
      else if i < keyEnd then
        let more ← attributesFrom text keyEnd
        return .literal key .flag :: more
      else none
    else attributesFrom text (i + 1)
termination_by text.utf8.length - i
decreasing_by all_goals omega

theorem attributesFrom_of_none {text : Text} {i : Nat} (h : read? text.utf8 i = none) :
    attributesFrom text i = some [] := by
  rw [attributesFrom]
  split
  · rfl
  · rename_i hc
    rw [h] at hc
    cases hc

theorem attributesFrom_of_some {text : Text} {i : Nat} {c : Char}
    (h : read? text.utf8 i = some c) :
    attributesFrom text i =
      if Text.isBlank c || c = '/' then attributesFrom text (i + 1)
      else if c = '{' then
        match braceEnd text.utf8 none 0 i with
        | none => some []
        | some stop => do
          let inner ← text.slice? (i + 1) (stop - 1)
          if i < stop then
            let more ← attributesFrom text stop
            return (Attribute.spread? inner).toList ++ more
          else none
      else if Attribute.isKeyChar c then do
        let keyEnd := skipWhile Attribute.isKeyChar text.utf8 i
        let key ← text.slice? i keyEnd
        let j := skipWhile Text.isBlank text.utf8 keyEnd
        if read? text.utf8 j = some '=' then
          let (value, stop) ← attributeValue text (skipWhile Text.isBlank text.utf8 (j + 1))
          if i < stop then
            let more ← attributesFrom text stop
            return .literal key value :: more
          else none
        else if i < keyEnd then
          let more ← attributesFrom text keyEnd
          return .literal key .flag :: more
        else none
      else attributesFrom text (i + 1) := by
  rw [attributesFrom]
  split
  · rename_i hc
    rw [h] at hc
    cases hc
  · rename_i hc
    rw [h] at hc
    cases hc
    rfl

/-- The attributes in a text. -/
def attributes (text : Text) : Option (List Attribute) := attributesFrom text 0

/-! ## Props -/

/-- The pieces of an attribute's text. -/
def pieces (s : Text) : Option (List AttributeValue.Piece) :=
  let plain : List AttributeValue.Piece := if s.isEmpty then [] else [.plain s]
  match find? ['{', '{'] s with
  | none => some plain
  | some start => do
    let after ← Text.atByte? (start + 2) s
    match find? ['}', '}'] after with
    | none => return plain
    | some length =>
      let before ← s.slice? 0 start
      let inner ← s.slice? (start + 2) (start + 2 + length)
      let rest ← Text.atByte? (start + 2 + length + 2) s
      if rest.length < s.length then
        let more ← pieces rest
        return (if before.isEmpty then [] else [.plain before]) ++
          .hole (AttributeValue.holeSource inner) :: more
      else none
termination_by s.length

/-- The source of the pieces of a text. -/
def piecesSource : List AttributeValue.Piece → Text
  | [] => Text.quote []
  | [p] => p.source
  | ps => '(' :: Text.join [' ', '~', ' '] (ps.map AttributeValue.Piece.source) ++ [')']

/-- The source of an attribute's value. -/
def valueSource : AttributeValue → Option Text
  | .text value => (pieces value).map piecesSource
  | value => some value.source

/-- The props that attributes stand for, added to `props` in their order. -/
def addProps (props : Props) : List Attribute → Option Props
  | [] => some props
  | .spread source :: more => addProps { props with spreads := props.spreads ++ [source] } more
  | .literal key value :: more => do
    let source ← valueSource value
    addProps { props with entries := props.entries ++ [(key, source)] } more

/-- The props that the attributes in a text stand for. -/
def props (text : Text) : Option Props := do addProps ⟨[], []⟩ (← attributes text)

end Componentry.Cursor
