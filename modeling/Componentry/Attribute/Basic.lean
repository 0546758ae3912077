import Componentry.Tag.Block

/-!
# Attributes

The attributes of an opening tag, read from the text between the tag's name and
its end (`Attribute.parse`).  An attribute is a key with a quoted or bare text
(`key="text"`, `key=text`), a key with an expression in braces (`key={expr}`), a
bare key, or a spread of a whole value in braces (`{...expr}`).

Braces match when they balance outside of string literals; a backslash takes the
next character with it everywhere between them (`Attribute.braces?`).
-/

namespace Componentry

/-- The value of an attribute. -/
inductive AttributeValue where
  /-- Text, in which `{{ … }}` may stand for the value of an expression. -/
  | text (value : Text)
  /-- The expression between braces. -/
  | expression (source : Text)
  /-- No value: the key alone. -/
  | flag
deriving DecidableEq, Repr

/-- An attribute of an opening tag. -/
inductive Attribute where
  | literal (key : Text) (value : AttributeValue)
  | spread (source : Text)
deriving DecidableEq, Repr

namespace Attribute

/-- The variable that holds the whole data value of the running definition. -/
def contextVar : Text := ['_', '_', 'c', 't', 'x']

/-- Whether a character may stand in an attribute's key. -/
def isKeyChar (c : Char) : Bool :=
  !(Text.isBlank c || c = '=' || c = '>' || c = '/' || c = '"' || c = '\'' || c = '{' || c = '}')

/-- The text up to the brace that closes an opening brace read before, and what
follows that brace.  `depth` more braces are open, and `literal` is the quote of
the string literal that is being read. -/
def bracesFrom? (literal : Option Char) (depth : Nat) : Text → Option (Text × Text)
  | [] => none
  | '\\' :: d :: s => (bracesFrom? literal depth s).map (Prod.map ('\\' :: d :: ·) id)
  | c :: s =>
    match literal with
    | some q =>
      (bracesFrom? (if c = q then none else some q) depth s).map (Prod.map (c :: ·) id)
    | none =>
      if Block.isQuote c then (bracesFrom? (some c) depth s).map (Prod.map (c :: ·) id)
      else if c = '{' then (bracesFrom? none (depth + 1) s).map (Prod.map (c :: ·) id)
      else if c = '}' then
        match depth with
        | 0 => some ([], s)
        | d + 1 => (bracesFrom? none d s).map (Prod.map (c :: ·) id)
      else (bracesFrom? none depth s).map (Prod.map (c :: ·) id)

/-- The text between an opening brace, which has been read, and the brace that
closes it, and what follows. -/
def braces? (s : Text) : Option (Text × Text) := bracesFrom? none 0 s

theorem bracesFrom?_append {literal : Option Char} {depth : Nat} {s inner rest : Text}
    (h : bracesFrom? literal depth s = some (inner, rest)) : inner ++ '}' :: rest = s := by
  fun_induction bracesFrom? literal depth s generalizing inner <;>
    first
    | (simp only [Option.map_eq_some_iff, Prod.exists, Prod.map, Prod.mk.injEq, id] at h
       obtain ⟨a, b, hab, rfl, rfl⟩ := h
       simp_all)
    | simp_all

theorem braces?_length {s inner rest : Text} (h : braces? s = some (inner, rest)) :
    rest.length < s.length := by
  rw [← bracesFrom?_append h, List.length_append, List.length_cons]
  omega

/-- The operand of a spread: a leading dot is dropped, and nothing at all stands
for the whole context. -/
def spreadSource (s : Text) : Text :=
  match Text.trim s with
  | [] | ['.'] => contextVar
  | '.' :: rest => Text.trim rest
  | source => source

/-- The value behind `=` and the blanks after it, and what follows the value. -/
def value (s : Text) : AttributeValue × Text :=
  match s with
  | [] => (.text [], [])
  | c :: t =>
    if Block.isQuote c then
      (.text (t.takeWhile (· != c)), (t.dropWhile (· != c)).drop 1)
    else if c = '{' then
      match (if t.head? = some '{' then Block.cut? s else none) with
      | some (block, rest) => (.text block, rest)
      | none =>
        match braces? t with
        | some (inner, rest) => (.expression inner, rest)
        | none => (.text s, [])
    else (.text (s.takeWhile (!Text.isBlank ·)), s.dropWhile (!Text.isBlank ·))

theorem value_length (s : Text) : (value s).2.length ≤ s.length := by
  unfold value
  split
  · simp
  · rename_i c t
    split
    · have := Text.dropWhile_length_le (· != c) t
      simp only [List.length_drop, List.length_cons]
      omega
    · split
      · split
        · rename_i block rest hb
          split at hb
          · exact Nat.le_of_lt (Block.cut?_length hb)
          · cases hb
        · split
          · rename_i hb
            have := braces?_length hb
            simp only [List.length_cons]
            omega
          · simp
      · exact Text.dropWhile_length_le _ _

/-- The spread that braces with this inside stand for, if any: three dots must
come first. -/
def spread? (inner : Text) : Option Attribute :=
  (Text.dropPrefix? ['.', '.', '.'] (Text.trimStart inner)).map fun operand =>
    .spread (spreadSource operand)

/-- The attributes in a text, in order.  Characters that no attribute can start
with are skipped; a brace that is never closed ends the list. -/
def parse (s : Text) : List Attribute :=
  match s with
  | [] => []
  | c :: t =>
    if c = '{' then
      match h : braces? t with
      | none => []
      | some (inner, rest) =>
        have : rest.length < t.length := braces?_length h
        match spread? inner with
        | some a => a :: parse rest
        | none => parse rest
    else if isKeyChar c then
      let key := c :: t.takeWhile isKeyChar
      have hrest : (t.dropWhile isKeyChar).length ≤ t.length := Text.dropWhile_length_le _ _
      match h : (t.dropWhile isKeyChar).dropWhile Text.isBlank with
      | '=' :: v =>
        have : (value (v.dropWhile Text.isBlank)).2.length ≤ t.length := by
          have h₁ := value_length (v.dropWhile Text.isBlank)
          have h₂ := Text.dropWhile_length_le Text.isBlank v
          have h₃ := Text.dropWhile_length_le Text.isBlank (t.dropWhile isKeyChar)
          rw [h, List.length_cons] at h₃
          omega
        .literal key (value (v.dropWhile Text.isBlank)).1 ::
          parse (value (v.dropWhile Text.isBlank)).2
      | _ => .literal key .flag :: parse (t.dropWhile isKeyChar)
    else parse t
termination_by s.length
decreasing_by all_goals (simp only [List.length_cons]; omega)

/-- The text of the first text attribute with the given key. -/
def static? (attributes : List Attribute) (key : Text) : Option Text :=
  attributes.findSome? fun
    | .literal k (.text v) => if k = key then some v else none
    | _ => none

end Attribute

end Componentry
