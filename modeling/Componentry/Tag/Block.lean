import Componentry.Text.Basic

/-!
# Template blocks

Markup may hold **template blocks**: expressions `{{ … }}`, statements `{% … %}`
and comments `{# … #}`.  Tags are looked for outside of them only, so every
search steps over a block as a whole.

`Block.cut?` cuts the block at the start of a text off.  A string literal inside
an expression or a statement hides the closing delimiter; a comment has no
literals.  A block that is never closed reaches to the end of the text.
-/

namespace Componentry

/-- The three kinds of template blocks. -/
inductive BlockKind where
  | expression
  | statement
  | comment
deriving DecidableEq, Repr

namespace BlockKind

/-- The character between the braces and the inside of a block. -/
def mark : BlockKind → Char
  | expression => '{'
  | statement => '%'
  | comment => '#'

/-- The first character of the closing delimiter; a closing brace follows it. -/
def closeMark : BlockKind → Char
  | expression => '}'
  | statement => '%'
  | comment => '#'

/-- Whether string literals are honoured inside a block. -/
def hasLiterals : BlockKind → Bool
  | comment => false
  | _ => true

end BlockKind

namespace Block

/-- Whether a character opens and closes string literals. -/
def isQuote (c : Char) : Bool := c = '"' || c = '\''

/-- The kind of the block that starts a text, and what follows its opening
delimiter. -/
def opening? : Text → Option (BlockKind × Text)
  | '{' :: '{' :: s => some (.expression, s)
  | '{' :: '%' :: s => some (.statement, s)
  | '{' :: '#' :: s => some (.comment, s)
  | _ => none

/-- The inside of a block up to the end of its closing delimiter, and what
follows it.  `literal` is the quote of the string literal that is being read; in
it a backslash takes the next character with it. -/
def inside (kind : BlockKind) : Option Char → Text → Text × Text
  | _, [] => ([], [])
  | some q, c :: s =>
    if c = '\\' then
      match s with
      | [] => ([c], [])
      | d :: s' => (inside kind (some q) s').map (c :: d :: ·) id
    else (inside kind (if c = q then none else some q) s).map (c :: ·) id
  | none, c :: s =>
    if kind.hasLiterals && isQuote c then (inside kind (some c) s).map (c :: ·) id
    else if c = kind.closeMark then
      match s with
      | '}' :: s' => ([c, '}'], s')
      | _ => (inside kind none s).map (c :: ·) id
    else (inside kind none s).map (c :: ·) id

/-- The block that starts a text, and what follows it. -/
def cut? (s : Text) : Option (Text × Text) :=
  (opening? s).map fun (kind, t) => (inside kind none t).map ('{' :: kind.mark :: ·) id

/-! ## Nothing is lost -/

theorem inside_append (kind : BlockKind) (literal : Option Char) (s : Text) :
    (inside kind literal s).1 ++ (inside kind literal s).2 = s := by
  fun_induction inside kind literal s <;> simp_all [Prod.map]

theorem opening?_eq_some {s t : Text} {kind : BlockKind} (h : opening? s = some (kind, t)) :
    s = '{' :: kind.mark :: t := by
  unfold opening? at h
  split at h <;> cases h <;> rfl

/-- A block and what follows it make up the text. -/
theorem cut?_append {s block rest : Text} (h : cut? s = some (block, rest)) :
    block ++ rest = s := by
  simp only [cut?, Option.map_eq_some_iff, Prod.exists] at h
  obtain ⟨kind, t, ho, hm⟩ := h
  have hin := inside_append kind none t
  rw [opening?_eq_some ho]
  simp only [Prod.map, Prod.mk.injEq, id] at hm
  obtain ⟨rfl, rfl⟩ := hm
  simp [hin]

/-- A block holds at least its opening delimiter. -/
theorem cut?_length {s block rest : Text} (h : cut? s = some (block, rest)) :
    rest.length < s.length := by
  have happ := cut?_append h
  simp only [cut?, Option.map_eq_some_iff, Prod.exists] at h
  obtain ⟨kind, t, -, hm⟩ := h
  simp only [Prod.map, Prod.mk.injEq] at hm
  rw [← happ, ← hm.1]
  simp only [List.cons_append, List.length_cons, List.length_append]
  omega

/-- The byte offset just behind the block at byte offset `i`, if one starts
there. -/
def endAt? (s : Text) (i : Nat) : Option Nat := do
  let t ← Text.atByte? i s
  let (block, _) ← cut? t
  return i + Text.byteLength block

end Block

end Componentry
