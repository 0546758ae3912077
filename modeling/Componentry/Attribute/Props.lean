import Componentry.Attribute.Basic
import Componentry.Text.Quoted

/-!
# Props

The attributes of an invocation become one expression, its **props**.  Literal
attributes are the entries of a `dict(…)` call in their order; spreads are merged
from left to right, with the entries last.  Later arguments of `merge` and later
entries of `dict` win, so an entry overrides every spread.
-/

namespace Componentry

/-! ## The expression of an attribute value -/

namespace AttributeValue

/-- A piece of an attribute's text. -/
inductive Piece where
  /-- Text that stands for itself. -/
  | plain (value : Text)
  /-- The expression between `{{` and `}}`. -/
  | hole (source : Text)
deriving DecidableEq, Repr

/-- The source of a piece as an operand. -/
def Piece.source : Piece → Text
  | plain value => Text.quote value
  | hole source => '(' :: source ++ [')']

/-- The expression between the delimiters of a block: the dashes of white-space
control and the spaces around it are dropped. -/
def holeSource (inner : Text) : Text :=
  let s := match inner with
    | '-' :: rest => rest
    | _ => inner
  let s := match s.reverse with
    | '-' :: rest => rest.reverse
    | _ => s
  Text.trim s

theorem cut?_length {p s a b : Text} (h : Text.cut? p s = some (a, b)) :
    b.length + p.length ≤ s.length := by
  rw [Text.cut?_eq_some h]
  simp only [List.length_append]
  omega

theorem hole_length {s before after inner rest : Text}
    (h : Text.cut? ['{', '{'] s = some (before, after))
    (h' : Text.cut? ['}', '}'] after = some (inner, rest)) : rest.length < s.length := by
  have h₁ := cut?_length h
  have h₂ := cut?_length h'
  simp only [List.length_cons, List.length_nil] at h₁ h₂
  omega

/-- The pieces of an attribute's text.  A hole that is not closed is plain
text. -/
def pieces (s : Text) : List Piece :=
  match h : Text.cut? ['{', '{'] s with
  | none => if s.isEmpty then [] else [.plain s]
  | some (before, after) =>
    match h' : Text.cut? ['}', '}'] after with
    | none => [.plain s]
    | some (inner, rest) =>
      have : rest.length < s.length := hole_length h h'
      let tail := .hole (holeSource inner) :: pieces rest
      if before.isEmpty then tail else .plain before :: tail
termination_by s.length

/-- The source of an attribute's text: its pieces concatenated.  A text that is
one hole alone keeps the value of the hole's expression. -/
def textSource (s : Text) : Text :=
  match pieces s with
  | [] => Text.quote []
  | [p] => p.source
  | ps => '(' :: Text.join [' ', '~', ' '] (ps.map Piece.source) ++ [')']

/-- The source of an attribute's value. -/
def source : AttributeValue → Text
  | text value => textSource value
  | expression source => '(' :: Text.trim source ++ [')']
  | flag => ['t', 'r', 'u', 'e']

end AttributeValue

/-! ## The props of an invocation -/

/-- The props of one invocation: the sources of its spreads, and its entries as
keys with the sources of their values. -/
structure Props where
  spreads : List Text
  entries : List (Text × Text)
deriving DecidableEq, Repr

namespace Props

/-- The props that attributes stand for. -/
def ofAttributes (attributes : List Attribute) : Props where
  spreads := attributes.filterMap fun
    | .spread source => some source
    | .literal .. => none
  entries := attributes.filterMap fun
    | .spread _ => none
    | .literal key value => some (key, value.source)

/-- The props that the attributes in a text stand for. -/
def ofText (s : Text) : Props := ofAttributes (Attribute.parse s)

/-- Adds entries behind the others. -/
def withEntries (p : Props) (more : List (Text × Text)) : Props :=
  { p with entries := p.entries ++ more }

/-- A call with comma-separated arguments. -/
def call (function : Text) (arguments : List Text) : Text :=
  function ++ '(' :: Text.join [',', ' '] arguments ++ [')']

/-- The name of the function that makes a map of keys and values. -/
def dictName : Text := ['d', 'i', 'c', 't']

/-- The name of the function that merges maps. -/
def mergeName : Text := ['m', 'e', 'r', 'g', 'e']

/-- The entries as a call of `dict`. -/
def dictSource (entries : List (Text × Text)) : Text :=
  call dictName (entries.flatMap fun (key, value) => [Text.quote key, value])

/-- Spreads merged from left to right, with `last` behind them. -/
def mergeSource (spreads : List Text) (last : Text) : Text :=
  spreads.foldr (fun spread merged => call mergeName [spread, merged]) last

/-- The source of the props.  Without spreads it is a `dict`; a single spread
without entries stands for itself. -/
def source (p : Props) : Text :=
  match p.entries with
  | [] =>
    match p.spreads.getLast? with
    | none => dictSource []
    | some last => mergeSource p.spreads.dropLast last
  | entries => mergeSource p.spreads (dictSource entries)

end Props

end Componentry
