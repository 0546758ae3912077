import Componentry.Document.Builder.State

/-!
# Placing nodes

New nodes go to the end of the innermost open element.  Where a table would have to
take contents that it does not allow, they go before the table instead.
-/

namespace Componentry.Document

/-- Where a node goes. -/
inductive Place where
  /-- To the end of a node. -/
  | lastIn (parent : Nat)
  /-- Before a node with this parent. -/
  | before (parent sibling : Nat)
deriving DecidableEq, Repr

namespace Builder

/-- The outermost element. -/
def root (b : Builder) : Nat := b.opened.getLast?.getD 0

/-- The place before the innermost open table.  A table that stands nowhere gives
way to the element that it was opened in. -/
def fosterPlace (b : Builder) : Place :=
  let rec search : List Nat → Place
    | [] => .lastIn b.root
    | n :: outer =>
      if b.isNamed "template" n then .lastIn n
      else if b.isNamed "table" n then
        match b.draft.parent? n with
        | some parent => .before parent n
        | none => .lastIn (outer.head?.getD b.root)
      else search outer
  search b.opened

/-- The place for a node that belongs into the given element. -/
def placeIn (b : Builder) (target : Nat) : Place :=
  if b.fostering && b.isIn fosterTargets target then b.fosterPlace else .lastIn target

/-- The place for a new node. -/
def place (b : Builder) : Place := b.placeIn (b.current?.getD 0)

end Builder

/-- Puts a node into its place. -/
def Draft.put (d : Draft) (place : Place) (n : Nat) : Draft :=
  match place with
  | .lastIn parent => d.append parent n
  | .before parent sibling => d.insertBefore parent sibling n

/-- Puts text into its place. -/
def Draft.putText (d : Draft) (place : Place) (s : Text) : Draft :=
  match place with
  | .lastIn parent => d.appendText parent s
  | .before parent sibling => d.insertTextBefore parent sibling s

namespace Build

/-- Adds an element that stands nowhere yet. -/
def createElement (family : Family) (name : Text) (attributes : List (Text × Text)) : Build Nat :=
  modifyGet fun b =>
    let (n, d) := b.draft.create (.element family name attributes)
    (n, { b with draft := d })

/-- Adds an element in its place, and opens it. -/
def insertElement (family : Family) (name : Text) (attributes : List (Text × Text)) : Build Nat := do
  let n ← createElement family name attributes
  modify fun b => { b with draft := b.draft.put b.place n, opened := n :: b.opened }
  return n

/-- Adds and opens the element of a tag. -/
def insertTag (tag : StartTag) : Build Nat := insertElement .html tag.name tag.attributes

/-- Adds and opens an element that nobody wrote. -/
def insertImplied (name : String) : Build Nat := insertElement .html name.toList []

/-- Adds the element of a tag without opening it. -/
def insertClosed (tag : StartTag) : Build Nat := do
  let n ← insertTag tag
  pop
  return n

/-- Adds text. -/
def insertText (s : Text) : Build Unit :=
  modify fun b => { b with draft := b.draft.putText b.place s }

/-- Adds a comment in its place. -/
def insertComment (s : Text) : Build Unit :=
  modify fun b =>
    let (n, d) := b.draft.create (.comment s)
    { b with draft := d.put b.place n }

/-- Adds a comment at the end of a node. -/
def insertCommentIn (parent : Nat) (s : Text) : Build Unit :=
  modify fun b =>
    let (n, d) := b.draft.create (.comment s)
    { b with draft := d.append parent n }

/-- Opens the element of a tag whose contents are text. -/
def insertTextElement (tag : StartTag) (contents : ContentKind) : Build Unit := do
  let _ ← insertTag tag
  modify fun b => { b with returnMode := b.mode, mode := .inText, contents := contents }

/-- Removes open elements up to a paragraph, and the paragraph. -/
def closeParagraph : Build Unit := do
  closeImpliedExcept "p"
  popNamed "p"

/-- Closes a paragraph that is open in the scope of paragraphs. -/
def closeOpenParagraph : Build Unit := do
  if (← get).inScope buttonScope "p" then closeParagraph

end Build

end Componentry.Document
