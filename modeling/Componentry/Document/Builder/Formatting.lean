import Componentry.Document.Builder.Insert

/-!
# Formatting elements

Formatting such as `<b>` reaches over the blocks it is not closed in.  When a block
ends inside of formatting, or formatting inside of a block, the formatting elements
are opened again where the text goes on (`reconstruct`), and a closing tag that does
not match the innermost open element rearranges the tree so that the block keeps a
copy of the formatting (`adopt`).
-/

namespace Componentry.Document

namespace FormattingEntry

/-- Whether an entry is the given node. -/
def isNode (n : Nat) : FormattingEntry → Bool
  | marker => false
  | element m _ => m = n

end FormattingEntry

namespace Builder

/-- The formatting elements behind the last marker, latest first. -/
def activeFormatting (b : Builder) : List (Nat × StartTag) :=
  (b.formatting.takeWhile (· != .marker)).filterMap fun
    | .marker => none
    | .element n tag => some (n, tag)

/-- Whether a node is a formatting element. -/
def isFormatting (b : Builder) (n : Nat) : Bool := b.formatting.any (·.isNode n)

/-- The tag of a formatting element. -/
def formattingTag? (b : Builder) (n : Nat) : Option StartTag :=
  b.formatting.findSome? fun
    | .marker => none
    | .element m tag => if m = n then some tag else none

end Builder

namespace Build

/-- Puts a marker behind the formatting elements. -/
def pushMarker : Build Unit := modify fun b => { b with formatting := .marker :: b.formatting }

/-- Removes the formatting elements up to the last marker, and the marker. -/
def clearToMarker : Build Unit :=
  modify fun b => { b with formatting := (b.formatting.dropWhile (· != .marker)).tail }

/-- Removes a node from the formatting elements. -/
def removeFormatting (n : Nat) : Build Unit :=
  modify fun b => { b with formatting := b.formatting.filter fun e => !e.isNode n }

/-- Replaces a formatting element by another node. -/
def replaceFormatting (old new : Nat) (tag : StartTag) : Build Unit :=
  modify fun b =>
    let replace (e : FormattingEntry) : FormattingEntry :=
      if e.isNode old then .element new tag else e
    { b with formatting := b.formatting.map replace }

/-- Opens formatting elements again, in order, and notes the new nodes. -/
def reopen : List (Nat × StartTag) → Build Unit
  | [] => return ()
  | (old, tag) :: more => do
    let new ← insertTag tag
    replaceFormatting old new tag
    reopen more

/-- Opens the formatting elements again that are not open any more: those behind
the last marker and behind the last one that is still open. -/
def reconstruct : Build Unit := do
  let b ← get
  reopen (b.activeFormatting.takeWhile fun (n, _) => !b.opened.contains n).reverse

/-- Whether two tags open the same element with the same attributes, in any
order. -/
def sameTag (a b : StartTag) : Bool :=
  a.name = b.name && Node.sortAttributes a.attributes = Node.sortAttributes b.attributes

/-- Opens a formatting element.  Of four equal ones the first is forgotten. -/
def insertFormatting (tag : StartTag) : Build Unit := do
  let same := (← get).activeFormatting.filter fun (_, t) => sameTag t tag
  if 3 ≤ same.length then
    match same.getLast? with
    | some (n, _) => removeFormatting n
    | none => pure ()
  let n ← insertTag tag
  modify fun b => { b with formatting := .element n tag :: b.formatting }

/-- Closes an element by name: the innermost one, unless an element with rules of
its own is met first. -/
def closeAny (name : String) : Build Unit := do
  let b ← get
  let rec search : List Nat → Option Nat
    | [] => none
    | n :: outer =>
      if b.isNamed name n then some n else if b.isIn special n then none else search outer
  match search b.opened with
  | none => return ()
  | some n =>
    closeImpliedExcept name
    modify fun b => { b with opened := (b.opened.dropWhile (· != n)).tail }

/-! ## Misnested formatting -/

/-- The place in the list of formatting elements where the copy goes. -/
inductive Bookmark where
  /-- In the place of the formatting element. -/
  | replacing
  /-- Right behind a node. -/
  | behind (n : Nat)
deriving DecidableEq, Repr

/-- Puts an entry right behind a node in a list that has its latest entry first. -/
def insertBehind (n : Nat) (entry : FormattingEntry) : List FormattingEntry → List FormattingEntry
  | [] => []
  | e :: more => if e.isNode n then entry :: e :: more else e :: insertBehind n entry more

/-- Goes through the open elements between a block and the formatting element it
stands in, innermost first.  The first three that are formatting elements are copied
around the block; the others are closed.  The result is the outermost copy and the
bookmark. -/
def wrapBlock (block : Nat) : List Nat → (count last : Nat) → Bookmark → Build (Nat × Bookmark)
  | [], _, last, bookmark => return (last, bookmark)
  | n :: outer, count, last, bookmark => do
    match (← get).formattingTag? n with
    | none =>
      removeOpen n
      wrapBlock block outer (count + 1) last bookmark
    | some tag =>
      if 3 < count then
        removeFormatting n
        removeOpen n
        wrapBlock block outer (count + 1) last bookmark
      else
        let copy ← createElement .html tag.name tag.attributes
        replaceFormatting n copy tag
        modify fun b =>
          let opened := b.opened.map fun m => if m = n then copy else m
          { b with opened := opened, draft := b.draft.append copy last }
        let bookmark := if last = block then .behind copy else bookmark
        wrapBlock block outer (count + 1) copy bookmark

/-- Puts a copy of a formatting element into a block that stands in it, and the
block behind the formatting element. -/
def moveBlock (formatting block ancestor : Nat) (tag : StartTag) (between : List Nat) :
    Build Unit := do
  let (last, bookmark) ← wrapBlock block between 1 block .replacing
  modify fun b =>
    let detached := { b with draft := b.draft.detach last }
    { b with draft := detached.draft.put (detached.placeIn ancestor) last }
  let copy ← createElement .html tag.name tag.attributes
  modify fun b => { b with draft := (b.draft.moveChildren block copy).append block copy }
  match bookmark with
  | .replacing => replaceFormatting formatting copy tag
  | .behind n =>
    modify fun b => { b with formatting := insertBehind n (.element copy tag) b.formatting }
    removeFormatting formatting
  removeOpen formatting
  modify fun b => { b with opened := b.opened.flatMap fun n => if n = block then [copy, n] else [n] }

/-- One round of closing a formatting element.  The result says whether another
round follows. -/
def adoptOnce (name : String) : Build Bool := do
  let b ← get
  match b.activeFormatting.find? fun (_, tag) => String.ofList tag.name = name with
  | none =>
    closeAny name
    return false
  | some (formatting, tag) =>
    if !b.opened.contains formatting then
      removeFormatting formatting
      return false
    else if !b.hasInScope generalScope (· == formatting) then return false
    else
      let inner := b.opened.takeWhile (· != formatting)
      let outer := (b.opened.dropWhile (· != formatting)).tail
      match inner.reverse.find? (b.isIn special) with
      | none =>
        modify fun b => { b with opened := outer }
        removeFormatting formatting
        return false
      | some block =>
        let between := (inner.dropWhile (· != block)).tail
        moveBlock formatting block (outer.head?.getD b.root) tag between
        return true

/-- Repeats the rounds of closing a formatting element at most so often. -/
def adoptUpTo (name : String) : Nat → Build Unit
  | 0 => return ()
  | n + 1 => do
    if ← adoptOnce name then adoptUpTo name n

/-- Closes a formatting element by name. -/
def adopt (name : String) : Build Unit := do
  let b ← get
  if b.currentNamed name && !b.current?.any b.isFormatting then pop
  else adoptUpTo name 8

/-- Closes an anchor that is still open before another one. -/
def closeAnchor : Build Unit := do
  match (← get).activeFormatting.find? fun (_, tag) => String.ofList tag.name = "a" with
  | none => return ()
  | some (n, _) =>
    adopt "a"
    removeFormatting n
    removeOpen n

end Build

end Componentry.Document
