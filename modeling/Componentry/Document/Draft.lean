import Componentry.Document.Node
import Componentry.Document.Token

/-!
# Documents under construction

While a document is read, nodes are moved around: misnested tags and text inside of
tables change where earlier nodes belong.  A draft therefore keeps its nodes in a
table.  A node is known by its number, and lists its children by theirs; number
zero is the document itself.  `Draft.toNodes` reads the finished tree off the
table.
-/

namespace Componentry.Document

/-- The family that an element belongs to. -/
inductive Family where
  | html
  | math
  | svg
deriving DecidableEq, Repr

/-- What a node of a draft is. -/
inductive Content where
  | document
  | doctype (name publicId systemId : Text)
  | element (family : Family) (name : Text) (attributes : List (Text × Text))
  | text (contents : Text)
  | comment (contents : Text)
deriving DecidableEq, Repr

/-- A row of the table. -/
structure Row where
  content : Content
  parent : Option Nat
  children : List Nat
deriving DecidableEq, Repr

/-- A document under construction. -/
structure Draft where
  rows : Array Row

namespace Draft

/-- The empty document. -/
def empty : Draft := ⟨#[⟨.document, none, []⟩]⟩

/-- A node of a draft. -/
def row? (d : Draft) (n : Nat) : Option Row := d.rows[n]?

/-- Changes a node. -/
def change (d : Draft) (n : Nat) (f : Row → Row) : Draft := ⟨d.rows.modify n f⟩

/-- Adds a node that stands nowhere yet. -/
def create (d : Draft) (content : Content) : Nat × Draft :=
  (d.rows.size, ⟨d.rows.push ⟨content, none, []⟩⟩)

/-- The parent of a node. -/
def parent? (d : Draft) (n : Nat) : Option Nat := (d.row? n).bind Row.parent

/-- The children of a node. -/
def children (d : Draft) (n : Nat) : List Nat := ((d.row? n).map Row.children).getD []

/-- The family and name of an element. -/
def element? (d : Draft) (n : Nat) : Option (Family × String) :=
  match d.row? n with
  | some ⟨.element family name _, _, _⟩ => some (family, String.ofList name)
  | _ => none

/-- The attributes of an element. -/
def attributes (d : Draft) (n : Nat) : List (Text × Text) :=
  match d.row? n with
  | some ⟨.element _ _ attributes, _, _⟩ => attributes
  | _ => []

/-- Takes a node away from its parent. -/
def detach (d : Draft) (n : Nat) : Draft :=
  match d.parent? n with
  | none => d
  | some p =>
    (d.change p fun r => { r with children := r.children.filter (· != n) }).change n
      fun r => { r with parent := none }

/-- Makes a node the last child of another one. -/
def append (d : Draft) (parent n : Nat) : Draft :=
  ((d.detach n).change parent fun r => { r with children := r.children ++ [n] }).change n
    fun r => { r with parent := some parent }

/-- Puts a number before another one of a list. -/
def insertNumber (n sibling : Nat) : List Nat → List Nat
  | [] => [n]
  | m :: more => if m = sibling then n :: m :: more else m :: insertNumber n sibling more

/-- Puts a node before a sibling that has the given parent. -/
def insertBefore (d : Draft) (parent sibling n : Nat) : Draft :=
  ((d.detach n).change parent
      fun r => { r with children := insertNumber n sibling r.children }).change n
    fun r => { r with parent := some parent }

/-- Adds to the text of a node, if it is text. -/
def extend? (d : Draft) (n : Nat) (s : Text) : Option Draft :=
  match d.row? n with
  | some ⟨.text contents, _, _⟩ =>
    some (d.change n fun r => { r with content := .text (contents ++ s) })
  | _ => none

/-- Adds text at the end of a node's children, to the text that stands there if
there is one. -/
def appendText (d : Draft) (parent : Nat) (s : Text) : Draft :=
  match (d.children parent).getLast?.bind fun n => d.extend? n s with
  | some d => d
  | none =>
    let (n, d) := d.create (.text s)
    d.append parent n

/-- The number before another one of a list. -/
def numberBefore? (sibling : Nat) : List Nat → Option Nat
  | m :: n :: more => if n = sibling then some m else numberBefore? sibling (n :: more)
  | _ => none

/-- Adds text before a node, to the text that stands there if there is one. -/
def insertTextBefore (d : Draft) (parent sibling : Nat) (s : Text) : Draft :=
  match (numberBefore? sibling (d.children parent)).bind fun n => d.extend? n s with
  | some d => d
  | none =>
    let (n, d) := d.create (.text s)
    d.insertBefore parent sibling n

/-- Moves all children of a node to another one. -/
def moveChildren (d : Draft) (source target : Nat) : Draft :=
  (d.children source).foldl (fun d n => d.append target n) d

/-- Gives an element the attributes it does not have yet. -/
def addAttributes (d : Draft) (n : Nat) (attributes : List (Text × Text)) : Draft :=
  d.change n fun r =>
    match r.content with
    | .element family name old =>
      let fresh := attributes.filter fun a => !old.any fun b => b.1 = a.1
      { r with content := .element family name (old ++ fresh) }
    | _ => r

/-! ## The finished tree -/

/-- A node with its children.  What stands in a template is not part of the
document. -/
def Content.toNode? (children : List Node) : Content → Option Node
  | .document => none
  | .doctype name publicId systemId => some (.doctype name publicId systemId)
  | .text contents => some (.text contents)
  | .comment contents => some (.comment contents)
  | .element family name attributes =>
    let isTemplate := family = .html && String.ofList name = "template"
    some (.element name attributes (if isTemplate then [] else children))

/-- The trees below numbered nodes; `depth` bounds how deep they are. -/
def treesUpTo (d : Draft) : (depth : Nat) → List Nat → List Node
  | 0, _ => []
  | depth + 1, numbers =>
    numbers.filterMap fun n =>
      (d.row? n).bind fun row => Content.toNode? (treesUpTo d depth row.children) row.content

/-- The nodes of the document. -/
def toNodes (d : Draft) : List Node := d.treesUpTo (d.rows.size + 1) (d.children 0)

end Draft

end Componentry.Document
