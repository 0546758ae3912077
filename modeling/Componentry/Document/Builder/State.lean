import Componentry.Document.Draft
import Componentry.Document.Tokenizer

/-!
# The state of building a document

A document is built token by token.  What a token does depends on the **mode**, on
the elements that are **open**, innermost first, and on the **formatting** elements,
which are opened again in later blocks if they were not closed where they belong.
-/

namespace Componentry.Document

/-- Where in a document the builder is. -/
inductive Mode where
  | initial
  | beforeHtml
  | beforeHead
  | inHead
  | afterHead
  | inBody
  /-- In an element that holds text only. -/
  | inText
  | inTable
  | inTableText
  | inCaption
  | inColumnGroup
  | inTableBody
  | inRow
  | inCell
  | inSelect
  | inSelectInTable
  | inTemplate
  | afterBody
  | inFrameset
  | afterFrameset
  | afterAfterBody
  | afterAfterFrameset
deriving DecidableEq, Repr

/-- An entry of the list of formatting elements. -/
inductive FormattingEntry where
  /-- The start of contents that earlier formatting does not reach into. -/
  | marker
  | element (node : Nat) (tag : StartTag)
deriving DecidableEq, Repr

/-- The state of the builder. -/
structure Builder where
  draft : Draft
  mode : Mode
  /-- The mode to go back to behind text. -/
  returnMode : Mode
  /-- The open elements, innermost first. -/
  opened : List Nat
  /-- The formatting elements, latest first. -/
  formatting : List FormattingEntry
  head : Option Nat
  form : Option Nat
  /-- Whether a frame set may still replace the body. -/
  framesetOk : Bool
  /-- Whether content that tables do not allow goes before the table. -/
  fostering : Bool
  /-- The modes of the open templates, innermost first. -/
  templateModes : List Mode
  /-- Text in a table that is not placed yet, in order. -/
  pending : List Token
  /-- Whether a line break that comes next is dropped. -/
  skipBreak : Bool
  /-- Whether a table may stand in a paragraph, as in old documents. -/
  tablesInParagraphs : Bool
  /-- How contents are read. -/
  contents : ContentKind

namespace Builder

/-- The state before the first token. -/
def start : Builder where
  draft := .empty
  mode := .initial
  returnMode := .initial
  opened := []
  formatting := []
  head := none
  form := none
  framesetOk := true
  fostering := false
  templateModes := []
  pending := []
  skipBreak := false
  tablesInParagraphs := false
  contents := .markup

end Builder

/-- Steps of building. -/
abbrev Build := StateM Builder

/-- What happens behind a step. -/
inductive Next where
  /-- The token is dealt with. -/
  | done
  /-- The builder changes its mode and takes the token again. -/
  | again (mode : Mode) (token : Token)
  /-- The token is dealt with by the rules of another mode. -/
  | under (mode : Mode) (token : Token)
deriving DecidableEq, Repr

/-! ## Sets of elements -/

/-- A set of elements, given by family and name. -/
abbrev ElementSet := Family → String → Bool

/-- The elements of these names. -/
def htmlAmong (names : List String) : ElementSet := fun family name =>
  family = .html && names.contains name

/-- Elements of formulas that hold plain text. -/
def mathTextPoint : ElementSet := fun family name =>
  family = .math && ["mi", "mo", "mn", "ms", "mtext"].contains name

/-- Elements of drawings that hold markup. -/
def svgMarkupPoint : ElementSet := fun family name =>
  family = .svg && ["foreignObject", "desc", "title"].contains name

/-- Elements that bound the general scope. -/
def generalScope : ElementSet := fun family name =>
  htmlAmong ["applet", "caption", "html", "table", "td", "th", "marquee", "object", "template"]
    family name || mathTextPoint family name || svgMarkupPoint family name

/-- Elements that bound the scope of list items. -/
def listScope : ElementSet := fun family name =>
  generalScope family name || htmlAmong ["ol", "ul"] family name

/-- Elements that bound the scope of paragraphs. -/
def buttonScope : ElementSet := fun family name =>
  generalScope family name || htmlAmong ["button"] family name

/-- Elements that bound the scope of table parts. -/
def tableScope : ElementSet := htmlAmong ["html", "table", "template"]

/-- Elements that bound the scope of a selection. -/
def selectScope : ElementSet := fun family name => !htmlAmong ["optgroup", "option"] family name

/-- Where rows start. -/
def bodyContext : ElementSet := htmlAmong ["tbody", "tfoot", "thead", "template", "html"]

/-- Where cells start. -/
def rowContext : ElementSet := htmlAmong ["tr", "template", "html"]

/-- Headings. -/
def headings : List String := ["h1", "h2", "h3", "h4", "h5", "h6"]

/-- Elements with parsing rules of their own, which closing tags of other elements
do not reach across. -/
def specialNames : List String :=
  ["address", "applet", "area", "article", "aside", "base", "basefont", "bgsound", "blockquote",
    "body", "br", "button", "caption", "center", "col", "colgroup", "dd", "details", "dir", "div",
    "dl", "dt", "embed", "fieldset", "figcaption", "figure", "footer", "form", "frame", "frameset",
    "h1", "h2", "h3", "h4", "h5", "h6", "head", "header", "hgroup", "hr", "html", "iframe", "img",
    "input", "isindex", "li", "link", "listing", "main", "marquee", "menu", "meta", "nav",
    "noembed", "noframes", "noscript", "object", "ol", "p", "param", "plaintext", "pre", "script",
    "section", "select", "source", "style", "summary", "table", "tbody", "td", "template",
    "textarea", "tfoot", "th", "thead", "title", "tr", "track", "ul", "wbr", "xmp"]

/-- Elements with parsing rules of their own; elements of drawings and formulas are
not among them. -/
def special : ElementSet := htmlAmong specialNames

/-- Elements whose closing tags may be left out. -/
def impliedEnd : List String :=
  ["dd", "dt", "li", "option", "optgroup", "p", "rb", "rp", "rt", "rtc"]

/-- Elements whose closing tags may be left out, with those of tables. -/
def impliedEndInTables : List String :=
  impliedEnd ++ ["caption", "colgroup", "tbody", "td", "tfoot", "th", "thead", "tr"]

/-- Elements whose misplaced contents go before their table. -/
def fosterTargets : ElementSet := htmlAmong ["table", "tbody", "tfoot", "thead", "tr"]

namespace Builder

/-- Whether a node is an element of a set. -/
def isIn (b : Builder) (set : ElementSet) (n : Nat) : Bool :=
  match b.draft.element? n with
  | some (family, name) => set family name
  | none => false

/-- Whether a node is an element of this name. -/
def isNamed (b : Builder) (name : String) (n : Nat) : Bool := b.isIn (htmlAmong [name]) n

/-- The innermost open element. -/
def current? (b : Builder) : Option Nat := b.opened.head?

/-- Whether the innermost open element is in a set. -/
def currentIn (b : Builder) (set : ElementSet) : Bool := b.current?.any (b.isIn set)

/-- Whether the innermost open element has this name. -/
def currentNamed (b : Builder) (name : String) : Bool := b.current?.any (b.isNamed name)

/-- Whether an element of this name is open. -/
def isOpen (b : Builder) (name : String) : Bool := b.opened.any (b.isNamed name)

/-- Whether an open element with a property is met before one that bounds the
scope. -/
def hasInScope (b : Builder) (scope : ElementSet) (p : Nat → Bool) : Bool :=
  let rec search : List Nat → Bool
    | [] => false
    | n :: more => p n || (!b.isIn scope n && search more)
  search b.opened

/-- Whether an element of this name is in scope. -/
def inScope (b : Builder) (scope : ElementSet) (name : String) : Bool :=
  b.hasInScope scope (b.isNamed name)

/-- The open body element, if the document has one. -/
def body? (b : Builder) : Option Nat :=
  match b.opened.reverse with
  | _ :: n :: _ => if b.isNamed "body" n then some n else none
  | _ => none

/-- The mode that the open elements ask for. -/
def properMode (b : Builder) : Mode :=
  let rec search : List Nat → Mode
    | [] => .inBody
    | n :: outer =>
      match b.draft.element? n with
      | some (.html, name) =>
        match name with
        | "select" =>
          let inTable := (outer.takeWhile fun m => !b.isNamed "template" m).any (b.isNamed "table")
          if inTable then .inSelectInTable else .inSelect
        | "td" | "th" => if outer.isEmpty then search outer else .inCell
        | "tr" => .inRow
        | "tbody" | "thead" | "tfoot" => .inTableBody
        | "caption" => .inCaption
        | "colgroup" => .inColumnGroup
        | "table" => .inTable
        | "template" => b.templateModes.head?.getD .inBody
        | "head" => if outer.isEmpty then .inBody else .inHead
        | "body" => .inBody
        | "frameset" => .inFrameset
        | "html" => if b.head.isSome then .afterHead else .beforeHead
        | _ => search outer
      | _ => search outer
  search b.opened

end Builder

namespace Build

/-- Sets the mode. -/
def setMode (mode : Mode) : Build Unit := modify fun b => { b with mode := mode }

/-- Removes the innermost open element. -/
def pop : Build Unit := modify fun b => { b with opened := b.opened.tail }

/-- Removes open elements until the innermost one has a property. -/
def popWhileNot (p : Builder → Nat → Bool) : Build Unit :=
  modify fun b => { b with opened := b.opened.dropWhile fun n => !p b n }

/-- Removes open elements until the innermost one is in a set. -/
def popUntilCurrent (set : ElementSet) : Build Unit := popWhileNot fun b n => b.isIn set n

/-- Removes open elements up to one that is in a set, and that one. -/
def popThrough (set : ElementSet) : Build Unit := do
  popUntilCurrent set
  pop

/-- Removes open elements up to one of this name, and that one. -/
def popNamed (name : String) : Build Unit := popThrough (htmlAmong [name])

/-- Removes a node from the open elements. -/
def removeOpen (n : Nat) : Build Unit :=
  modify fun b => { b with opened := b.opened.filter (· != n) }

/-- Removes open elements whose closing tags may be left out. -/
def closeImplied (names : List String) : Build Unit :=
  modify fun b => { b with opened := b.opened.dropWhile fun n => b.isIn (htmlAmong names) n }

/-- Removes open elements whose closing tags may be left out, up to one of this
name. -/
def closeImpliedExcept (name : String) : Build Unit := closeImplied (impliedEnd.filter (· != name))

/-- Notes that the document has contents that a frame set cannot replace. -/
def forbidFrameset : Build Unit := modify fun b => { b with framesetOk := false }

end Build

end Componentry.Document
