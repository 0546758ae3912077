import Componentry.Text.Basic

/-!
# Documents and their canonical text

A document is a list of nodes.  Its canonical text drops what does not matter when
markup is compared: comments and processing instructions, the order of attributes,
and white space at the ends of text and beyond one space within it.  Documents that
stand for a fragment have elements around it that nobody wrote (`html`, `head` and
`body`); these wrappers are left out together with the document type unless they are
to be kept.

The names of elements and attributes are local names.  Nodes have no namespaces and no
prefixes, and the contents of a `template` element, which are not among its children, are
not kept: none of these is written.
-/

namespace Componentry

/-- A node of a document. -/
inductive Node where
  | doctype (name publicId systemId : Text)
  | element (name : Text) (attributes : List (Text × Text)) (children : List Node)
  | text (contents : Text)
  | comment (contents : Text)
  | instruction (target contents : Text)

namespace Node

/-- The elements that have no contents and no closing tag. -/
def voidNames : List String :=
  ["area", "base", "br", "col", "embed", "hr", "img", "input", "link", "meta", "source", "track",
    "wbr"]

/-- Whether an element of this name has no contents. -/
def isVoid (name : Text) : Bool := voidNames.contains (String.ofList name)

/-- Whether an element of this name wraps a whole document. -/
def isWrapper (name : Text) : Bool := ["html", "head", "body"].contains (String.ofList name)

/-- How a character is written in text and attributes. -/
def escapeChar (c : Char) : Text :=
  match c with
  | '&' => ['&', 'a', 'm', 'p', ';']
  | '<' => ['&', 'l', 't', ';']
  | '>' => ['&', 'g', 't', ';']
  | '"' => ['&', 'q', 'u', 'o', 't', ';']
  | _ => [c]

/-- How a text is written in markup. -/
def escape (s : Text) : Text := s.flatMap escapeChar

/-- Attributes in the order of their names, and of their values for the same
name. -/
def sortAttributes (attributes : List (Text × Text)) : List (Text × Text) :=
  attributes.mergeSort fun a b => ((Text.order a.1 b.1).then (Text.order a.2 b.2)).isLE

/-- An attribute as it is written. -/
def attributeText (a : Text × Text) : Text := ' ' :: a.1 ++ ['=', '"'] ++ escape a.2 ++ ['"']

/-- The opening tag of an element. -/
def openingTag (name : Text) (attributes : List (Text × Text)) : Text :=
  '<' :: name ++ (sortAttributes attributes).flatMap attributeText ++ ['>']

/-- The closing tag of an element. -/
def closingTag (name : Text) : Text := '<' :: '/' :: name ++ ['>']

mutual

/-- The canonical text of a node. -/
def write (keepWrappers : Bool) : Node → Text
  | doctype name _ _ => if keepWrappers then "<!DOCTYPE ".toList ++ name ++ ['>'] else []
  | element name attributes children =>
    if isWrapper name && !keepWrappers then writeAll keepWrappers children
    else if isVoid name then openingTag name attributes
    else openingTag name attributes ++ writeAll keepWrappers children ++ closingTag name
  | text contents => escape (Text.collapse contents)
  | comment _ => []
  | instruction _ _ => []
termination_by structural n => n

/-- The canonical text of nodes, one after the other. -/
def writeAll (keepWrappers : Bool) : List Node → Text
  | [] => []
  | n :: more => write keepWrappers n ++ writeAll keepWrappers more
termination_by structural ns => ns

end

mutual

/-- The texts in a node, each with a space behind it. -/
def spacedText : Node → Text
  | text contents => contents ++ [' ']
  | element _ _ children => spacedTexts children
  | _ => []
termination_by structural n => n

/-- The texts in nodes, each with a space behind it. -/
def spacedTexts : List Node → Text
  | [] => []
  | n :: more => spacedText n ++ spacedTexts more
termination_by structural ns => ns

end

/-- What a reader sees of a document: the words of its texts. -/
def visibleText (nodes : List Node) : Text := Text.collapse (spacedTexts nodes)

end Node

end Componentry
