import Componentry.Definition.Placeholder
import Componentry.Expansion.Basic
import Componentry.Template.Lexer

/-! # Trees of markup and their translation

The passes of an expansion work on text.  What they do is easier to say of the
tree that the text was written from (`Markup`): text, prints of variables, places
of slots, and tags of components, where the contents of a paired tag may hold
slot elements next to other markup (`Contents`).

* `Markup.source` writes a tree.  Each pass replaces one way to write something
  by another one, so the two parts that change are a parameter (`Writer`).
* `Markup.translate` says what the passes make of a tree, without looking at its
  text: every tag is one fragment, and the slots of paired tags become
  definitions, numbered from the inside to the outside and from left to right.
* `Markup.isWellFormed` says which trees can be told from their text.

`Slots.gather` collects the contents of slots; it is used on trees and on their
translations alike.
-/
namespace Componentry

/-! ## Trees -/

/-- What an attribute is given: a text, or the value of a variable. -/
inductive Operand where
  | text (value : Text)
  | var (name : Text)
deriving DecidableEq, Repr

mutual

/-- Markup: the parts of a body, in order. -/
inductive Markup where
  | nil
  /-- Text that stands for itself. -/
  | text (s : Text) (rest : Markup)
  /-- The value of a variable. -/
  | print (x : Text) (rest : Markup)
  /-- The place of a slot. -/
  | place (name : Option Text) (rest : Markup)
  /-- A tag that closes itself. -/
  | single (name : Text) (attributes : List (Text × Operand)) (rest : Markup)
  /-- A paired tag with its contents. -/
  | paired (name : Text) (attributes : List (Text × Operand)) (contents : Contents) (rest : Markup)

/-- The contents of a paired tag: markup, with slot elements in between. -/
inductive Contents where
  | last (m : Markup)
  | slot (before : Markup) (name : Option Text) (body : Markup) (rest : Contents)

end

/-! ## Writing trees -/

/-- An attribute as it is written in a tag. -/
def Operand.attributeSource : Text × Operand → Text
  | (key, text value) => ' ' :: key ++ '=' :: '"' :: value ++ ['"']
  | (key, var name) => ' ' :: key ++ '=' :: '{' :: name ++ ['}']

/-- The attributes of a tag. -/
def attributesSource (attributes : List (Text × Operand)) : Text :=
  attributes.flatMap Operand.attributeSource

/-- The attribute that reading finds. -/
def Operand.attribute : Text × Operand → Attribute
  | (key, text value) => .literal key (.text value)
  | (key, var name) => .literal key (.expression name)

/-- The entry of an invocation's props for an attribute. -/
def Operand.entry : Text × Operand → Text × Text
  | (key, text value) => (key, Text.quote value)
  | (key, var name) => (key, '(' :: name ++ [')'])

/-- The opening tag of a paired element. -/
def openingTag (name : Text) (attributes : List (Text × Operand)) : Text :=
  '<' :: name ++ attributesSource attributes ++ ['>']

/-- The closing tag of a paired element. -/
def closingTag (name : Text) : Text := '<' :: '/' :: name ++ ['>']

/-- A tag that closes itself. -/
def singleTag (name : Text) (attributes : List (Text × Operand)) : Text :=
  '<' :: name ++ attributesSource attributes ++ ['/', '>']

/-- The invocation that a tag is replaced by. -/
def tagCall (name : Text) (attributes : List (Text × Operand)) : Text :=
  invocation name ⟨[], attributes.map Operand.entry⟩

/-- Attributes that are given texts. -/
def textAttributes (attributes : List (Text × Text)) : List (Text × Operand) :=
  attributes.map fun (key, value) => (key, .text value)

/-- The attributes of a slot element. -/
def slotAttributes : Option Text → List (Text × Operand)
  | none => []
  | some name => [(['n', 'a', 'm', 'e'], .text name)]

/-- The marker of a slot's place. -/
def slotMarker : Option Text → Text
  | none => statementBlock slotTag
  | some name => statementBlock (slotTag ++ " name=".toList ++ '"' :: name ++ ['"'])

/-- The tag that ends the fallback of a slot marker. -/
def endSlotTag : Text := statementBlock ['e', 'n', 'd', 's', 'l', 'o', 't']

/-- How the parts of markup are written that the passes replace. -/
structure Writer where
  place : Option Text → Text
  single : Text → List (Text × Operand) → Text

namespace Writer

/-- Markup as its author writes it. -/
def author : Writer := ⟨slotMarker, singleTag⟩

/-- Markup whose slot markers have been replaced. -/
def placed : Writer := ⟨fun name => placeholder (markerLabel name), singleTag⟩

/-- Markup whose tags that close themselves have been replaced as well. -/
def called : Writer := ⟨fun name => placeholder (markerLabel name), tagCall⟩

end Writer

mutual

/-- The text of markup. -/
def Markup.source (w : Writer) : Markup → Text
  | .nil => []
  | .text s rest => s ++ rest.source w
  | .print x rest => expressionBlock x ++ rest.source w
  | .place name rest => w.place name ++ rest.source w
  | .single name attributes rest => w.single name attributes ++ rest.source w
  | .paired name attributes contents rest =>
    openingTag name attributes ++ contents.source w ++ closingTag name ++ rest.source w

/-- The text of contents. -/
def Contents.source (w : Writer) : Contents → Text
  | .last m => m.source w
  | .slot before name body rest =>
    before.source w ++ openingTag slotTag (slotAttributes name) ++ body.source w ++
      closingTag slotTag ++ rest.source w

end

/-! ## Which trees can be told from their text -/

/-- Whether a text is an identifier. -/
def isIdentifier : Text → Bool
  | [] => false
  | c :: s => Template.isIdentStart c && s.all Template.isIdentChar

/-- Whether a text starts neither a tag nor a block. -/
def isPlainText (s : Text) : Bool := s.all fun c => c != '<' && c != '{'

/-- Whether a text can be the value of an attribute. -/
def isPlainValue (s : Text) : Bool := s.all fun c => c != '"' && c != '<' && c != '{'

/-- Whether an attribute can be told from its text. -/
def Operand.isWellFormed : Text × Operand → Bool
  | (key, value) =>
    !key.isEmpty && key.all (fun c => Attribute.isKeyChar c && c != '<') &&
      match value with
      | text v => isPlainValue v
      | var x => isIdentifier x

/-- Whether a tag can be told from its text and invokes a component. -/
def Registry.isTag (r : Registry) (name : Text) (attributes : List (Text × Operand)) : Bool :=
  r.invokes name && name.all Tag.isNameChar && attributes.all Operand.isWellFormed

mutual

/-- Whether markup can be told from its text: text does not hold `<` or `{`, and
tags are those of registered components. -/
def Markup.isWellFormed (r : Registry) : Markup → Bool
  | .nil => true
  | .text s rest => isPlainText s && rest.isWellFormed r
  | .print x rest => isIdentifier x && rest.isWellFormed r
  | .place _ rest => rest.isWellFormed r
  | .single name attributes rest => r.isTag name attributes && rest.isWellFormed r
  | .paired name attributes contents rest =>
    r.isTag name attributes && contents.isWellFormed r && rest.isWellFormed r

/-- Whether contents can be told from their text. -/
def Contents.isWellFormed (r : Registry) : Contents → Bool
  | .last m => m.isWellFormed r
  | .slot before name body rest =>
    before.isWellFormed r && (slotAttributes name).all Operand.isWellFormed &&
      body.isWellFormed r && rest.isWellFormed r

end

/-! ## Slots -/

namespace Slots

variable {α β : Type}

/-- The parts of contents that belong to one slot. -/
def parts (pieces : List (Option Text × α)) (slot : Option Text) : List α :=
  (pieces.filter fun piece => piece.1 = slot).map Prod.snd

/-- The slots of contents with their parts: the named ones in the order in which
they occur first, then the default slot unless all of its parts are blank. -/
def gather (blank : α → Bool) (pieces : List (Option Text × α)) : List (Text × List α) :=
  (pieces.filterMap Prod.fst).eraseDups.map (fun label => (label, parts pieces (some label))) ++
    (if (parts pieces none).all blank then [] else [(defaultLabel, parts pieces none)])

/-- The slots of a tag with the names of their definitions, which are numbered on
from `count`. -/
def number (owner component : Text) (count : Nat) (slots : List (Text × α)) :
    List (Text × Text × α) :=
  (slots.zipIdx count).map fun ((label, a), n) => (label, unitName owner component label n, a)

/-- The slot that an element of contents belongs to: none for the default slot. -/
def ofName : Option Text → Option Text
  | none => none
  | some name =>
    if (Text.trim name).isEmpty || slotLabel name = defaultLabel then none
    else some (slotLabel name)

end Slots

/-! ## Translations -/

/-- A part of a body whose tags have been replaced. -/
inductive Fragment where
  | text (s : Text)
  | print (x : Text)
  | place (name : Option Text)
  /-- An invocation: its attributes, and its slots with the names of their
  definitions. -/
  | tag (name : Text) (attributes : List (Text × Operand)) (slots : List (Text × Text))
deriving DecidableEq, Repr

namespace Fragment

/-- The entries that hand slots to a component: under every label a deferred
source that invokes the slot's definition, and then the caller's context.  A tag
without slots has none of them. -/
def slotEntries (slots : List (Text × Text)) : List (Text × Text) :=
  if slots.isEmpty then []
  else
    slots.map (fun (label, unit) =>
      (label, Props.call deferredName [Text.quote (deferredInvocation unit)])) ++
    [(callerVar, Attribute.contextVar)]

/-- The text of a fragment. -/
def source : Fragment → Text
  | text s => s
  | print x => expressionBlock x
  | place name => placeholder (markerLabel name)
  | tag name attributes slots =>
    invocation name ⟨[], attributes.map Operand.entry ++ slotEntries slots⟩

/-- Whether a fragment is text of nothing but spaces. -/
def isBlank : Fragment → Bool
  | text s => Text.isVoid s
  | _ => false

/-- The text of fragments. -/
def sources (fragments : List Fragment) : Text := fragments.flatMap source

end Fragment

mutual

/-- The fragments of markup, and the definitions for the slots in it.  These are
named after `owner` and numbered on from `count`. -/
def Markup.translate (owner : Text) (count : Nat) :
    Markup → List Fragment × List (Text × List Fragment)
  | .nil => ([], [])
  | .text s rest => (rest.translate owner count).map (.text s :: ·) id
  | .print x rest => (rest.translate owner count).map (.print x :: ·) id
  | .place name rest => (rest.translate owner count).map (.place name :: ·) id
  | .single name attributes rest =>
    (rest.translate owner count).map (.tag name attributes [] :: ·) id
  | .paired name attributes contents rest =>
    let (pieces, inner) := contents.translate owner count
    let slots := Slots.number owner name (count + inner.length)
      (Slots.gather (·.all Fragment.isBlank) pieces)
    let units := inner ++ slots.map fun (_, unit, parts) => (unit, parts.flatten)
    let (fragments, more) := rest.translate owner (count + units.length)
    (.tag name attributes (slots.map fun (label, unit, _) => (label, unit)) :: fragments,
      units ++ more)

/-- The pieces of contents, each with the slot it belongs to, and the definitions
for the slots inside of them. -/
def Contents.translate (owner : Text) (count : Nat) :
    Contents → List (Option Text × List Fragment) × List (Text × List Fragment)
  | .last m => (m.translate owner count).map (fun fragments => [(none, fragments)]) id
  | .slot before name body rest =>
    let (loose, units₁) := before.translate owner count
    let (held, units₂) := body.translate owner (count + units₁.length)
    let (pieces, units₃) := rest.translate owner (count + units₁.length + units₂.length)
    ((none, loose) :: (Slots.ofName name, held) :: pieces, units₁ ++ units₂ ++ units₃)

end

end Componentry
