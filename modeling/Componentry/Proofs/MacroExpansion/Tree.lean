import Componentry.Proofs.Markup.Markers
import Componentry.Proofs.Template.Maps

/-! # Macro expansion of trees

What a project of trees renders to, said on the trees alone: text stands for itself,
the print of a variable is its value as markup, a tag is the body of its component
with the attributes as its variables, and the place of a slot is what the tag was
given for the slot.  Slots are **closed over the environment of the tag**
(`Environment`): what stands in them sees the variables and the slots of the place
where it was written, not those of the component it was given to.

Expansion stops at a depth: a tag takes one level and the place of a slot takes two,
and where no level is left there is no text (`expand`).

`isProject` says which projects of trees this is about.
-/
namespace Componentry

open Template

/-! ## Slots of tags -/

/-- Whether markup is text of nothing but spaces. -/
def Markup.isBlank : Markup → Bool
  | .nil => true
  | .text s rest => Text.isVoid s && rest.isBlank
  | _ => false

namespace Contents

/-- The pieces of contents, each with the slot it belongs to. -/
def pieces : Contents → List (Option Text × Markup)
  | .last m => [(none, m)]
  | .slot before name body rest => (none, before) :: (Slots.ofName name, body) :: rest.pieces

/-- The slots that contents give, with their markup in parts. -/
def slots (contents : Contents) : List (Text × List Markup) :=
  Slots.gather Markup.isBlank contents.pieces

end Contents

/-! ## Environments -/

/-- What markup sees. -/
inductive Environment where
  /-- A page sees its data. -/
  | page (values : List (Text × Value))
  /-- The body of a component sees its attributes, and the slots that the tag gives
  with the environment that the tag stands in. -/
  | tag (values : List (Text × Value)) (slots : List (Text × List Markup)) (caller : Environment)

namespace Environment

/-- The variables of an environment. -/
def values : Environment → List (Text × Value)
  | page values => values
  | tag values _ _ => values

/-- The value of a variable; it is undefined if there is none. -/
def value (env : Environment) (x : Text) : Value := (Value.last? x env.values).getD .undefined

/-- What is given for a slot, with the environment it was written in. -/
def slot? (env : Environment) (label : Text) : Option (List Markup × Environment) :=
  match env with
  | page _ => none
  | tag _ slots caller => (slots.find? fun slot => slot.1 = label).map fun slot => (slot.2, caller)

/-- The value of an attribute. -/
def operand (env : Environment) : Operand → Value
  | .text v => .ofText v
  | .var x => env.value x

/-- The values of attributes. -/
def attributes (env : Environment) (attributes : List (Text × Operand)) : List (Text × Value) :=
  attributes.map fun a => (a.1, env.operand a.2)

end Environment

/-! ## Expansion -/

/-- The text of markup in an environment, where `tag` is the text of a component's
body in an environment of its own and `place` is the text at the place of a slot. -/
def Markup.expandWith (tag : Text → Environment → Text) (place : Text → Text)
    (env : Environment) : Markup → Text
  | .nil => []
  | .text s rest => s ++ rest.expandWith tag place env
  | .print x rest => escapeText (env.value x).text ++ rest.expandWith tag place env
  | .place name rest => place (markerLabel name) ++ rest.expandWith tag place env
  | .single name attributes rest =>
    tag name (.tag (env.attributes attributes) [] env) ++ rest.expandWith tag place env
  | .paired name attributes contents rest =>
    tag name (.tag (env.attributes attributes) contents.slots env) ++
      rest.expandWith tag place env

/-- The body of a name. -/
def bodyOf (bodies : List (Text × Markup)) (name : Text) : Markup :=
  ((bodies.find? fun body => body.1 = name).map Prod.snd).getD .nil

/-- **Macro expansion**: the text of markup in an environment, with so many levels
left. -/
def expand (bodies : List (Text × Markup)) : (levels : Nat) → Environment → Markup → Text
  | 0, env, m => m.expandWith (fun _ _ => []) (fun _ => []) env
  | 1, env, m =>
    m.expandWith (fun name inner => expand bodies 0 inner (bodyOf bodies name)) (fun _ => []) env
  | levels + 2, env, m =>
    m.expandWith (fun name inner => expand bodies (levels + 1) inner (bodyOf bodies name))
      (fun label =>
        match env.slot? label with
        | none => []
        | some (parts, caller) => parts.flatMap fun part => expand bodies levels caller part)
      env

/-! ## Projects of trees -/

/-- Whether a text names a variable: it is an identifier that starts with a small
letter, and neither a word of the template language nor the name of a function. -/
def isVariable (x : Text) : Bool :=
  isIdentifier x && (x.head?.any fun c => 'a' ≤ c && c ≤ 'z') && (constant? x).isNone &&
    x != Keyword.kNot.text && (Function.named? x).isNone

/-- Whether a text is a name of ASCII letters and digits that starts with a letter. -/
def isPlainName : Text → Bool
  | [] => false
  | c :: s => Text.isAsciiLetter c && s.all fun d => Text.isAsciiLetter d || Text.isAsciiDigit d

/-- Whether an attribute gives a text or a variable to a variable. -/
def Operand.isPlain : Text × Operand → Bool
  | (key, text v) => isVariable key && isPlainValue v
  | (key, var x) => isVariable key && isVariable x

/-- Whether a tag is one of a component, with plain attributes. -/
def isTagOf (names : List Text) (name : Text) (attributes : List (Text × Operand)) : Bool :=
  names.contains name && isComponentName name && attributes.all Operand.isPlain

/-- Whether the text of markup does not end in a carriage return. -/
def endsWell (parts : List Markup) : Bool :=
  (parts.flatMap (Markup.source .author)).getLast? != some '\r'

/-- How many entries the props of a tag have. -/
def entryCount {α : Type} (attributes : List (Text × Operand)) (slots : List α) : Nat :=
  attributes.length + if slots.isEmpty then 0 else slots.length + 1

/-- Whether the slots that a tag gives are fit for it: none has the name of the tag
or ends in a carriage return, and the tag has no more than a thousand props. -/
def areSlotsOf (name : Text) (attributes : List (Text × Operand))
    (slots : List (Text × List Markup)) : Bool :=
  slots.all (fun slot => slot.1 != name && endsWell slot.2) &&
    entryCount attributes slots ≤ 1000

mutual

/-- Whether markup is made of plain text, prints, places, and tags of the named
components. -/
def Markup.isPlain (names : List Text) : Markup → Bool
  | .nil => true
  | .text s rest => isPlainText s && !s.contains '\n' && rest.isPlain names
  | .print x rest => isVariable x && rest.isPlain names
  | .place name rest => name.all isPlainName && rest.isPlain names
  | .single name attributes rest =>
    isTagOf names name attributes && areSlotsOf name attributes [] && rest.isPlain names
  | .paired name attributes contents rest =>
    isTagOf names name attributes && areSlotsOf name attributes contents.slots &&
      contents.isPlain names && rest.isPlain names

/-- Whether contents are made of plain markup and slots. -/
def Contents.isPlain (names : List Text) : Contents → Bool
  | .last m => m.isPlain names
  | .slot before name body rest =>
    before.isPlain names && name.all isPlainName && body.isPlain names && rest.isPlain names

end

/-- Whether bodies are a project of plain trees with distinct names. -/
def isProject (bodies : List (Text × Markup)) : Bool :=
  let names := bodies.map Prod.fst
  decide names.Nodup && names.all isPlainName &&
    bodies.all fun body => body.2.isPlain names && endsWell [body.2]

end Componentry
