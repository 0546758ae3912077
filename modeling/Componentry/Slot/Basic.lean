import Componentry.Attribute.Props
import Componentry.Registry

/-!
# Slots

The content of a paired invocation is handed to the component as **slots**.  An
element `<slot name="…">` holds the content of a named slot; everything else is
the content of the default slot.  Each slot becomes a definition of its own (a
`SlotUnit`), and the invocation carries, under the slot's **label**, a deferred
source that invokes the definition in the caller's context (`callerVar`).

A component places a slot with a placeholder: it invokes what is installed under
the label, if anything is.

`Slots.extract` splits contents into slot units; `Contents.ofText` is the
underlying list of pieces.
-/

namespace Componentry

/-- The label of the default slot. -/
def defaultLabel : Text := ['S', 'l', 'o', 't']

/-- The variable that holds the caller's data while slot content runs. -/
def callerVar : Text := ['_', '_', 'c', 'a', 'l', 'l', 'e', 'r']

/-- The label of a slot name: the name without the spaces around it, with its
first character in upper case. -/
def slotLabel (name : Text) : Text :=
  match Text.trim name with
  | [] => defaultLabel
  | c :: rest => Text.upperCase c ++ rest

/-! ## Generated sources -/

/-- The name of the function that runs a definition. -/
def invokeName : Text := ['i', 'n', 'v', 'o', 'k', 'e']

/-- The name of the function that marks a source as slot content. -/
def deferredName : Text := ['d', 'e', 'f', 'e', 'r', 'r', 'e', 'd']

/-- An expression block. -/
def expressionBlock (source : Text) : Text := '{' :: '{' :: ' ' :: source ++ [' ', '}', '}']

/-- A statement block. -/
def statementBlock (source : Text) : Text := '{' :: '%' :: ' ' :: source ++ [' ', '%', '}']

/-- The invocation of a definition with props. -/
def invocation (name : Text) (props : Props) : Text :=
  expressionBlock (Props.call invokeName [Text.quote name, props.source])

/-- The source stored under a slot's label: it invokes the slot's definition in
the caller's context. -/
def deferredInvocation (unit : Text) : Text :=
  expressionBlock (Props.call invokeName [Text.quote unit, callerVar])

/-- The test whether something is given for a label. -/
def isGivenSource (label : Text) : Text :=
  Attribute.contextVar ++ '[' :: Text.quote label ++
    [']', ' ', 'i', 's', ' ', 'd', 'e', 'f', 'i', 'n', 'e', 'd']

/-- The invocation of what is installed under a label. -/
def installedSource (label : Text) : Text :=
  Props.call invokeName [Text.quote label, Attribute.contextVar]

/-- The placeholder of a slot. -/
def placeholder (label : Text) : Text :=
  expressionBlock (installedSource label ++ [' ', 'i', 'f', ' '] ++ isGivenSource label)

/-- The placeholder of a slot with a fallback for when nothing is given. -/
def placeholderWithFallback (label fallback : Text) : Text :=
  statementBlock (['i', 'f', ' '] ++ isGivenSource label) ++
    expressionBlock (installedSource label) ++
    statementBlock ['e', 'l', 's', 'e'] ++ fallback ++
    statementBlock ['e', 'n', 'd', 'i', 'f']

/-! ## Splitting contents -/

/-- A piece of an invocation's contents. -/
inductive ContentPiece where
  /-- Text outside of slot elements, and tags without their end. -/
  | loose (text : Text)
  /-- A slot element: its label if it is a named one, and its contents. -/
  | slot (label : Option Text) (body : Text)
deriving DecidableEq, Repr

/-- The label of a slot element; none if it is unnamed, blank, or names the
default slot. -/
def Element.slotLabel? (e : Element) : Option Text :=
  match Attribute.static? (Attribute.parse e.attributes) ['n', 'a', 'm', 'e'] with
  | none => none
  | some name =>
    if (Text.trim name).isEmpty || slotLabel name = defaultLabel then none
    else some (slotLabel name)

/-- The pieces of an invocation's contents, in order. -/
def ContentPiece.ofText (s : Text) : List ContentPiece :=
  match h : Scan.next (· == slotTag) s with
  | .found before e after =>
    have : after.length < s.length := Scan.found_after_length h
    .loose before :: .slot e.slotLabel? e.body :: ofText after
  | .unmatched before _ read after =>
    have : after.length < s.length := Scan.unmatched_after_length h
    .loose (before ++ read) :: ofText after
  | .done => [.loose s]
termination_by s.length

/-- A definition that holds slot content. -/
structure SlotUnit where
  name : Text
  body : Text
deriving DecidableEq, Repr

/-- The slots of one invocation. -/
structure Slots where
  /-- Every label with the name of its definition. -/
  entries : List (Text × Text)
  /-- The definitions, in the same order. -/
  units : List SlotUnit
deriving DecidableEq, Repr

namespace Slots

/-- Adds content to a label: behind what it has, or as a new label at the end. -/
def put (label body : Text) : List (Text × Text) → List (Text × Text)
  | [] => [(label, body)]
  | (l, b) :: more => if l = label then (l, b ++ body) :: more else (l, b) :: put label body more

/-- The named slots among pieces: each label once, where it occurs first. -/
def named (pieces : List ContentPiece) : List (Text × Text) :=
  pieces.foldl (fun slots piece =>
    match piece with
    | .slot (some label) body => put label body slots
    | _ => slots) []

/-- The content of the default slot: all loose text and unnamed slots. -/
def default (pieces : List ContentPiece) : Text :=
  pieces.flatMap fun
    | .loose text => text
    | .slot none body => body
    | .slot (some _) _ => []

/-- The labels and contents of the slots: the named ones, then the default slot
unless it is blank. -/
def contents (pieces : List ContentPiece) : List (Text × Text) :=
  named pieces ++
    (if Text.isVoid (default pieces) then [] else [(defaultLabel, default pieces)])

/-- The name of the `n`-th definition generated in a unit. -/
def unitName (owner component label : Text) (n : Nat) : Text :=
  Text.join ['_', '_'] [owner, component, label, Text.ofNat n]

/-- The slots in the contents of an invocation of `component`.  The definitions
are numbered on from `count`. -/
def extract (owner component : Text) (count : Nat) (inner : Text) : Slots :=
  let slots := (contents (ContentPiece.ofText inner)).zipIdx count
  { entries := slots.map fun ((label, _), n) => (label, unitName owner component label n)
    units := slots.map fun ((label, body), n) => ⟨unitName owner component label n, body⟩ }

/-- The entries that an invocation's props get: a deferred source for every
label, and the caller's context. -/
def propEntries (slots : Slots) : List (Text × Text) :=
  if slots.entries.isEmpty then []
  else
    slots.entries.map (fun (label, unit) =>
      (label, Props.call deferredName [Text.quote (deferredInvocation unit)])) ++
    [(callerVar, Attribute.contextVar)]

end Slots

end Componentry
