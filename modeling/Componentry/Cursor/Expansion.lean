import Componentry.Cursor.Attribute
import Componentry.Expansion.Basic

/-!
# Expansion, by offsets

The passes that replace invocations go over a text with a cursor: they scan for the next
element, cut the text before it and the parts of it out by their offsets, and go on at
an offset behind it.  `none` stands for a cut that fails and for a pass that does not
go forward inside of the text (`goesOn`), as in the scan for tags.
-/

namespace Componentry.Cursor

/-- Expands the invocations whose tags close themselves, from offset `i` on.  `out` is
what has been written, and the text from `cursor` on has not been. -/
def selfClosing (r : Registry) (text out : Text) (cursor i : Nat) : Option Text := do
  match ← scan text r.invokes i with
  | .found m =>
    if m.isSelfClosing then
      let before ← text.slice? cursor m.start
      let attributesText ← m.attributesText? text
      let props ← props attributesText
      if goesOn text i m.stop then
        selfClosing r text (out ++ before ++ invocation m.name props) m.stop m.stop
      else none
    else if goesOn text i (m.attributes.2 + 1) then
      selfClosing r text out cursor (m.attributes.2 + 1)
    else none
  | .unmatched _ _ resume =>
    if goesOn text i resume then selfClosing r text out cursor resume else none
  | .done =>
    let rest ← Text.atByte? cursor text
    return out ++ rest
termination_by text.byteLength - i
decreasing_by all_goals exact goesOn_decreasing ‹_›

/-! ## Slots -/

/-- The label that attributes give a slot; none if it has no name, or that of the
default slot. -/
def slotLabel? (attributes : List Attribute) : Option Text :=
  match Attribute.static? attributes ['n', 'a', 'm', 'e'] with
  | none => none
  | some name =>
    if (Text.trim name).isEmpty || slotLabel name = defaultLabel then none
    else some (slotLabel name)

/-- The contents of the named slots and of the default slot, from an offset on. -/
def slotContents (inner : Text) (named : List (Text × Text)) (default : Text) (cursor : Nat) :
    Option (List (Text × Text) × Text) := do
  match ← scan inner (· == slotTag) cursor with
  | .found m =>
    let before ← inner.slice? cursor m.start
    let attributesText ← m.attributesText? inner
    let attributes ← attributes attributesText
    let body ← m.bodyText? inner
    if goesOn inner cursor m.stop then
      match slotLabel? attributes with
      | some label => slotContents inner (Slots.put label body named) (default ++ before) m.stop
      | none => slotContents inner named (default ++ before ++ body) m.stop
    else none
  | .unmatched _ _ resume =>
    let skipped ← inner.slice? cursor resume
    if goesOn inner cursor resume then slotContents inner named (default ++ skipped) resume
    else none
  | .done =>
    let rest ← Text.atByte? cursor inner
    return (named, default ++ rest)
termination_by inner.byteLength - cursor
decreasing_by all_goals exact goesOn_decreasing ‹_›

/-- Slots with the given labels and contents, numbered on from `count`. -/
def numberSlots (owner component : Text) (count : Nat) (contents : List (Text × Text)) : Slots :=
  let slots := contents.zipIdx count
  { entries := slots.map fun ((label, _), n) => (label, Slots.unitName owner component label n)
    units := slots.map fun ((label, body), n) => ⟨Slots.unitName owner component label n, body⟩ }

/-- The slots in the contents of an invocation of `component`. -/
def resolveSlots (owner component : Text) (count : Nat) (inner : Text) : Option Slots := do
  let (named, default) ← slotContents inner [] [] 0
  return numberSlots owner component count
    (named ++ if Text.isVoid default then [] else [(defaultLabel, default)])

/-! ## Paired tags -/

/-- What expanding the invocations of a text leaves behind: the number of the next slot
definition, the definitions, and the tags that were left as they are. -/
structure Progress where
  count : Nat
  units : List SlotUnit
  unmatched : List UnmatchedTag
deriving DecidableEq, Repr

/-- Adds what an expansion that is numbered on leaves behind. -/
def Progress.add (p : Progress) (units : List SlotUnit) (unmatched : List UnmatchedTag) : Progress :=
  ⟨p.count + units.length, p.units ++ units, p.unmatched ++ unmatched⟩

/-- Expands invocations, contents first, from `cursor` on.  `out` is what has been
written.  Contents that are not shorter than the text are not expanded. -/
def paired (r : Registry) (owner text out : Text) (cursor : Nat) (progress : Progress) :
    Option (Text × Progress) := do
  match ← scan text r.invokes cursor with
  | .found m =>
    let before ← text.slice? cursor m.start
    let attributesText ← m.attributesText? text
    let props ← props attributesText
    if m.isSelfClosing then
      if goesOn text cursor m.stop then
        paired r owner text (out ++ before ++ invocation m.name props) m.stop progress
      else none
    else
      let body ← m.bodyText? text
      if body.length < text.length && goesOn text cursor m.stop then
        let (inner, progress) ← paired r owner body [] 0 progress
        let slots ← resolveSlots owner m.name progress.count inner
        paired r owner text
          (out ++ before ++ invocation m.name (props.withEntries slots.propEntries)) m.stop
          (progress.add slots.units [])
      else none
  | .unmatched name start resume =>
    let skipped ← text.slice? cursor resume
    if goesOn text cursor resume then
      paired r owner text (out ++ skipped) resume (progress.add [] [⟨name, start⟩])
    else none
  | .done =>
    let rest ← Text.atByte? cursor text
    return (out ++ rest, progress)
termination_by (text.length, text.byteLength - cursor)
decreasing_by
  · exact .right _ (goesOn_decreasing ‹_›)
  · rename_i h
    rw [Bool.and_eq_true, decide_eq_true_eq] at h
    exact .left _ _ h.1
  · rename_i h
    rw [Bool.and_eq_true, decide_eq_true_eq] at h
    exact .right _ (goesOn_decreasing h.2)
  · exact .right _ (goesOn_decreasing ‹_›)

end Componentry.Cursor
