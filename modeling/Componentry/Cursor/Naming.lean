import Componentry.Cursor.Expansion

/-!
# Names of slots, by a counter

The definitions that are made of a unit's slots are named one after the other, each with
the number of the names before it.  The counter is threaded through the slots of all
invocations of the unit.
-/

namespace Componentry

/-- The state from which the definitions of a unit's slots get their names. -/
structure SlotNaming where
  /-- The name of the unit. -/
  owner : Text
  /-- The number of names that have been given. -/
  counter : Nat
deriving DecidableEq, Repr

/-- The name for a slot of a component, and the state behind it. -/
def SlotNaming.next (naming : SlotNaming) (component label : Text) : Text × SlotNaming :=
  (Slots.unitName naming.owner component label naming.counter,
    { naming with counter := naming.counter + 1 })

/-- Adds a slot with a label and contents to the slots of a component. -/
def Slots.emit (component : Text) (state : Slots × SlotNaming) (slot : Text × Text) :
    Slots × SlotNaming :=
  let (name, naming) := state.2.next component slot.1
  (⟨state.1.entries ++ [(slot.1, name)], state.1.units ++ [⟨name, slot.2⟩]⟩, naming)

/-- The slots in the contents of an invocation of `component`, and the state behind them:
the named slots, then the default slot unless it is blank. -/
def Cursor.emitSlots (component inner : Text) (naming : SlotNaming) :
    Option (Slots × SlotNaming) := do
  let (named, default) ← slotContents inner [] [] 0
  let state := named.foldl (Slots.emit component) (⟨[], []⟩, naming)
  return if Text.isVoid default then state else Slots.emit component state (defaultLabel, default)

end Componentry
