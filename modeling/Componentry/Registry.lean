import Componentry.Tag.Scan
import Componentry.Text.Letter

/-!
# The component registry

A **registry** lists the component names that are known.  A tag invokes a
component if its name starts with an upper-case letter and is registered; all
other tags are plain markup.  The name `slot` is always registered: it marks
slot content inside an invocation and never names a component itself.
-/

namespace Componentry

/-- The tag name that marks slot content. -/
def slotTag : Text := ['s', 'l', 'o', 't']

/-- Whether a name is written like a component's: its first character is
upper-case. -/
def isComponentName : Text → Bool
  | [] => false
  | c :: _ => Text.isUpper c

/-- The known component names, without repetitions. -/
structure Registry where
  names : List Text
deriving DecidableEq, Repr

namespace Registry

/-- The registry of a project without components. -/
def empty : Registry := ⟨[slotTag]⟩

/-- Whether a name is registered. -/
def contains (r : Registry) (name : Text) : Bool := r.names.contains name

/-- Adds a name. -/
def register (r : Registry) (name : Text) : Registry :=
  if r.contains name then r else ⟨r.names ++ [name]⟩

/-- Adds several names. -/
def registerAll (r : Registry) (names : List Text) : Registry := names.foldl register r

/-- The registered names, sorted. -/
def toSortedList (r : Registry) : List Text := Text.sort r.names

/-- The number of registered names. -/
def size (r : Registry) : Nat := r.names.length

/-- Whether no name is registered, which no registry built from `empty` ever is. -/
def isEmpty (r : Registry) : Bool := r.names.isEmpty

/-- Whether a tag of this name invokes a component. -/
def invokes (r : Registry) (name : Text) : Bool := isComponentName name && r.contains name

@[simp] theorem contains_register (r : Registry) (a b : Text) :
    (r.register a).contains b = (r.contains b || b == a) := by
  unfold register
  split
  · rename_i h
    by_cases hb : b = a
    · simp [hb, h]
    · simp [hb]
  · by_cases hb : b = a <;> simp [contains, hb]

theorem contains_registerAll {names : List Text} (r : Registry) {name : Text} :
    (r.registerAll names).contains name = (r.contains name || names.contains name) := by
  induction names generalizing r with
  | nil => simp [registerAll]
  | cons first names ih =>
    rw [registerAll, List.foldl_cons, ← registerAll, ih, contains_register, List.contains_cons,
      Bool.or_assoc]

end Registry

end Componentry
