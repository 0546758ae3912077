import Componentry.Definition.Marker
import Componentry.Slot.Basic

/-!
# Placeholders and verbatim text

Two ways to write a definition's body that look at marker tags only.

* `expandMarkers` replaces every slot marker by the placeholder of its
  slot.  A marker whose `{% endslot %}` comes before the next marker carries a
  fallback, which is the text between the two.
* `verbatim` wraps a body in a raw block, so that it renders as its own text
  whatever it holds.  A tag in it that would end the raw block is written as a
  string expression between two raw blocks.
-/

namespace Componentry

/-- The label of a slot marker. -/
def markerLabel : Option Text → Text
  | none => defaultLabel
  | some name => slotLabel name

/-- The fallback of a slot marker that `s` follows, and what is left behind its
end tag.  There is none if another marker comes first. -/
def fallback? (s : Text) : Option (Text × Text) :=
  match Text.find? Marker.endSlot? s with
  | none => none
  | some (fallback, _, rest) =>
    match Text.find? Marker.slot? s with
    | none => some (fallback, rest)
    | some (before, _, _) => if fallback.length < before.length then some (fallback, rest) else none

theorem fallback?_length {s fallback rest : Text} (h : fallback? s = some (fallback, rest)) :
    rest.length < s.length := by
  unfold fallback? at h
  split at h
  · cases h
  · rename_i hf
    have hlen := Text.find?_length Marker.endSlot?_consumes hf
    split at h
    · cases h
      exact hlen
    · split at h
      · cases h
        exact hlen
      · cases h

/-- Replaces the slot markers of a body by placeholders. -/
def expandMarkers (s : Text) : Text :=
  match h : Text.find? Marker.slot? s with
  | none => s
  | some (before, name, after) =>
    have : after.length < s.length := Text.find?_length Marker.slot?_consumes h
    match h' : fallback? after with
    | some (fallback, rest) =>
      have : rest.length < after.length := fallback?_length h'
      before ++ placeholderWithFallback (markerLabel name) fallback ++ expandMarkers rest
    | none => before ++ placeholder (markerLabel name) ++ expandMarkers after
termination_by s.length

/-- The tag that opens a raw block. -/
def rawTag : Text := statementBlock ['r', 'a', 'w']

/-- The tag that ends a raw block. -/
def endRawTag : Text := statementBlock ['e', 'n', 'd', 'r', 'a', 'w']

/-- A tag that ends raw blocks, written so that it renders as its own text
between two raw blocks. -/
def shownEndRaw (tag : Text) : Text := endRawTag ++ expressionBlock (Text.quote tag) ++ rawTag

/-- A body that renders as the given text. -/
def verbatim (raw : Text) : Text :=
  rawTag ++
    (Text.pieces Marker.endRaw? Marker.endRaw?_consumes raw).flatMap (fun
      | .gap text => text
      | .hit tag => shownEndRaw tag) ++
    endRawTag

end Componentry
