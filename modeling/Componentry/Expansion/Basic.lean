import Componentry.Slot.Basic

/-!
# Expansion of invocations

Tags that invoke components are replaced by expression blocks that do.  This
takes two passes over a body.

* `selfClosing` replaces the tags that close themselves, at any depth: it steps
  into the contents of paired tags, which it leaves as they are.
* `paired` replaces the paired tags, contents first.  The slots of the contents
  become definitions of their own, numbered in the order in which their
  invocations end.

A tag without its end stays as it is; `paired` reports it with the byte offset in
the text at hand, which for nested contents is the contents' own text.
-/

namespace Componentry

namespace Element

/-- What follows the opening tag of an element: its contents and its closing
tag. -/
def inside (e : Element) : Text :=
  match e.contents with
  | none => []
  | some (body, close) => body ++ close

theorem opening_append_inside (e : Element) : e.opening ++ e.inside = e.text := by
  unfold inside text
  cases e.contents <;> simp

end Element

/-- An invocation whose tag is never closed. -/
structure UnmatchedTag where
  name : Text
  /-- The byte offset of the tag in the text at hand. -/
  offset : Nat
deriving DecidableEq, Repr

/-- A text with its invocations expanded. -/
structure Expansion where
  text : Text
  /-- The definitions generated for slots. -/
  units : List SlotUnit
  /-- The tags that were left as they are. -/
  unmatched : List UnmatchedTag
deriving DecidableEq, Repr

namespace Expansion

/-- Expands the invocations whose tags close themselves. -/
def selfClosing (r : Registry) (s : Text) : Text :=
  match h : Scan.next r.invokes s with
  | .done => s
  | .found before e after =>
    have : after.length < s.length := Scan.found_after_length h
    have : e.inside.length + after.length < s.length := by
      have h₁ := Scan.found_length h
      have h₂ := e.opening_length_pos
      rw [← e.opening_append_inside, List.length_append] at h₁
      omega
    if e.isSelfClosing then
      before ++ invocation e.name (Props.ofText e.attributes) ++ selfClosing r after
    else before ++ e.opening ++ selfClosing r (e.inside ++ after)
  | .unmatched before _ read after =>
    have : after.length < s.length := Scan.unmatched_after_length h
    before ++ read ++ selfClosing r after
termination_by s.length

/-- The expansion of what follows a text that has been dealt with. -/
def under (text : Text) (rest : Expansion) : Expansion := { rest with text := text ++ rest.text }

/-- Expands invocations in a text that starts at byte `offset` of the text at
hand.  The definitions for slots are named after `owner` and numbered on from
`count`. -/
def paired (r : Registry) (owner : Text) (count offset : Nat) (s : Text) : Expansion :=
  match h : Scan.next r.invokes s with
  | .done => ⟨s, [], []⟩
  | .found before e after =>
    have : after.length < s.length := Scan.found_after_length h
    let offset' := offset + Text.byteLength before + Text.byteLength e.text
    let props := Props.ofText e.attributes
    match hc : e.contents with
    | none =>
      (paired r owner count offset' after).under (before ++ invocation e.name props)
    | some (body, _) =>
      have : body.length < s.length := Scan.found_body_length h hc
      let inner := paired r owner count 0 body
      let slots := Slots.extract owner e.name (count + inner.units.length) inner.text
      let units := inner.units ++ slots.units
      let rest := paired r owner (count + units.length) offset' after
      ⟨before ++ invocation e.name (props.withEntries slots.propEntries) ++ rest.text,
        units ++ rest.units, inner.unmatched ++ rest.unmatched⟩
  | .unmatched before name read after =>
    have : after.length < s.length := Scan.unmatched_after_length h
    let start := offset + Text.byteLength before
    let rest := paired r owner count (start + Text.byteLength read) after
    ⟨before ++ read ++ rest.text, rest.units, ⟨name, start⟩ :: rest.unmatched⟩
termination_by s.length

/-- Expands all invocations of a text. -/
def ofText (r : Registry) (owner : Text) (count : Nat) (s : Text) : Expansion :=
  paired r owner count 0 (selfClosing r s)

end Expansion

end Componentry
