import Componentry.Registry

/-!
# Locations

Where the outcomes of a scan lie in the text, as byte offsets.  `Location.report`
lists the outcomes one after the other: after an element the scan goes on behind
it, or inside its opening tag if nested elements are wanted too; after an
unmatched tag it goes on behind the part that was read.
-/

namespace Componentry

/-- A found element with the byte offsets of its parts.  A span is the offset of
its first byte and the offset behind its last one. -/
structure Location where
  name : Text
  start : Nat
  stop : Nat
  attributes : Nat × Nat
  attributesText : Text
  body : Option (Nat × Nat)
  bodyText : Text
deriving DecidableEq, Repr

/-- The location of an element that starts at byte offset `start`. -/
def Element.locate (e : Element) (start : Nat) : Location :=
  let nameEnd := start + 1 + Text.byteLength e.name
  let attributesEnd := nameEnd + Text.byteLength e.attributes
  let openingEnd := start + Text.byteLength e.opening
  { name := e.name
    start := start
    stop := start + Text.byteLength e.text
    attributes := (nameEnd, attributesEnd)
    attributesText := e.attributes
    body := if e.isSelfClosing then none else some (openingEnd, openingEnd + Text.byteLength e.body)
    bodyText := e.body }

/-- One line of a scan report. -/
inductive Report where
  | found (element : Location)
  | unmatched (name : Text) (start resume : Nat)
  | done
deriving DecidableEq, Repr

namespace Report

/-- Where a report over several elements goes on after an element. -/
inductive Mode where
  /-- Behind the element. -/
  | over
  /-- Behind the first character of the opening tag's end, so that nested
  elements are reported as well. -/
  | into
deriving DecidableEq, Repr

/-- The text from `n` characters on. -/
def skip (n : Nat) (s : Text) (offset : Nat) : Text × Nat :=
  (s.drop n, offset + Text.byteLength (s.take n))

/-- At most `limit` outcomes of scanning `s`, which starts at byte `offset` of
the whole text. -/
def list (accept : Text → Bool) (mode : Mode) : (limit : Nat) → (s : Text) → (offset : Nat) →
    List Report
  | 0, _, _ => []
  | limit + 1, s, offset =>
    match Scan.next accept s with
    | .done => [.done]
    | .found before e _ =>
      let start := offset + Text.byteLength before
      let past :=
        match mode with
        | .over => before.length + e.text.length
        | .into => before.length + e.name.length + e.attributes.length + 2
      let (rest, offset') := skip past s offset
      .found (e.locate start) :: list accept mode limit rest offset'
    | .unmatched before name read _ =>
      let start := offset + Text.byteLength before
      let (rest, offset') := skip (before.length + read.length) s offset
      .unmatched name start (start + Text.byteLength read) ::
        list accept mode limit rest offset'

/-- At most a thousand outcomes of scanning a text from a byte offset on. -/
def ofText (accept : Text → Bool) (mode : Mode) (text : Text) (start : Nat) : List Report :=
  let rest := Text.fromByte start text
  list accept mode 1000 rest (Text.byteLength text - Text.byteLength rest)

end Report

/-- The first invocation at or after a byte offset; unmatched tags are stepped
over. -/
def Registry.firstInvocation? (r : Registry) (text : Text) (start : Nat) : Option Location :=
  (Report.list r.invokes .over (text.length + 2) (Text.fromByte start text)
      (Text.byteLength text - Text.byteLength (Text.fromByte start text))).findSome? fun
    | .found element => some element
    | _ => none

end Componentry
