import Componentry.Definition.Marker
import Componentry.Text.Display
import Componentry.Text.Quoted

/-!
# Definitions and their listing

A **definition** is a named template body.  Definitions are listed as text, one
block after the other:

    {% define "name" %}
    body
    {% enddefine %}

`Definition.listing` writes such a list and `Definition.split` reads it back.  A
body reaches to the first line that starts with the closing tag, so a body that
holds such a line of its own does not read back.
-/

namespace Componentry

/-- A named template body. -/
structure Definition where
  name : Text
  body : Text
deriving DecidableEq, Repr

namespace Definition

/-- The start of a definition block, before the quoted name. -/
def openTag : Text := ['{', '%', ' ', 'd', 'e', 'f', 'i', 'n', 'e', ' ']

/-- What ends a definition block. -/
def closeTag : Text :=
  ['\n', '{', '%', ' ', 'e', 'n', 'd', 'd', 'e', 'f', 'i', 'n', 'e', ' ', '%', '}']

/-- A definition as a block of text. -/
def block (d : Definition) : Text :=
  openTag ++ Text.quote d.name ++ [' ', '%', '}', '\n'] ++ d.body ++ closeTag ++ ['\n']

/-- Definitions as text, in order. -/
def listing (definitions : List Definition) : Text := definitions.flatMap block

/-! ## Reading a listing -/

/-- Why a text is not a listing of definitions. -/
inductive Fault where
  /-- Text other than spaces outside of the blocks, at a byte offset. -/
  | stray (offset : Nat) (text : Text)
  /-- A quoted name that is no string literal, at a byte offset. -/
  | badName (quoted : Text) (offset : Nat)
  /-- A block without its end. -/
  | unclosed (name : Text)
deriving DecidableEq, Repr

/-- The wording of a fault.  Stray text is shown without the spaces around it and
at most forty characters long. -/
def Fault.message : Fault → Text
  | .stray offset text =>
    "text outside any definition at ".toList ++ Text.ofNat offset ++ [':', ' '] ++
      Text.display ((Text.trim text).take 40)
  | .badName quoted offset =>
    "bad definition name ".toList ++ quoted ++ " at ".toList ++ Text.ofNat offset
  | .unclosed name => "definition `".toList ++ name ++ "` is never closed".toList

/-- The report of a text that is not a listing. -/
def Fault.report (f : Fault) : Text :=
  "malformed intermediate representation: ".toList ++ f.message

/-- The inside of a quoted name up to its closing quote, which is included, and
the rest.  A backslash takes the next character with it, unless that ends the
line. -/
def nameEnd? : Text → Option (Text × Text)
  | [] => none
  | '"' :: rest => some (['"'], rest)
  | '\\' :: c :: rest =>
    if c = '\n' then none else (nameEnd? rest).map fun (a, b) => ('\\' :: c :: a, b)
  | '\\' :: [] => none
  | c :: rest => (nameEnd? rest).map fun (a, b) => (c :: a, b)

/-- Reads the tag that opens a definition block; the result is the name as it is
quoted. -/
def opening? (s : Text) : Option (Text × Text) := do
  let t ← Marker.keyword? [] ['d', 'e', 'f', 'i', 'n', 'e'] s
  let t ← Marker.spaces? t
  let inside ← Text.dropPrefix? ['"'] t
  let (quoted, t) ← nameEnd? inside
  let t ← Marker.tagEnd? [] t
  let rest ← Text.dropPrefix? ['\n'] t
  return ('"' :: quoted, rest)

theorem nameEnd?_length {s a b : Text} (h : nameEnd? s = some (a, b)) : b.length < s.length := by
  fun_induction nameEnd? s generalizing a with
  | case1 => cases h
  | case2 => cases h; simp
  | case3 => cases h
  | case4 c rest hc ih =>
    simp only [Option.map_eq_some_iff, Prod.exists, Prod.mk.injEq] at h
    obtain ⟨x, y, hxy, -, rfl⟩ := h
    have := ih hxy
    simp only [List.length_cons]
    omega
  | case5 => cases h
  | case6 c rest _ _ _ ih =>
    simp only [Option.map_eq_some_iff, Prod.exists, Prod.mk.injEq] at h
    obtain ⟨x, y, hxy, -, rfl⟩ := h
    have := ih hxy
    simp only [List.length_cons]
    omega

theorem opening?_consumes : Text.Consumes opening? := by
  intro s a rest h
  simp only [opening?, Option.bind_eq_bind, Option.bind_eq_some_iff, Option.pure_def,
    Option.some.injEq, Prod.exists, Prod.mk.injEq] at h
  obtain ⟨t, ht, u, hu, v, hv, q, w, hw, x, hx, r, hr, -, rfl⟩ := h
  have h₁ := Marker.keyword?_length ht
  have h₂ := Marker.spaces?_length hu
  have h₃ := Text.dropPrefix?_length hv
  have h₄ := nameEnd?_length hw
  have h₅ := Marker.tagEnd?_length hx
  have h₆ := Text.dropPrefix?_length hr
  omega

/-- Reads definitions off a text that starts at a byte offset of the listing. -/
def splitFrom (offset : Nat) (s : Text) : Except Fault (List Definition) :=
  match h : Text.find? opening? s with
  | none => if Text.isVoid s then .ok [] else .error (.stray offset s)
  | some (before, quoted, rest) =>
    if !Text.isVoid before then .error (.stray offset before)
    else
      match Text.unquote? quoted with
      | none => .error (.badName quoted (offset + Text.byteLength before))
      | some name =>
        match h' : Text.cut? closeTag rest with
        | none => .error (.unclosed name)
        | some (body, after) =>
          have : after.length < s.length := by
            have h₁ := Text.find?_length opening?_consumes h
            have h₂ := congrArg List.length (Text.cut?_eq_some h')
            simp only [List.length_append] at h₂
            omega
          (splitFrom (offset + Text.byteLength s - Text.byteLength after) after).map
            (⟨name, body⟩ :: ·)
termination_by s.length

/-- Reads a listing of definitions. -/
def split (s : Text) : Except Fault (List Definition) := splitFrom 0 s

end Definition

end Componentry
