import Componentry.Text.Search
import Componentry.Text.Letter

/-!
# Marker tags

Sources carry a few statement tags that are this library's own and never reach
the template parser: `{% component Name %}` … `{% endcomponent %}` delimit
definition blocks, `{% slot %}` and `{% slot name="…" %}` … `{% endslot %}` place
slots.  The patterns here read such a tag off the start of a text.  Spaces inside
a tag may be any Unicode spaces, and a dash may stand next to a percent sign; the
tag that ends a raw block, `{% endraw %}`, also takes a plus there.
-/

namespace Componentry.Marker

/-- Drops one leading character if it is among `marks`. -/
def dropMark (marks : List Char) : Text → Text
  | [] => []
  | c :: s => if marks.contains c then s else c :: s

/-- Reads the start of a tag up to and including its keyword. -/
def keyword? (marks : List Char) (word s : Text) : Option Text :=
  match s with
  | '{' :: '%' :: t => Text.dropPrefix? word (Text.trimStart (dropMark marks t))
  | _ => none

/-- Reads the end of a tag. -/
def tagEnd? (marks : List Char) (s : Text) : Option Text :=
  Text.dropPrefix? ['%', '}'] (dropMark marks (Text.trimStart s))

/-- Reads a tag that holds nothing but its keyword. -/
def bare? (marks : List Char) (word s : Text) : Option (Unit × Text) := do
  let t ← keyword? marks word s
  let rest ← tagEnd? marks t
  return ((), rest)

/-- Reads one space or more. -/
def spaces? : Text → Option Text
  | [] => none
  | c :: s => if Text.isSpace c then some (Text.trimStart s) else none

/-- Reads a text in the given quotes. -/
def quoted? (quote : Char) : Text → Option (Text × Text)
  | [] => none
  | c :: s =>
    if c = quote then
      match s.dropWhile (· != quote) with
      | [] => none
      | _ :: rest => some (s.takeWhile (· != quote), rest)
    else none

/-- Where a dash controls white space. -/
def dash : List Char := ['-']

/-- Where a dash or a plus controls white space. -/
def dashOrPlus : List Char := ['-', '+']

/-! ## Component blocks -/

/-- The name that a component block declares: a letter or an underscore, then
word characters, dots and dashes. -/
def declaredName? : Text → Option (Text × Text)
  | [] => none
  | c :: s =>
    if Text.isLetter c || c = '_' then
      let inName c := Text.isWord c || c = '.' || c = '-'
      some (c :: s.takeWhile inName, s.dropWhile inName)
    else none

/-- Reads the tag that opens a component block; the result is its name. -/
def component? (s : Text) : Option (Text × Text) := do
  let t ← keyword? dash ['c', 'o', 'm', 'p', 'o', 'n', 'e', 'n', 't'] s
  let t ← spaces? t
  let (name, t) ← declaredName? t
  let rest ← tagEnd? dash t
  return (name, rest)

/-- Reads the tag that closes a component block. -/
def endComponent? (s : Text) : Option (Unit × Text) :=
  bare? dash ['e', 'n', 'd', 'c', 'o', 'm', 'p', 'o', 'n', 'e', 'n', 't'] s

/-- Reads a whole component block: its name and its body, which reaches to the
first closing tag. -/
def componentBlock? (s : Text) : Option ((Text × Text) × Text) := do
  let (name, t) ← component? s
  let (body, _, rest) ← Text.find? endComponent? t
  return ((name, body), rest)

/-! ## Slot markers -/

/-- Reads the name part of a slot marker. -/
def slotName? (s : Text) : Option (Text × Text) := do
  let t ← spaces? s
  let t ← Text.dropPrefix? ['n', 'a', 'm', 'e'] t
  let t ← Text.dropPrefix? ['='] (Text.trimStart t)
  let t := Text.trimStart t
  (quoted? '"' t).orElse fun _ => quoted? '\'' t

/-- Reads a slot marker; the result is its name, if it has one. -/
def slot? (s : Text) : Option (Option Text × Text) := do
  let t ← keyword? dash ['s', 'l', 'o', 't'] s
  match slotName? t with
  | some (name, t) =>
    let rest ← tagEnd? dash t
    return (some name, rest)
  | none =>
    let rest ← tagEnd? dash t
    return (none, rest)

/-- Reads the tag that ends a slot's fallback. -/
def endSlot? (s : Text) : Option (Unit × Text) :=
  bare? dash ['e', 'n', 'd', 's', 'l', 'o', 't'] s

/-! ## Raw blocks -/

/-- Reads a tag that ends a raw block; the result is the tag's own text. -/
def endRaw? (s : Text) : Option (Text × Text) := do
  let (_, rest) ← bare? dashOrPlus ['e', 'n', 'd', 'r', 'a', 'w'] s
  return (s.take (s.length - rest.length), rest)

/-! ## Every tag is read -/

theorem trimStart_length (s : Text) : (Text.trimStart s).length ≤ s.length :=
  Text.dropWhile_length_le Text.isSpace s

theorem dropMark_length (marks : List Char) (s : Text) : (dropMark marks s).length ≤ s.length := by
  unfold dropMark
  split
  · simp
  · split <;> simp

theorem keyword?_length {marks : List Char} {word s rest : Text}
    (h : keyword? marks word s = some rest) : rest.length + 2 ≤ s.length := by
  unfold keyword? at h
  split at h
  · rename_i t
    have h₁ := Text.dropPrefix?_length h
    have h₂ := trimStart_length (dropMark marks t)
    have h₃ := dropMark_length marks t
    simp only [List.length_cons]
    omega
  · cases h

theorem tagEnd?_length {marks : List Char} {s rest : Text} (h : tagEnd? marks s = some rest) :
    rest.length + 2 ≤ s.length := by
  unfold tagEnd? at h
  have h₁ := Text.dropPrefix?_length h
  have h₂ := trimStart_length s
  have h₃ := dropMark_length marks (Text.trimStart s)
  simp only [List.length_cons, List.length_nil] at h₁
  omega

theorem bare?_length {marks : List Char} {word s rest : Text} {u : Unit}
    (h : bare? marks word s = some (u, rest)) : rest.length + 4 ≤ s.length := by
  simp only [bare?, Option.bind_eq_bind, Option.bind_eq_some_iff, Option.pure_def,
    Option.some.injEq, Prod.mk.injEq] at h
  obtain ⟨t, ht, r, hr, -, rfl⟩ := h
  have h₁ := keyword?_length ht
  have h₂ := tagEnd?_length hr
  omega

theorem spaces?_length {s rest : Text} (h : spaces? s = some rest) : rest.length < s.length := by
  unfold spaces? at h
  split at h
  · cases h
  · rename_i c t
    split at h
    · cases h
      have := trimStart_length t
      simp only [List.length_cons]
      omega
    · cases h

theorem quoted?_length {quote : Char} {s value rest : Text}
    (h : quoted? quote s = some (value, rest)) : rest.length < s.length := by
  unfold quoted? at h
  split at h
  · cases h
  · rename_i c t
    split at h
    · split at h
      · cases h
      · rename_i d r hd
        cases h
        have := (List.dropWhile_sublist (· != quote) (l := t)).length_le
        rw [hd, List.length_cons] at this
        simp only [List.length_cons]
        omega
    · cases h

theorem declaredName?_length {s name rest : Text} (h : declaredName? s = some (name, rest)) :
    rest.length < s.length := by
  unfold declaredName? at h
  split at h
  · cases h
  · rename_i c t
    split at h
    · cases h
      have := (List.dropWhile_sublist (fun c => Text.isWord c || c = '.' || c = '-') (l := t)).length_le
      simp only [List.length_cons]
      omega
    · cases h

theorem component?_length {s name rest : Text} (h : component? s = some (name, rest)) :
    rest.length < s.length := by
  simp only [component?, Option.bind_eq_bind, Option.bind_eq_some_iff, Option.pure_def,
    Option.some.injEq, Prod.exists, Prod.mk.injEq] at h
  obtain ⟨t, ht, u, hu, n, v, hv, r, hr, -, rfl⟩ := h
  have h₁ := keyword?_length ht
  have h₂ := spaces?_length hu
  have h₃ := declaredName?_length hv
  have h₄ := tagEnd?_length hr
  omega

theorem endComponent?_consumes : Text.Consumes endComponent? := by
  intro s a rest h
  have := bare?_length h
  omega

theorem componentBlock?_consumes : Text.Consumes componentBlock? := by
  intro s a rest h
  simp only [componentBlock?, Option.bind_eq_bind, Option.bind_eq_some_iff, Option.pure_def,
    Option.some.injEq, Prod.exists, Prod.mk.injEq] at h
  obtain ⟨name, t, ht, body, u, r, hr, -, rfl⟩ := h
  have h₁ := component?_length ht
  have h₂ := Text.find?_length endComponent?_consumes hr
  omega

theorem endSlot?_consumes : Text.Consumes endSlot? := by
  intro s a rest h
  have := bare?_length h
  omega

theorem endRaw?_consumes : Text.Consumes endRaw? := by
  intro s a rest h
  simp only [endRaw?, Option.bind_eq_bind, Option.bind_eq_some_iff, Option.pure_def,
    Option.some.injEq, Prod.exists, Prod.mk.injEq] at h
  obtain ⟨u, r, hr, -, rfl⟩ := h
  have := bare?_length hr
  omega

theorem slotName?_length {s name rest : Text} (h : slotName? s = some (name, rest)) :
    rest.length < s.length := by
  simp only [slotName?, Option.bind_eq_bind, Option.bind_eq_some_iff,
    Option.orElse_eq_or, Option.or_eq_some_iff] at h
  obtain ⟨t, ht, u, hu, v, hv, hq⟩ := h
  have h₁ := spaces?_length ht
  have h₂ := Text.dropPrefix?_length hu
  have h₃ := Text.dropPrefix?_length hv
  have h₄ := trimStart_length u
  have h₅ := trimStart_length v
  rcases hq with hq | ⟨-, hq⟩ <;>
    · have h₆ := quoted?_length hq
      omega

theorem slot?_consumes : Text.Consumes slot? := by
  intro s a rest h
  simp only [slot?, Option.bind_eq_bind, Option.bind_eq_some_iff] at h
  obtain ⟨t, ht, h⟩ := h
  have h₁ := keyword?_length ht
  split at h
  · rename_i name u hu
    simp only [Option.bind_eq_some_iff, Option.pure_def, Option.some.injEq, Prod.mk.injEq] at h
    obtain ⟨r, hr, -, rfl⟩ := h
    have h₂ := slotName?_length hu
    have h₃ := tagEnd?_length hr
    omega
  · simp only [Option.bind_eq_some_iff, Option.pure_def, Option.some.injEq, Prod.mk.injEq] at h
    obtain ⟨r, hr, -, rfl⟩ := h
    have h₂ := tagEnd?_length hr
    omega

end Componentry.Marker
