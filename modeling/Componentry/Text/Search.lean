import Componentry.Text.Basic

/-!
# Searching for patterns

A **pattern** reads something off the start of a text and returns what it read
and the rest.  `find?` finds the first place of a text where a pattern applies;
`pieces` cuts a text at all places where it applies, from left to right.
-/

namespace Componentry.Text

/-- The first place where a pattern applies: the text before it, what the pattern
reads there, and the rest. -/
def find? {α : Type} (pattern : Text → Option (α × Text)) (s : Text) : Option (Text × α × Text) :=
  match pattern s with
  | some (a, rest) => some ([], a, rest)
  | none =>
    match s with
    | [] => none
    | c :: t => (find? pattern t).map fun (before, found) => (c :: before, found)

/-- A piece of a text that has been cut by a pattern. -/
inductive Piece (α : Type) where
  /-- Text between the places where the pattern applies. -/
  | gap (text : Text)
  /-- What the pattern read. -/
  | hit (found : α)
deriving DecidableEq, Repr

/-- A pattern that applies reads at least one character. -/
def Consumes {α : Type} (pattern : Text → Option (α × Text)) : Prop :=
  ∀ s a rest, pattern s = some (a, rest) → rest.length < s.length

theorem find?_length {α : Type} {pattern : Text → Option (α × Text)} (hp : Consumes pattern)
    {s before rest : Text} {a : α} (h : find? pattern s = some (before, a, rest)) :
    rest.length < s.length := by
  fun_induction find? pattern s generalizing before with
  | case1 s b r hb =>
    cases h
    exact hp _ _ _ hb
  | case2 => cases h
  | case3 c t _ ih =>
    simp only [Option.map_eq_some_iff, Prod.exists, Prod.mk.injEq] at h
    obtain ⟨b, x, y, hf, -, rfl, rfl⟩ := h
    have := ih hf
    simp only [List.length_cons]
    omega

/-- A text cut at every place where a pattern applies; each hit is looked for
behind the one before it. -/
def pieces {α : Type} (pattern : Text → Option (α × Text)) (hp : Consumes pattern) (s : Text) :
    List (Piece α) :=
  match h : find? pattern s with
  | none => [.gap s]
  | some (before, a, rest) =>
    have : rest.length < s.length := find?_length hp h
    .gap before :: .hit a :: pieces pattern hp rest
termination_by s.length

/-- The hits among the pieces of a text. -/
def Piece.hit? {α : Type} : Piece α → Option α
  | gap _ => none
  | hit a => some a

/-- The gaps among the pieces of a text. -/
def Piece.gap? {α : Type} : Piece α → Option Text
  | gap s => some s
  | hit _ => none

end Componentry.Text
