import Componentry.Text.Basic

/-!
# Regular expressions

The part of the syntax of regular expressions that patterns for file names are
written in: an expression is anchored at both ends, and holds characters, dots and
stars in between.  A character that has a meaning in expressions stands for itself
behind a backslash; a dot takes any character but a line feed.

A text is read from left to right, together with all that may be left of the
expression so far; `Regex.accepts` asks whether nothing may be left at the end.
-/

namespace Componentry

namespace Regex

/-- The characters that a backslash may stand in front of. -/
def punctuation : List Char :=
  ['\\', '.', '+', '*', '?', '(', ')', '|', '[', ']', '{', '}', '^', '$', '#', '&', '-', '~']

/-- The characters that mean something else than themselves, dot, star and the
anchors apart. -/
def operators : List Char := ['\\', '+', '?', '(', ')', '|', '[', '{']

/-- A text as an expression that takes it and nothing else. -/
def escape (s : Text) : Text := s.flatMap fun c => if c ∈ punctuation then ['\\', c] else [c]

/-- A symbol of an expression. -/
inductive Symbol where
  | start
  | finish
  | char (c : Char)
  | dot
  | star
deriving DecidableEq, Repr

/-- The symbols of an expression. -/
def symbols? : Text → Option (List Symbol)
  | [] => some []
  | '\\' :: c :: s => if c ∈ punctuation then (symbols? s).map (.char c :: ·) else none
  | '^' :: s => (symbols? s).map (.start :: ·)
  | '$' :: s => (symbols? s).map (.finish :: ·)
  | '.' :: s => (symbols? s).map (.dot :: ·)
  | '*' :: s => (symbols? s).map (.star :: ·)
  | c :: s => if c ∈ operators then none else (symbols? s).map (.char c :: ·)

/-- What takes one character. -/
inductive Atom where
  | char (c : Char)
  | dot
deriving DecidableEq, Repr

/-- A part of an expression: it takes one character, or with a star any number of
them. -/
structure Part where
  atom : Atom
  starred : Bool
deriving DecidableEq, Repr

/-- The parts that symbols stand for up to the end of an expression. -/
def parts? : List Symbol → Option (List Part)
  | [.finish] => some []
  | .char c :: .star :: more => (parts? more).map (⟨.char c, true⟩ :: ·)
  | .char c :: more => (parts? more).map (⟨.char c, false⟩ :: ·)
  | .dot :: .star :: more => (parts? more).map (⟨.dot, true⟩ :: ·)
  | .dot :: more => (parts? more).map (⟨.dot, false⟩ :: ·)
  | _ => none

end Regex

/-- A regular expression that takes whole texts. -/
structure Regex where
  parts : List Regex.Part
deriving DecidableEq, Repr

namespace Regex

/-- Reads an expression, however long it is: there is no limit of the size of what is
compiled, which only expressions of tens of thousands of characters would reach.  So no
expression that a pattern is translated to is ever refused. -/
def parse? (s : Text) : Option Regex :=
  match symbols? s with
  | some (.start :: more) => (parts? more).map Regex.mk
  | _ => none

/-- Whether an atom takes a character. -/
def Atom.takes : Atom → Char → Bool
  | .char d, c => d = c
  | .dot, c => c != '\n'

/-- What may be left of an expression before the next character is read: parts with
a star in front may end there. -/
def openings : List Part → List (List Part)
  | [] => [[]]
  | p :: more => if p.starred then (p :: more) :: openings more else [p :: more]

/-- What is left of an expression when its first part takes `c`. -/
def take? (c : Char) : List Part → Option (List Part)
  | [] => none
  | p :: more =>
    if p.atom.takes c then some (if p.starred then p :: more else more) else none

/-- What may be left of an expression after one more character. -/
def step (rests : List (List Part)) (c : Char) : List (List Part) :=
  ((rests.filterMap (take? c)).flatMap openings).eraseDups

/-- What may be left of an expression after a text. -/
def rests (r : Regex) (text : Text) : List (List Part) := text.foldl step (openings r.parts)

/-- Whether an expression accepts a text. -/
def accepts (r : Regex) (text : Text) : Bool := (r.rests text).contains []

theorem mem_step {rests : List (List Part)} {c : Char} {p : List Part} :
    p ∈ step rests c ↔ ∃ q ∈ rests, ∃ r, take? c q = some r ∧ p ∈ openings r := by
  simp only [step, List.mem_eraseDups, List.mem_flatMap, List.mem_filterMap]
  constructor
  · rintro ⟨r, ⟨q, hq, hr⟩, hp⟩
    exact ⟨q, hq, r, hr, hp⟩
  · rintro ⟨q, hq, r, hr, hp⟩
    exact ⟨r, ⟨q, hq, hr⟩, hp⟩

theorem accepts_iff {r : Regex} {text : Text} : r.accepts text = true ↔ [] ∈ r.rests text := by
  simp [accepts]

end Regex

end Componentry
