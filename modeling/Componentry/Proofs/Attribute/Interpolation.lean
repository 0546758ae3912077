import Componentry.Proofs.Markup.Attributes
import Componentry.Proofs.Template.Paths

/-! # The value of an attribute's text

The text of an attribute may hold paths between `{{` and `}}`, with literals between them
(`Interpolation`).  Its source is read back by the template parser, whatever the literals
are, and evaluates to the literals with the texts of the paths' values between them
(`Interpolation.gives_source`); a text that is one path alone keeps the path's value.
-/
namespace Componentry

open Template Template.Parser

namespace Text

/-! ## Cutting at a double mark -/

/-- A mark of one character twice: a text is cut off as a whole if it neither holds the
mark nor ends in the character. -/
theorem cut?_double {c : Char} {s : Text} (h : ¬ [c, c] <:+: s) (hlast : s.getLast? ≠ some c)
    (rest : Text) : cut? [c, c] (s ++ c :: c :: rest) = some (s, rest) := by
  induction s with
  | nil => simp [cut?, dropPrefix?]
  | cons d s ih =>
    have hnone : dropPrefix? [c, c] (d :: s ++ c :: c :: rest) = none := by
      cases hdrop : dropPrefix? [c, c] (d :: s ++ c :: c :: rest) with
      | none => rfl
      | some r =>
        have heq := dropPrefix?_eq_some.1 hdrop
        obtain ⟨rfl, htail⟩ := List.cons.inj heq
        cases s with
        | nil => exact absurd rfl hlast
        | cons e s =>
          obtain ⟨rfl, -⟩ := List.cons.inj htail
          exact absurd (List.IsPrefix.isInfix ⟨s, rfl⟩) h
    have hmark : ¬ [c, c] <:+: s := fun hs => h (List.infix_cons hs)
    have hend : s.getLast? ≠ some c := by
      cases s with
      | nil => simp
      | cons e s => rwa [List.getLast?_cons_cons] at hlast
    rw [List.cons_append, cut?, ← List.cons_append, hnone, ih hmark hend]
    rfl

/-- Spaces around a text without spaces are trimmed. -/
theorem trim_padded {s : Text} (h : ∀ c ∈ s, isSpace c = false) :
    trim (' ' :: (s ++ [' '])) = s := by
  have hend : trimEnd (s ++ [' ']) = trimEnd s := by
    rw [trimEnd, trimEnd, List.reverse_append, List.reverse_singleton, List.singleton_append,
      List.dropWhile_cons_of_pos (by decide)]
  rw [trim, trimStart, List.dropWhile_cons_of_pos (by decide)]
  cases s with
  | nil => rfl
  | cons c s =>
    rw [List.cons_append, List.dropWhile_cons_of_neg (by simp [h c (by simp)]), ← List.cons_append,
      hend, trimEnd_eq_self h]

end Text

theorem Template.MemberPath.isSpace_source (p : MemberPath) :
    ∀ c ∈ p.source, Text.isSpace c = false := by
  intro c hc
  rcases p.source_chars hc with h | rfl
  · exact Text.isSpace_of_isIdentChar h
  · rfl

theorem Template.MemberPath.brace_notMem_source (p : MemberPath) : '}' ∉ p.source := by
  intro hmem
  rcases p.source_chars hmem with h | h
  · exact absurd h (by decide)
  · exact absurd h (by decide)

/-! ## Texts with holes -/

/-- A text with paths between literals: a literal, and paths with the literal behind each. -/
structure Interpolation where
  first : Text
  holes : List (MemberPath × Text)

namespace Interpolation

/-- The text itself. -/
def text (t : Interpolation) : Text :=
  t.first ++ t.holes.flatMap fun h => expressionBlock h.1.source ++ h.2

/-- A literal stands for itself: no hole starts in it, also with the hole behind it. -/
def IsLiteral (s : Text) : Prop := ¬ ['{', '{'] <:+: s ∧ s.getLast? ≠ some '{'

/-- All literals stand for themselves. -/
def IsPlain (t : Interpolation) : Prop :=
  IsLiteral t.first ∧ ∀ h ∈ t.holes, IsLiteral h.2

instance (s : Text) : Decidable (IsLiteral s) := inferInstanceAs (Decidable (_ ∧ _))

instance (t : Interpolation) : Decidable t.IsPlain := inferInstanceAs (Decidable (_ ∧ _))

/-- What the text stands for, where paths have the given values. -/
def value (values : MemberPath → Value) (t : Interpolation) : Value :=
  match t with
  | ⟨[], [(p, [])]⟩ => values p
  | ⟨first, holes⟩ => .ofText (first ++ holes.flatMap fun h => (values h.1).text ++ h.2)

/-! ## Pieces -/

/-- A piece of a text with holes. -/
inductive Part where
  | plain (s : Text)
  | hole (p : MemberPath)

namespace Part

def piece : Part → AttributeValue.Piece
  | plain s => .plain s
  | hole p => .hole p.source

def expr (line : Nat) : Part → Expr
  | plain s => .const (.string s) line
  | hole p => p.expr line

def value (values : MemberPath → Value) : Part → Value
  | plain s => .ofText s
  | hole p => values p

theorem term (part : Part) (line n : Nat) :
    Term line (n + 3) part.piece.source (part.expr line) := by
  cases part with
  | plain s => exact .string line (n + 2) s
  | hole p => exact .group (p.term line n).operand.code

theorem gives {host : Host} {scope : Scope} {mem : Memory} {values : MemberPath → Value} {part : Part}
    (h : ∀ p, part = hole p → p.value host.data scope mem = .ok (values p)) (line : Nat) :
    ((part.expr line).eval host scope).GivesIn mem (part.value values) := by
  cases part with
  | plain s => exact .pure _
  | hole p => exact p.gives (h p rfl) line

end Part

/-- A literal that is not empty is a piece. -/
def plainParts (s : Text) : List Part := if s.isEmpty then [] else [.plain s]

/-- The pieces of a text with holes. -/
def parts (t : Interpolation) : List Part :=
  plainParts t.first ++ t.holes.flatMap fun h => .hole h.1 :: plainParts h.2

theorem holeSource_padded (p : MemberPath) :
    AttributeValue.holeSource (' ' :: (p.source ++ [' '])) = p.source := by
  have hdash : (' ' :: (p.source ++ [' '])).reverse = ' ' :: (' ' :: p.source).reverse := by simp
  rw [AttributeValue.holeSource]
  · simp only [hdash]
    exact Text.trim_padded p.isSpace_source
  · rintro rest ⟨⟩

theorem pieces_cut {s before after inner rest : Text}
    (h : Text.cut? ['{', '{'] s = some (before, after))
    (h' : Text.cut? ['}', '}'] after = some (inner, rest)) :
    AttributeValue.pieces s = (plainParts before).map Part.piece ++
      .hole (AttributeValue.holeSource inner) :: AttributeValue.pieces rest := by
  rw [AttributeValue.pieces]
  split
  · rename_i hnone
    rw [h] at hnone
    cases hnone
  · rename_i hopen
    rw [h] at hopen
    cases hopen
    split
    · rename_i hnone
      rw [h'] at hnone
      cases hnone
    · rename_i hclose
      rw [h'] at hclose
      cases hclose
      cases before <;> rfl

/-- The first hole is found behind the literal in front of it, and its end behind its path. -/
theorem cut?_text {first : Text} (hfirst : IsLiteral first) (p : MemberPath) (rest : Text) :
    Text.cut? ['{', '{'] (first ++ (expressionBlock p.source ++ rest)) =
        some (first, ' ' :: (p.source ++ [' ']) ++ '}' :: '}' :: rest) ∧
      Text.cut? ['}', '}'] (' ' :: (p.source ++ [' ']) ++ '}' :: '}' :: rest) =
        some (' ' :: (p.source ++ [' ']), rest) := by
  constructor
  · have hform : first ++ (expressionBlock p.source ++ rest) =
        first ++ '{' :: '{' :: (' ' :: (p.source ++ [' ']) ++ '}' :: '}' :: rest) := by
      simp [expressionBlock]
    rw [hform]
    exact Text.cut?_double hfirst.1 hfirst.2 _
  · have hbrace : '}' ∉ ' ' :: (p.source ++ [' ']) := by
      simpa using p.brace_notMem_source
    refine Text.cut?_double ?_ ?_ rest
    · exact fun h => hbrace (h.subset (by simp))
    · exact fun h => hbrace (List.mem_of_getLast? h)

/-- **The pieces of a text with holes** are its literals, unless they are empty, and its
holes. -/
theorem pieces_text {first : Text} {holes : List (MemberPath × Text)}
    (h : IsPlain ⟨first, holes⟩) :
    AttributeValue.pieces (text ⟨first, holes⟩) = (parts ⟨first, holes⟩).map Part.piece := by
  induction holes generalizing first with
  | nil =>
    have hplain := AttributeValue.pieces_plain h.1.1
    simp only [text, parts, List.flatMap_nil, List.append_nil, hplain, plainParts]
    cases first <;> rfl
  | cons hole holes ih =>
    obtain ⟨p, s⟩ := hole
    obtain ⟨hfirst, hholes⟩ := h
    rw [List.forall_mem_cons] at hholes
    have hrest := ih ⟨hholes.1, hholes.2⟩
    obtain ⟨hopen, hclose⟩ := cut?_text hfirst p (text ⟨s, holes⟩)
    have htext : text ⟨first, (p, s) :: holes⟩ =
        first ++ (expressionBlock p.source ++ text ⟨s, holes⟩) := by
      simp [text]
    rw [htext, pieces_cut hopen hclose, holeSource_padded, hrest]
    simp [parts, Part.piece]

/-! ## Reading back -/

/-- The expression that pieces are read as. -/
def partsExpr (line : Nat) : List Part → Expr
  | [] => .const (.string []) line
  | first :: more => rowExpr line (first.expr line) (more.map (Part.expr line))

/-- **The source of a text with holes is read as its pieces in a row.** -/
theorem code_source {t : Interpolation} (h : t.IsPlain) (line n : Nat) :
    Code line (n + 5) (AttributeValue.textSource t.text) (partsExpr line t.parts) := by
  rw [AttributeValue.textSource, pieces_text h]
  cases t.parts with
  | nil => exact (Operand.string line (n + 4) []).code
  | cons first more =>
    cases more with
    | nil =>
      have hfirst : Code line (n + 5) first.piece.source (first.expr line) :=
        (first.term line (n + 2)).operand.code
      exact hfirst
    | cons second more =>
      have hterms : ∀ term ∈ (first :: second :: more).map fun part =>
          (part.piece.source, part.expr line), Term line (n + 3) term.1 term.2 := by
        intro term hterm
        obtain ⟨part, -, rfl⟩ := List.mem_map.1 hterm
        exact part.term line n
      have hrow := Operand.row hterms
      have hgroup := (Operand.group hrow.code).code
      simpa [partsExpr, Function.comp_def] using hgroup

/-- The value of pieces in a row. -/
def partsValue (values : MemberPath → Value) : List Part → Value
  | [part] => part.value values
  | parts => .ofText (parts.flatMap fun part => (part.value values).text)

theorem gives_parts {host : Host} {scope : Scope} {mem : Memory} {values : MemberPath → Value}
    {parts : List Part}
    (h : ∀ p, Part.hole p ∈ parts → p.value host.data scope mem = .ok (values p)) (line : Nat) :
    ((partsExpr line parts).eval host scope).GivesIn mem (partsValue values parts) := by
  cases parts with
  | nil => exact .pure _
  | cons first more =>
    have hgives : ∀ part ∈ first :: more,
        ((part.expr line).eval host scope).GivesIn mem (part.value values) := by
      intro part hpart
      exact part.gives (fun p hp => h p (hp ▸ hpart)) line
    rw [List.forall_mem_cons] at hgives
    cases more with
    | nil => exact hgives.1
    | cons second more =>
      have hmore : ∀ e ∈ (second :: more).map fun part => (part.expr line, part.value values),
          (e.1.eval host scope).GivesIn mem e.2 := by
        intro e he
        obtain ⟨part, hpart, rfl⟩ := List.mem_map.1 he
        exact hgives.2 part hpart
      have hrow := gives_row hmore (by simp) line hgives.1
      simpa [partsExpr, partsValue, Function.comp_def, List.flatMap_map] using hrow

theorem partsValue_of_ne {values : MemberPath → Value} {parts : List Part}
    (h : ∀ p, parts ≠ [.hole p]) :
    partsValue values parts = .ofText (parts.flatMap fun part => (part.value values).text) := by
  cases parts with
  | nil => rfl
  | cons first more =>
    cases more with
    | nil =>
      cases first with
      | plain s =>
        rw [List.flatMap_cons, List.flatMap_nil, List.append_nil]
        rfl
      | hole p => exact absurd rfl (h p)
    | cons second more => rfl

theorem parts_eq_hole {t : Interpolation} {p : MemberPath} (h : t.parts = [.hole p]) :
    t = ⟨[], [(p, [])]⟩ := by
  obtain ⟨first, holes⟩ := t
  cases first with
  | cons c first => simp [parts, plainParts] at h
  | nil =>
    cases holes with
    | nil => simp [parts, plainParts] at h
    | cons hole holes =>
      obtain ⟨q, s⟩ := hole
      cases s with
      | cons c s => simp [parts, plainParts] at h
      | nil =>
        cases holes with
        | cons next holes => simp [parts, plainParts] at h
        | nil =>
          simp only [parts, plainParts, List.isEmpty_nil, if_true, List.flatMap_cons,
            List.flatMap_nil, List.append_nil, List.nil_append, List.cons.injEq, Part.hole.injEq,
            and_true] at h
          rw [h]

theorem texts_plainParts (values : MemberPath → Value) (s : Text) :
    ((plainParts s).flatMap fun part => (part.value values).text) = s := by
  cases s with
  | nil => rfl
  | cons c s =>
    rw [plainParts, if_neg (by simp), List.flatMap_cons, List.flatMap_nil, List.append_nil]
    rfl

theorem texts_parts (values : MemberPath → Value) (t : Interpolation) :
    (t.parts.flatMap fun part => (part.value values).text) =
      t.first ++ t.holes.flatMap fun h => (values h.1).text ++ h.2 := by
  have hhole : ∀ h : MemberPath × Text,
      ((Part.hole h.1 :: plainParts h.2).flatMap fun part => (part.value values).text) =
        (values h.1).text ++ h.2 := by
    intro h
    rw [List.flatMap_cons, texts_plainParts]
    rfl
  rw [parts, List.flatMap_append, texts_plainParts, List.flatMap_assoc]
  simp only [hhole]

/-- The value of the pieces is what the text stands for. -/
theorem partsValue_parts (values : MemberPath → Value) (t : Interpolation) :
    partsValue values t.parts = t.value values := by
  by_cases h : ∃ p, t.parts = [.hole p]
  · obtain ⟨p, hp⟩ := h
    rw [parts_eq_hole hp]
    rfl
  · rw [partsValue_of_ne fun p hp => h ⟨p, hp⟩, texts_parts]
    unfold value
    split
    · exact absurd ⟨_, rfl⟩ h
    · rfl

theorem mem_holes {t : Interpolation} {p : MemberPath} (h : Part.hole p ∈ t.parts) :
    ∃ s, (p, s) ∈ t.holes := by
  have hplain : ∀ s, Part.hole p ∉ plainParts s := by
    intro s
    cases s <;> simp [plainParts]
  rcases List.mem_append.1 h with h | h
  · exact absurd h (hplain _)
  · obtain ⟨hole, hmem, h⟩ := List.mem_flatMap.1 h
    rcases List.mem_cons.1 h with h | h
    · cases h
      exact ⟨hole.2, hmem⟩
    · exact absurd h (hplain _)

/-- **The text of an attribute evaluates to what it stands for.**  Its source is read by the
template parser, and evaluates to the literals with the texts of the paths' values between
them; a text that is one path alone evaluates to the value of the path. -/
theorem exists_parse_gives (t : Interpolation) (h : t.IsPlain) :
    ∃ e, parse (expressionBlock (AttributeValue.text t.text).source) = .ok [.emit e] ∧
      ∀ (host : Host) (scope : Scope) (mem : Memory) (values : MemberPath → Value),
        (∀ hole ∈ t.holes, hole.1.value host.data scope mem = .ok (values hole.1)) →
          (e.eval host scope).GivesIn mem (t.value values) := by
  refine ⟨_, parse_expressionBlock (code_source h 1 144), ?_⟩
  intro host scope mem values hvalues
  rw [← partsValue_parts]
  refine gives_parts (fun p hp => ?_) 1
  obtain ⟨s, hs⟩ := mem_holes hp
  exact hvalues (p, s) hs

/-- The name of a user. -/
def userName : MemberPath where
  root := "user".toList
  members := ["name".toList]
  isIdentifier_root := by decide
  constant?_root := by decide
  root_ne_not := by decide
  isIdentifier_members := by decide

/-- A text with quotes and a closing delimiter around a hole. -/
def greeting : Interpolation := ⟨"Hi \"".toList, [(userName, "\" \x7d\x7d".toList)]⟩

theorem exists_parse_gives_greeting :
    greeting.IsPlain ∧
      ∃ e, parse (expressionBlock
          (AttributeValue.text "Hi \"\x7b\x7b user.name \x7d\x7d\" \x7d\x7d".toList).source) =
            .ok [.emit e] ∧
        ∀ library invoker, (e.eval (.of library invoker (.ofNamed
            [("user".toList, .ofNamed [("name".toList, .ofText "Ann".toList)])]) 0)
            (.start "page".toList [])).Gives
          (.ofText "Hi \"Ann\" \x7d\x7d".toList) := by
  have hplain : greeting.IsPlain := by decide
  obtain ⟨e, hparse, hgives⟩ := exists_parse_gives greeting hplain
  refine ⟨hplain, e, hparse, fun library invoker => ?_⟩
  refine hgives _ _ _ (fun _ => .ofText "Ann".toList) ?_
  intro hole hmem
  rw [List.mem_singleton.1 hmem]
  rfl

end Interpolation

end Componentry
