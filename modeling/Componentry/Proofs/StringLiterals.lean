import Componentry.Proofs.Cursor.Tags
import Componentry.Proofs.Template.Code

/-! # String literals of generated code

A text that is put into generated code is quoted, and the source of a slot, which holds
the quoted name of a definition, is quoted once more.  Two readers with escape rules of
their own meet such code: the lexer, and the search for the end of a template block, over
the bytes of the text.  Code **stands for** tokens (`StandsFor`) if the lexer reads these
tokens and nothing else, and the search ends a block of the code at its delimiter,
whatever stands around it.

Quoted texts, identifiers and calls of such arguments are read alike by both readers
(`Readable`), so what generated code stands for is put together from its pieces.  The main
statement, `isLiteral_quote`, is about every text: quoted it is one string with the text as
its value, quoted twice it is one string with the quoted text as its value, and so the
entries that hand slots to a component stand for the labels and sources that they are
written from, and every source for the name of its definition.
-/
namespace Componentry

/-! ## Where blocks end -/

namespace Block

/-- The search for the end of a block that starts at `block` ends behind it, in every text
that holds it. -/
def EndsExactly (block : Text) : Prop :=
  ∀ before rest : Text,
    let text := before ++ block ++ rest
    let stop := Text.byteLength (before ++ block)
    Cursor.block? text.utf8 (Text.byteLength before) = some stop ∧
      endAt? text (Text.byteLength before) = some stop

theorem Closed.endsExactly {block : Text} (h : Closed block) : EndsExactly block := by
  intro before rest text stop
  have hat : Text.atByte? (Text.byteLength before) text = some (block ++ rest) := by
    rw [show text = before ++ (block ++ rest) from List.append_assoc ..]
    exact Text.atByte?_byteLength before (block ++ rest)
  have hstop : stop = Text.byteLength before + Text.byteLength block := Text.byteLength_append ..
  rw [hstop]
  refine ⟨(Cursor.block?_eq_some (Cursor.Reads.of_atByte? hat) (h rest)).1, ?_⟩
  simp [endAt?, hat, h rest]

end Block

namespace Template

/-! ## Code that both readers go through -/

/-- The lexer reads code as tokens that close all brackets they open, and the search for the
end of a block steps over it. -/
structure Readable (w : Text) (tokens : List Token) : Prop where
  lexes : Lexes w tokens
  balanced : (tokens.map Token.opens).sum = 0
  stepsOver : Block.StepsOver .expression w

theorem Readable.string (s : Text) : Readable (Text.quote s) [.string s] where
  lexes := .string s
  balanced := rfl
  stepsOver := Block.stepsOver_quote rfl s

theorem Readable.ident {x : Text} (h : isIdentifier x = true) : Readable x [.ident x] where
  lexes := .ident h
  balanced := rfl
  stepsOver := Block.stepsOver_identifier (isIdentifier_chars h)

/-- The tokens of a call. -/
def callTokens (f : Text) (arguments : List (List Token)) : List Token :=
  .ident f :: .symbol .openParen :: (joinTokens (.symbol .comma) arguments ++ [.symbol .closeParen])

/-- A call is read argument by argument. -/
theorem Readable.call {f : Text} (hf : isIdentifier f = true)
    {arguments : List (Text × List Token)} (h : ∀ a ∈ arguments, Readable a.1 a.2) :
    Readable (Props.call f (arguments.map Prod.fst)) (callTokens f (arguments.map Prod.snd)) where
  lexes := lexes_call hf (IsSeparator.comma.lexes_join fun a ha => (h a ha).lexes)
  balanced := by
    refine opens_call (IsSeparator.comma.opens_join fun tokens htokens => ?_) f
    obtain ⟨a, ha, rfl⟩ := List.mem_map.1 htokens
    exact (h a ha).balanced
  stepsOver := by
    refine .call (Block.stepsOver_identifier (isIdentifier_chars hf)) fun w hw => ?_
    obtain ⟨a, ha, rfl⟩ := List.mem_map.1 hw
    exact (h a ha).stepsOver

/-! ## Code that stands for tokens -/

/-- The code `w` is read as the given tokens by the lexer, which then goes on with what
stands behind it as if nothing had come before, and a block that holds only `w` ends at its
delimiter. -/
structure StandsFor (w : Text) (tokens : List Token) : Prop where
  /-- In both kinds of blocks, on every line, and between any number of open brackets. -/
  code : ∀ kind opened line rest,
    readCode kind opened line (w ++ rest) =
      let next := readCode kind opened line rest
      (tokens.map (⟨·, line⟩) ++ next.1, next.2)
  block : Block.EndsExactly (expressionBlock w)

/-- Code does not run into what stands behind it if its last character is none of an
identifier. -/
theorem Readable.standsFor {w : Text} {tokens : List Token} (h : Readable w tokens) {c : Char}
    (hlast : w.getLast? = some c) (hc : isIdentChar c = false) : StandsFor w tokens where
  code kind opened line rest := by
    -- The code closes its own brackets, so behind it as many are open as in front of it.
    rw [h.lexes kind opened line rest (.of_last hlast hc), h.balanced, Int.add_zero]
  block := (Block.closed_expressionBlock h.stepsOver).endsExactly

/-- The text `w` is one string literal with the given value: the lexer takes it as one token
and leaves exactly what stands behind it. -/
structure IsLiteral (w value : Text) : Prop extends StandsFor w [.string value] where
  token : ∃ inner, w = '"' :: inner ∧
    ∀ line rest, readToken line '"' (inner ++ rest) = .ok (.string value, rest)

theorem getLast?_quote (s : Text) : (Text.quote s).getLast? = some '"' := List.getLast?_concat

/-- **A quoted text is one string literal**, and its value is the text. -/
theorem IsLiteral.quote (s : Text) : IsLiteral (Text.quote s) s where
  toStandsFor := (Readable.string s).standsFor (getLast?_quote s) (by decide)
  token := by
    refine ⟨s.flatMap Text.quoteChar ++ ['"'], rfl, fun line rest => ?_⟩
    rw [List.append_assoc, List.singleton_append]
    exact readToken_quote line s rest

/-! ## Sources within sources -/

/-- What the entries for slots stand for, as arguments of one call: code and its tokens. -/
def slotArguments (slots : Slots) : List (Text × List Token) :=
  if slots.entries.isEmpty then []
  else
    (slots.entries.flatMap fun (label, unit) =>
      let source := deferredInvocation unit
      [(Text.quote label, [.string label]),
        (Props.call deferredName [Text.quote source], callTokens deferredName [[.string source]])]) ++
    [(Text.quote callerVar, [.string callerVar]), (Attribute.contextVar, [.ident Attribute.contextVar])]

theorem dictSource_propEntries (slots : Slots) :
    Props.dictSource slots.propEntries =
      Props.call Props.dictName ((slotArguments slots).map Prod.fst) := by
  rw [Props.dictSource, Slots.propEntries, slotArguments]
  split
  · rfl
  · simp [List.flatMap_map, List.map_flatMap]

theorem readable_slotArguments (slots : Slots) :
    ∀ a ∈ slotArguments slots, Readable a.1 a.2 := by
  intro a ha
  unfold slotArguments at ha
  split at ha
  · cases ha
  · simp only [List.mem_append, List.mem_flatMap, List.mem_cons, List.not_mem_nil, or_false] at ha
    rcases ha with ⟨⟨label, unit⟩, -, rfl | rfl⟩ | rfl | rfl
    · exact .string label
    · have hargument : ∀ a ∈ [(Text.quote (deferredInvocation unit),
          [Token.string (deferredInvocation unit)])], Readable a.1 a.2 := by
        simpa using Readable.string (deferredInvocation unit)
      exact .call (by decide) hargument
    · exact .string callerVar
    · exact .ident (by decide)

/-- The tokens of the call that a slot's source is. -/
def sourceTokens (unit : Text) : List Token :=
  callTokens invokeName [[.string unit], [.ident callerVar]]

theorem readable_source (unit : Text) :
    Readable (Props.call invokeName [Text.quote unit, callerVar]) (sourceTokens unit) := by
  have harguments : ∀ a ∈ [(Text.quote unit, [Token.string unit]),
      (callerVar, [Token.ident callerVar])], Readable a.1 a.2 := by
    simp only [List.forall_mem_cons]
    exact ⟨.string unit, .ident (by decide), by simp⟩
  exact .call (by decide) harguments

/-- The tokens of a template that is one expression block. -/
theorem lex_expressionBlock {w : Text} {tokens : List Token} (h : Readable w tokens) :
    (lex (expressionBlock w)).lexemes =
        (.expressionStart :: (tokens ++ [.expressionEnd])).map (⟨·, 1⟩) ∧
      (lex (expressionBlock w)).fault = none := by
  have hlast : ∀ c ∈ (expressionBlock w).getLast?, c ≠ '\n' ∧ c ≠ '\r' := by
    intro c hc
    rw [getLast?_expressionBlock] at hc
    cases hc
    decide
  have hnil : LexesTo 1 [] [] := lexFrom_data 1 List.not_mem_nil
  have hblock := hnil.expression h.lexes h.balanced
  rw [List.append_nil] at hblock
  rw [lex, dropFinalBreak_of_getLast hlast]
  simpa [LexesTo] using hblock

/-- **Quoted texts read back**, quoted once and quoted twice.  So the entries for `slots` stand
for their labels and sources, each one string, and the source for the definition `unit`,
which is a template of its own once it is read, is one block that names `unit`. -/
theorem isLiteral_quote (s : Text) (slots : Slots) (unit : Text) :
    IsLiteral (Text.quote s) s ∧ IsLiteral (Text.quote (Text.quote s)) (Text.quote s) ∧
      StandsFor (Props.dictSource slots.propEntries)
        (callTokens Props.dictName ((slotArguments slots).map Prod.snd)) ∧
      (lex (deferredInvocation unit)).lexemes =
        (.expressionStart :: (sourceTokens unit ++ [.expressionEnd])).map (⟨·, 1⟩) ∧
      (lex (deferredInvocation unit)).fault = none ∧
      Block.EndsExactly (deferredInvocation unit) := by
  have hsource := readable_source unit
  obtain ⟨hlex, hfault⟩ := lex_expressionBlock hsource
  -- A quoted text is a text, so quoting it once more is a case of quoting.
  refine ⟨.quote s, .quote (Text.quote s), ?_, hlex, hfault,
    (Block.closed_expressionBlock hsource.stepsOver).endsExactly⟩
  rw [dictSource_propEntries]
  exact (Readable.call (by decide) (readable_slotArguments slots)).standsFor
    List.getLast?_concat (by decide)

end Template

end Componentry
