import Componentry.Proofs.Markup.Expansion

/-! # A tag that closes itself is an element without contents

The two forms of an empty invocation take different ways.  `<Card …/>` is written as
an invocation by the first pass, and the second pass reads that code again.
`<Card …></Card>` is left to the second pass.  Both come to the same text
(`Expansion.ofText_emptyElement`).

For the first form the invocation must be opaque to the second pass, whatever
attributes it comes from.  Keys and texts are quoted in it, so the only code in it
that somebody wrote is that of the attributes' expressions
(`Attribute.expressions`).  An expression keeps the block together if it is
**sealed**: its string literals are closed, and outside of them stands no `}}`.
-/
namespace Componentry

/-! ## Sealed expressions -/

namespace Block

/-- Whether the string literals of an expression are closed and no closing delimiter
stands outside of them.  `literal` is the quote of the literal that it starts in. -/
def isSealed : Option Char → Text → Bool
  | none, [] => true
  | some _, [] => false
  | some q, c :: s =>
    if c = '\\' then
      match s with
      | [] => false
      | _ :: s' => isSealed (some q) s'
    else isSealed (if c = q then none else some q) s
  | none, c :: s =>
    if isQuote c then isSealed (some c) s
    else !(c = '}' && s.head? == some '}') && isSealed none s

/-- A block does not end in a sealed expression that no brace follows. -/
theorem inside_sealed {literal : Option Char} {w : Text} (h : isSealed literal w = true) {c : Char}
    (hc : c ≠ '}') (rest : Text) :
    inside .expression literal (w ++ c :: rest) =
      (inside .expression none (c :: rest)).map (w ++ ·) id := by
  fun_induction isSealed literal w with
  | case1 => rfl
  | case2 => cases h
  | case3 => cases h
  | case4 q d s ih => simp [inside, ih h, Prod.map]
  | case5 q d s hd ih =>
    rw [List.cons_append, inside_literal hd, ih h]
    rfl
  | case6 d s hq ih =>
    rw [List.cons_append, inside_quote rfl hq, ih h]
    rfl
  | case7 d s hq ih =>
    simp only [Bool.and_eq_true, Bool.not_eq_true', Bool.and_eq_false_iff,
      decide_eq_false_iff_not, beq_eq_false_iff_ne] at h
    have hne : ¬ (d = BlockKind.expression.closeMark ∧ ∃ t, s ++ c :: rest = '}' :: t) := by
      rintro ⟨hd, t, ht⟩
      rcases h.1 with hmark | hhead
      · exact hmark hd
      · cases s with
        | nil => exact hc (List.cons.inj ht).1
        | cons e s => exact hhead (congrArg some (List.cons.inj ht).1)
    rw [List.cons_append, inside_char (by simp [hq]) hne, ih h.2]
    rfl

theorem stepsOver_sealed {w : Text} (h : isSealed none w = true) {c : Char} (hc : c ≠ '}')
    (hq : isQuote c = false) : StepsOver .expression (w ++ [c]) := by
  intro rest
  have hchar : StepsOver .expression [c] := .char hq hc
  rw [List.append_assoc, List.singleton_append, inside_sealed h hc, ← List.singleton_append,
    hchar rest]
  simp [Prod.map]

/-- A sealed expression may be an argument as it is. -/
theorem isArgument_sealed {w : Text} (h : isSealed none w = true) : IsArgument w where
  comma := stepsOver_sealed h (by decide) (by decide)
  bracket := stepsOver_sealed h (by decide) (by decide)

theorem stepsOver_parens {w : Text} (h : isSealed none w = true) :
    StepsOver .expression ('(' :: w ++ [')']) :=
  .cons (.fixed (by decide)) (isArgument_sealed h).bracket

end Block

/-! ## The code of attributes -/

namespace AttributeValue

/-- The expression of a hole. -/
def Piece.hole? : Piece → Option Text
  | plain _ => none
  | hole source => some source

/-- The expressions that a value's author wrote. -/
def expressions : AttributeValue → List Text
  | text value => (pieces value).filterMap Piece.hole?
  | expression source => [Text.trim source]
  | flag => []

theorem Piece.stepsOver_source {p : Piece} (h : ∀ e ∈ p.hole?, Block.isSealed none e = true) :
    Block.StepsOver .expression p.source := by
  cases p with
  | plain value => exact Block.stepsOver_quote rfl value
  | hole source => exact Block.stepsOver_parens (h source rfl)

theorem stepsOver_textSource {value : Text}
    (h : ∀ e ∈ (pieces value).filterMap Piece.hole?, Block.isSealed none e = true) :
    Block.StepsOver .expression (textSource value) := by
  have hpiece : ∀ p ∈ pieces value, Block.StepsOver .expression p.source := fun p hp =>
    p.stepsOver_source fun e he => h e (List.mem_filterMap.2 ⟨p, hp, he⟩)
  have hjoined : Block.StepsOver .expression
      ('(' :: Text.join [' ', '~', ' '] ((pieces value).map Piece.source) ++ [')']) := by
    refine .cons (.fixed (by decide)) (.append (.join (.fixed (by decide)) ?_) (.fixed (by decide)))
    simpa using hpiece
  unfold textSource
  split
  · exact Block.stepsOver_quote rfl []
  · rename_i p hp
    exact hpiece p (by simp [hp])
  · exact hjoined

theorem stepsOver_source {value : AttributeValue}
    (h : ∀ e ∈ value.expressions, Block.isSealed none e = true) :
    Block.StepsOver .expression value.source := by
  cases value with
  | text value => exact stepsOver_textSource h
  | expression source => exact Block.stepsOver_parens (h _ (by simp [expressions]))
  | flag => exact .fixed (by decide)

end AttributeValue

/-- The expressions that an attribute's author wrote. -/
def Attribute.expressions : Attribute → List Text
  | literal _ value => value.expressions
  | spread source => [source]

/-- Whether all expressions among the attributes in a text are sealed. -/
def Attribute.areSealed (region : Text) : Bool :=
  (Attribute.parse region).all fun a => a.expressions.all (Block.isSealed none)

namespace Props

theorem isArgument_mergeSource {spreads : List Text}
    (h : ∀ e ∈ spreads, Block.isSealed none e = true) {last : Text} (hlast : Block.IsArgument last) :
    Block.IsArgument (mergeSource spreads last) := by
  induction spreads with
  | nil => exact hlast
  | cons spread spreads ih =>
    have hrest := ih fun e he => h e (by simp [he])
    refine (Block.IsArgument.call (.fixed (by decide)) ?_).isArgument
    simp only [List.forall_mem_cons]
    exact ⟨Block.isArgument_sealed (h spread (by simp)), hrest, by simp⟩

/-- Props are stepped over as an argument if their expressions are sealed. -/
theorem isArgument_source {p : Props} (hs : ∀ e ∈ p.spreads, Block.isSealed none e = true)
    (he : ∀ e ∈ p.entries, Block.StepsOver .expression e.2) : Block.IsArgument p.source := by
  have hdict := (Block.stepsOver_dictSource fun e h => (he e h).isArgument).isArgument
  -- Without entries the last spread stands as it is, with entries they make a map behind all.
  unfold source
  split
  · split
    · exact (Block.stepsOver_dictSource (by simp)).isArgument
    · rename_i last hlast
      refine isArgument_mergeSource (fun e h => hs e (List.dropLast_subset _ h)) ?_
      exact Block.isArgument_sealed (hs last (List.mem_of_getLast? hlast))
  · exact isArgument_mergeSource hs hdict

theorem isArgument_ofText {region : Text} (h : Attribute.areSealed region = true) :
    Block.IsArgument (ofText region).source := by
  have hall : ∀ a ∈ Attribute.parse region, ∀ e ∈ a.expressions, Block.isSealed none e = true := by
    simpa [Attribute.areSealed] using h
  refine isArgument_source ?_ ?_
  · intro e he
    obtain ⟨a, ha, hsome⟩ := List.mem_filterMap.1 he
    cases a with
    | literal key value => cases hsome
    | spread source =>
      cases hsome
      exact hall _ ha _ (by simp [Attribute.expressions])
  · intro e he
    obtain ⟨a, ha, hsome⟩ := List.mem_filterMap.1 he
    cases a with
    | spread source => cases hsome
    | literal key value =>
      cases hsome
      exact AttributeValue.stepsOver_source (hall _ ha)

end Props

/-! ## Both forms -/

namespace Tag

/-- With `<` in front and `>` behind, the name and the text after it are an opening tag of
that name, which ends there and does not close itself. -/
structure Opens (name region : Text) : Prop where
  named : name? (name ++ region ++ ['>']) = some (name, region ++ ['>'])
  ends : attributes? (region ++ ['>']) = some (region, [])
  staysOpen : slash? region = none

theorem isName_of_name? {s name rest : Text} (h : name? s = some (name, rest)) :
    isName name = true ∧ atBoundary rest = true := by
  cases s with
  | nil => cases h
  | cons c s =>
    simp only [name?] at h
    split at h
    · rename_i hc
      split at h
      · rename_i hb
        cases h
        simp only [isName, hc, Bool.true_and, List.all_eq_true]
        exact ⟨fun d hd => List.all_eq_true.1 List.all_takeWhile d hd, hb⟩
      · cases h
    · cases h

theorem Opens.isName {name region : Text} (h : Opens name region) : isName name = true :=
  (isName_of_name? h.named).1

theorem Opens.atBoundary {name region : Text} (h : Opens name region) {c : Char}
    (hc : Tag.atBoundary [c] = true) : Tag.atBoundary (region ++ [c]) = true := by
  cases region with
  | nil => exact hc
  | cons d region => exact (isName_of_name? h.named).2

theorem Opens.spans {name region : Text} (h : Opens name region) : Spans region :=
  spans_of_attributes? h.ends

end Tag

namespace Expansion

variable {r : Registry} {name region before after : Text}

/-- The second pass on code of the first. -/
theorem paired_invocation (owner : Text) (count offset : Nat) (name : Text)
    (hsealed : Attribute.areSealed region = true) (hafter : isPlainText after = true) :
    paired r owner count offset (invocation name (Props.ofText region) ++ after) =
      ⟨invocation name (Props.ofText region) ++ after, [], []⟩ := by
  have hblock := Block.closed_invocation name (Props.isArgument_ofText hsealed)
  exact paired_whole (.append (.block hblock) (.text hafter))

/-- The scan finds an element without contents. -/
theorem next_emptyElement (hinvokes : r.invokes name = true) (hopens : Tag.Opens name region)
    (after : Text) :
    Scan.next r.invokes ('<' :: name ++ region ++ '>' :: (closingTag name ++ after)) =
      .found [] ⟨name, region, ['>'], some ([], closingTag name)⟩ after := by
  have hpasses : Tag.Passes name [] := fun _ => .nil
  exact Scan.next_paired hopens.isName hinvokes (hopens.atBoundary rfl) hopens.spans
    hopens.staysOpen hpasses after

/-- The second pass on an element without contents. -/
theorem paired_emptyElement (owner : Text) (count offset : Nat) (hinvokes : r.invokes name = true)
    (hopens : Tag.Opens name region) (hafter : isPlainText after = true) :
    paired r owner count offset ('<' :: name ++ region ++ '>' :: (closingTag name ++ after)) =
      ⟨invocation name (Props.ofText region) ++ after, [], []⟩ := by
  have hnext := next_emptyElement hinvokes hopens after
  -- The contents are expanded first, and then handed over as slots: there are none.
  have hempty : ∀ offset, paired r owner count offset [] = ⟨[], [], []⟩ := fun _ => paired_whole .nil
  rw [paired_found hnext rfl]
  simp only [hempty, Slots.extract_nil, paired_whole (.text hafter), List.append_nil, List.nil_append,
    List.length_nil, Nat.add_zero]
  simp [Slots.propEntries, Props.withEntries]

/-- The first pass writes a tag that closes itself as an invocation. -/
theorem selfClosing_closed (hinvokes : r.invokes name = true) (hopens : Tag.Opens name region)
    (hafter : isPlainText after = true) :
    selfClosing r ('<' :: name ++ region ++ '/' :: '>' :: after) =
      invocation name (Props.ofText region) ++ after := by
  have hnext : Scan.next r.invokes ('<' :: name ++ region ++ '/' :: '>' :: after) =
      .found [] ⟨name, region, ['/', '>'], none⟩ after :=
    Scan.next_closed hopens.isName hinvokes (hopens.atBoundary rfl) hopens.spans after
  rw [selfClosing_found hnext]
  simp [Element.isSelfClosing, selfClosing_whole (.text hafter)]

/-- The first pass leaves an element without contents. -/
theorem selfClosing_emptyElement (hinvokes : r.invokes name = true)
    (hopens : Tag.Opens name region) (hafter : isPlainText after = true) :
    selfClosing r ('<' :: name ++ region ++ '>' :: (closingTag name ++ after)) =
      '<' :: name ++ region ++ '>' :: (closingTag name ++ after) := by
  have hnext := next_emptyElement hinvokes hopens after
  have hclosing : (Scan.search r.invokes).Skips (closingTag name ++ after) :=
    .append (Scan.skips_closingTag hopens.isName) (.text hafter)
  rw [selfClosing_found hnext]
  simp [Element.isSelfClosing, Element.opening, Element.inside, selfClosing_whole hclosing]

/-- **A tag that closes itself is the same as an element without contents**: both forms
are expanded to the invocation of the component, no definition is generated for a slot,
and no tag is left unmatched. -/
theorem ofText_emptyElement (owner : Text) (count : Nat) (hinvokes : r.invokes name = true)
    (hopens : Tag.Opens name region) (hsealed : Attribute.areSealed region = true)
    (hbefore : isPlainText before = true) (hafter : isPlainText after = true) :
    ofText r owner count (before ++ '<' :: name ++ region ++ ['/', '>'] ++ after) =
        ⟨before ++ invocation name (Props.ofText region) ++ after, [], []⟩ ∧
      ofText r owner count (before ++ '<' :: name ++ region ++ ['>'] ++ closingTag name ++ after) =
        ⟨before ++ invocation name (Props.ofText region) ++ after, [], []⟩ := by
  have hskips := Search.Skips.text (S := Scan.search r.invokes) hbefore
  have hclosed := selfClosing_closed hinvokes hopens hafter
  have hinvocation := paired_invocation (r := r) owner count (0 + Text.byteLength before) name
    hsealed hafter
  have hopen := selfClosing_emptyElement hinvokes hopens hafter
  have hpaired := paired_emptyElement owner count (0 + Text.byteLength before) hinvokes hopens
    hafter
  constructor
  -- The tag is written by the first pass, and the second leaves the invocation.
  · have hsource : before ++ '<' :: name ++ region ++ ['/', '>'] ++ after =
        before ++ ('<' :: name ++ region ++ '/' :: '>' :: after) := by simp
    rw [ofText, hsource, selfClosing_skips hskips, hclosed, paired_skips hskips, hinvocation]
    simp [under]
  -- The element is left by the first pass and written by the second.
  · have hsource : before ++ '<' :: name ++ region ++ ['>'] ++ closingTag name ++ after =
        before ++ ('<' :: name ++ region ++ '>' :: (closingTag name ++ after)) := by simp
    rw [ofText, hsource, selfClosing_skips hskips, hopen, paired_skips hskips, hpaired]
    simp [under]

/-- A spread, a text with a hole, an expression with a delimiter in a string literal, and a
key alone: ` {...p} a="n {{ m }}" b={q["}}"]} d`. -/
def fourAttributes : Text :=
  " \x7b...p\x7d a=\"n \x7b\x7b m \x7d\x7d\" b=\x7bq[\"\x7d\x7d\"]\x7d d".toList

theorem ofText_fourAttributes :
    (Registry.invokes ⟨[['C']]⟩ ['C'] = true ∧ Tag.Opens ['C'] fourAttributes ∧
        Attribute.areSealed fourAttributes = true) ∧
      ofText ⟨[['C']]⟩ ['p'] 0 (['a'] ++ '<' :: ['C'] ++ fourAttributes ++ ['/', '>'] ++ ['b']) =
        ⟨['a'] ++ invocation ['C'] (Props.ofText fourAttributes) ++ ['b'], [], []⟩ ∧
      ofText ⟨[['C']]⟩ ['p'] 0
          (['a'] ++ '<' :: ['C'] ++ fourAttributes ++ ['>'] ++ closingTag ['C'] ++ ['b']) =
        ⟨['a'] ++ invocation ['C'] (Props.ofText fourAttributes) ++ ['b'], [], []⟩ := by
  have hopens : Tag.Opens ['C'] fourAttributes :=
    ⟨by decide +kernel, by decide +kernel, by decide +kernel⟩
  have hsealed : Attribute.areSealed fourAttributes = true := by decide +kernel
  exact ⟨⟨by decide, hopens, hsealed⟩,
    ofText_emptyElement ['p'] 0 (by decide) hopens hsealed (by decide) (by decide)⟩

end Expansion

end Componentry
