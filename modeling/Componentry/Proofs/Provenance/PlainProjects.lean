import Componentry.Proofs.MacroExpansion.Project
import Componentry.Proofs.Provenance.Invocation

/-! # Plain projects make no slot sources of their own

In a project of plain trees no definition mentions the function that makes slot sources
but in the entries that are written for slots (`Compiled.mentionsGenerated_of_isProject`):
variables have other names, and texts stay texts.  So there request data is never parsed.
-/
namespace Componentry

open Template

namespace Template

variable {p : Text → Bool}

theorem MentionsOnly.append {ts us : List Token} (h : MentionsOnly p ts) (h' : MentionsOnly p us) :
    MentionsOnly p (ts ++ us) := by
  induction h with
  | nil => exact h'
  | token ht _ ih => exact .token ht ih
  | source hsource _ ih =>
    rw [List.cons_append, List.append_assoc]
    exact .source hsource ih

theorem MentionsOnly.mentionsOnly {ts : List Token} (h : MentionsOnly p ts) :
    mentionsOnly p ts = true := by
  fun_induction Template.mentionsOnly p ts with
  | case1 key f source ts ih =>
    have hentry : (f != deferredName || p source) = true ∧ MentionsOnly p ts := by
      rcases h.behindKey with h | ⟨source', rest, heq, hsource, hrest⟩
      · have hcall := h.tail (by simp)
        have hf : f ≠ deferredName := fun heq => hcall.ne_deferred (congrArg _ heq)
        have hclose := ((hcall.tail (by simp)).tail (by simp)).behindKey.mentionsOnly (by simp)
        exact ⟨by simp [hf], hclose.tail (by simp)⟩
      · cases heq
        exact ⟨by simp [hsource], hrest⟩
    exact Bool.and_eq_true_iff.2 ⟨hentry.1, ih hentry.2⟩
  | case2 x ts ih =>
    have hx : x ≠ deferredName := fun heq => h.ne_deferred (congrArg _ heq)
    exact Bool.and_eq_true_iff.2 ⟨bne_iff_ne.2 hx, ih (h.tail (by simp))⟩
  | case3 t ts hentry hident ih =>
    cases h with
    | token _ hts => exact ih hts
    | source => exact absurd rfl (hentry _ _ _ _ rfl)
  | case4 => rfl

/-! ## Code -/

/-- Code that closes all brackets that it opens, whose tokens mention the function for slot
sources only as the value of an entry, with a text that passes a test. -/
def IsMild (p : Text → Bool) (w : Text) : Prop :=
  ∃ tokens, Lexes w tokens ∧ (tokens.map Token.opens).sum = 0 ∧ MentionsOnly p tokens

namespace IsMild

theorem string (v : Text) : IsMild p (Text.quote v) :=
  ⟨_, .string v, rfl, .token (by simp) .nil⟩

theorem ident {x : Text} (hx : isIdentifier x = true) (hname : x ≠ deferredName) : IsMild p x :=
  ⟨_, .ident hx, rfl, .token (fun heq => hname (Token.ident.inj heq)) .nil⟩

theorem group {w : Text} (h : IsMild p w) : IsMild p ('(' :: w ++ [')']) := by
  obtain ⟨tokens, hlex, hbalance, hmentions⟩ := h
  refine ⟨_, lexes_group hlex, opens_group hbalance, .token (by simp) (hmentions.append ?_)⟩
  exact .token (by simp) .nil

theorem join {pieces : List Text} (h : ∀ w ∈ pieces, IsMild p w) :
    IsMild p (Text.join [',', ' '] pieces) := by
  obtain ⟨read, rfl, hread⟩ : ∃ read : List (Text × List Token), read.map Prod.fst = pieces ∧
      ∀ r ∈ read, Lexes r.1 r.2 ∧ (r.2.map Token.opens).sum = 0 ∧ MentionsOnly p r.2 := by
    induction pieces with
    | nil => exact ⟨[], rfl, (by simp)⟩
    | cons w pieces ih =>
      rw [List.forall_mem_cons] at h
      obtain ⟨tokens, hfirst⟩ := h.1
      obtain ⟨read, rfl, hmore⟩ := ih h.2
      exact ⟨(w, tokens) :: read, rfl, List.forall_mem_cons.2 ⟨hfirst, hmore⟩⟩
  refine ⟨_, IsSeparator.comma.lexes_join fun r hr => (hread r hr).1,
    IsSeparator.comma.opens_join ?_, ?_⟩
  · exact List.forall_mem_map.2 fun r hr => (hread r hr).2.1
  · clear h
    induction read with
    | nil => exact .nil
    | cons r read ih =>
      rw [List.forall_mem_cons] at hread
      cases read with
      | nil => simpa [joinTokens] using hread.1.2.2
      | cons r' read =>
        rw [List.map_cons, List.map_cons, joinTokens_cons_cons]
        exact hread.1.2.2.append (.token (by simp) (ih hread.2))

theorem call {f : Text} (hf : isIdentifier f = true) (hname : f ≠ deferredName) {args : List Text}
    (h : ∀ w ∈ args, IsMild p w) : IsMild p (Props.call f args) := by
  obtain ⟨tokens, hlex, hbalance, hmentions⟩ := join h
  refine ⟨_, lexes_call hf hlex, opens_call hbalance f, ?_⟩
  refine .token (fun heq => hname (Token.ident.inj heq)) (.token (by simp) (hmentions.append ?_))
  exact .token (by simp) .nil

/-- A key and its value, which may be a slot source. -/
def IsEntry (p : Text → Bool) (entry : Text × Text) : Prop :=
  IsMild p entry.2 ∨ ∃ source, p source = true ∧
    entry.2 = Props.call deferredName [Text.quote source]

theorem entry {e : Text × Text} (h : IsEntry p e) :
    IsMild p (Text.quote e.1 ++ [',', ' '] ++ e.2) := by
  have hkey : Lexes (Text.quote e.1 ++ [',', ' ']) [.string e.1, .symbol .comma] :=
    (Lexes.string e.1).append IsSeparator.comma.lexes (.of_head rfl (by decide))
  have hlast : (Text.quote e.1 ++ [',', ' ']).getLast? = some ' ' := by
    rw [List.getLast?_append]
    rfl
  rcases h with ⟨tokens, hlex, hbalance, hmentions⟩ | ⟨source, hsource, hvalue⟩
  · refine ⟨_, hkey.append hlex (.of_last hlast (by decide)), ?_, ?_⟩
    · simpa [Token.opens] using hbalance
    · exact .token (by simp) (.token (by simp) hmentions)
  · have hargument : Lexes (Text.join [',', ' '] [Text.quote source]) [.string source] :=
      Lexes.string source
    have hcall : Lexes e.2 [.ident deferredName, .symbol .openParen, .string source,
        .symbol .closeParen] := by
      rw [hvalue]
      exact lexes_call (by decide) hargument
    refine ⟨_, hkey.append hcall (.of_last hlast (by decide)), rfl, ?_⟩
    exact .source hsource .nil

theorem dict {entries : List (Text × Text)} (h : ∀ e ∈ entries, IsEntry p e) :
    IsMild p (Props.dictSource entries) := by
  -- The key and the value of an entry are read together.
  have hjoin : Text.join [',', ' '] (entries.flatMap fun e => [Text.quote e.1, e.2]) =
      Text.join [',', ' '] (entries.map fun e => Text.quote e.1 ++ [',', ' '] ++ e.2) := by
    induction entries with
    | nil => rfl
    | cons e entries ih =>
      rw [List.forall_mem_cons] at h
      cases entries with
      | nil => simp [Text.join]
      | cons e' entries => simpa [Text.join] using ih h.2
  have hcall := call (p := p) (f := Props.dictName) (by decide) (by decide)
    (List.forall_mem_map.2 fun e he => entry (h e he))
  rwa [Props.call, ← hjoin] at hcall

theorem placeholder (label : Text) :
    IsMild p (installedSource label ++ [' ', 'i', 'f', ' '] ++ isGivenSource label) := by
  have hinstalled : IsMild p (installedSource label) := by
    refine call (by decide) (by decide) ?_
    simp only [List.forall_mem_cons]
    exact ⟨string label, ident (by decide) (by decide), (by simp)⟩
  obtain ⟨tokens, hlex, hbalance, hmentions⟩ := hinstalled
  have hword : Lexes ['i', 'f'] [Keyword.kIf.token] := .ident (by decide)
  have hif : Lexes [' ', 'i', 'f', ' '] [Keyword.kIf.token] :=
    (Lexes.blank.append hword (.of_last rfl (by decide))).append Lexes.blank
      (.of_head rfl (by decide))
  have hcode := (hlex.append hif (.of_head rfl (by decide))).append (Lexes.isGivenSource label)
    (.of_last (c := ' ') (by rw [List.getLast?_append]; rfl) (by decide))
  refine ⟨_, hcode, ?_, ?_⟩
  · simp [hbalance, isGivenTokens, Token.opens, Keyword.token]
  · refine (hmentions.append (.token (by decide) .nil)).append ?_
    exact .token (by decide) (.token (by simp) (.token (by simp) (.token (by simp)
      (.token (by decide) (.token (by decide) .nil)))))

end IsMild

end Template

/-! ## Fragments -/

namespace Fragment

variable {p : Text → Bool}

/-- Whether a fragment is text without blocks, or code that mentions no slot sources but in
entries. -/
def IsMild (p : Text → Bool) (f : Fragment) : Prop :=
  '{' ∉ f.source ∨ ∃ w, f.source = expressionBlock w ∧ Template.IsMild p w

theorem mentionsOnly_data {line : Nat} {text : Text} {ts : List Token} (h : MentionsOnly p ts) :
    MentionsOnly p ((dataLexemes line text).map Lexeme.token ++ ts) := by
  unfold dataLexemes
  split
  · exact h
  · exact .token (by simp) h

/-- The tokens of fragments behind a text. -/
theorem mentionsOnly_sources {fragments : List Fragment} (h : ∀ f ∈ fragments, f.IsMild p)
    (line : Nat) (pending : Text) (hpending : '{' ∉ pending) :
    MentionsOnly p
      ((lexFrom false line (pending ++ sources fragments)).lexemes.map Lexeme.token) := by
  induction fragments generalizing line pending with
  | nil =>
    rw [sources, List.flatMap_nil, List.append_nil, (lexFrom_data line hpending).1,
      ← List.append_nil ((dataLexemes line pending).map Lexeme.token)]
    exact mentionsOnly_data .nil
  | cons f more ih =>
    rw [List.forall_mem_cons] at h
    rw [sources, List.flatMap_cons, ← sources, ← List.append_assoc]
    rcases h.1 with htext | ⟨w, hsource, tokens, hlex, hbalance, hmentions⟩
    · exact ih h.2 line _ (by simp [hpending, htext])
    · have hmore := ih h.2 (line + lineBreaks pending) [] (by simp)
      rw [hsource, (lexFrom_expression line hpending hlex hbalance _).1, List.map_append]
      refine mentionsOnly_data (.token (by simp) ?_)
      rw [List.map_append, List.map_map]
      refine MentionsOnly.append ?_ (.token (by simp) hmore)
      simpa [Function.comp_def] using hmentions

theorem isMild_variable {x : Text} (h : isVariable x = true) : Template.IsMild p x := by
  refine .ident (isVariable_identifier h).1 ?_
  rintro rfl
  exact absurd h (by decide)

theorem isMild_entry {a : Text × Operand} (h : Operand.isPlain a = true) :
    Template.IsMild p (Operand.entry a).2 := by
  obtain ⟨key, value⟩ := a
  cases value with
  | text v => exact .string v
  | var x =>
    simp only [Operand.isPlain, Bool.and_eq_true] at h
    exact .group (isMild_variable h.2)

theorem isMild_tag (name : Text) {attributes : List (Text × Operand)}
    (hattributes : attributes.all Operand.isPlain = true) {slots : List (Text × Text)}
    (hslots : ∀ s ∈ slots, p (deferredInvocation s.2) = true) :
    (tag name attributes slots).IsMild p := by
  have hentries : ∀ e ∈ attributes.map Operand.entry ++ slotEntries slots,
      Template.IsMild.IsEntry p e := by
    refine List.forall_mem_append.2 ⟨?_, ?_⟩
    · exact List.forall_mem_map.2 fun a ha =>
        Or.inl (isMild_entry (List.all_eq_true.1 hattributes a ha))
    · unfold slotEntries
      split
      · simp
      · refine List.forall_mem_append.2 ⟨List.forall_mem_map.2 fun s hs => ?_, ?_⟩
        · exact Or.inr ⟨_, hslots s hs, rfl⟩
        · exact List.forall_mem_singleton.2 (Or.inl (.ident (by decide) (by decide)))
  refine Or.inr ⟨_, rfl, .call (by decide) (by decide) ?_⟩
  rw [Block.props_source_entries]
  simp only [List.forall_mem_cons]
  exact ⟨.string name, .dict hentries, (by simp)⟩

end Fragment

variable {names : List Text} {definitions : List (Text × List Fragment)} {p : Text → Bool}

/-- The fragments of plain markup make slot sources only of the definitions of its slots. -/
theorem Translates.isMild {m : Markup} {fragments : List Fragment}
    (h : Translates names definitions m fragments)
    (hp : ∀ u ∈ definitions, '_' ∈ u.1 → p (deferredInvocation u.1) = true) :
    ∀ f ∈ fragments, f.IsMild p := by
  induction h with
  | nil => simp
  | text hs _ _ ih => exact List.forall_mem_cons.2 ⟨Or.inl (Marker.brace_notMem_text hs), ih⟩
  | print hx _ ih => exact List.forall_mem_cons.2 ⟨Or.inr ⟨_, rfl, Fragment.isMild_variable hx⟩, ih⟩
  | place _ _ ih => exact List.forall_mem_cons.2 ⟨Or.inr ⟨_, rfl, .placeholder _⟩, ih⟩
  | single htag _ _ ih =>
    exact List.forall_mem_cons.2 ⟨Fragment.isMild_tag _ (isTagOf_attributes htag) (by simp), ih⟩
  | paired htag _ _ hheld _ _ _ ih =>
    refine List.forall_mem_cons.2 ⟨Fragment.isMild_tag _ (isTagOf_attributes htag) ?_, ih⟩
    intro s hs
    obtain ⟨slot, hslot, rfl⟩ := List.mem_map.1 hs
    exact hp slot.definition (hheld.definition slot hslot) (hheld.unit slot hslot)

/-! ## Projects -/

namespace Compiled

variable {bodies : List (Text × Markup)} {units : List SourceUnit}

/-- The definitions of slots in a project have names that are generated. -/
theorem isGenerated_of_isProject (h : isProject bodies = true)
    (hunits : units.map (fun u => (u.name, u.raw)) =
      bodies.map fun body => (body.1, body.2.source .author))
    {u : Text × List Fragment} (hu : u ∈ projectDefinitions bodies) (hname : '_' ∈ u.1) :
    isGenerated (.ofUnits units) units (deferredInvocation u.1) = true := by
  obtain ⟨body, hbody, hu⟩ := List.mem_flatMap.1 hu
  rcases List.mem_append.1 hu with hslot | hown
  · have hlisted : u.1 ∈ slotNames (.ofUnits units) units := by
      obtain ⟨path, hunit⟩ := exists_unit hunits hbody
      refine List.mem_flatMap.2 ⟨_, hunit, ?_⟩
      rw [SourceUnit.blocks, rawDefinitions_body h hbody]
      refine List.mem_flatMap.2 ⟨_, List.mem_singleton.2 rfl, ?_⟩
      rw [ExpandedBlock.slotNames, expansion_body h (contains_bodies h hunits) hbody, slotUnits,
        List.map_map]
      exact List.mem_map.2 ⟨u, hslot, rfl⟩
    exact List.any_eq_true.2 ⟨u.1, hlisted, decide_eq_true rfl⟩
  · -- The name of a body is plain.
    rw [List.mem_singleton.1 hown] at hname
    exact absurd hname (underscore_notMem_plainName (isProject_body h hbody).1)

/-- **In a project of plain trees slot sources are made only of the definitions that are
generated for slots.** -/
theorem mentionsGenerated_of_isProject (h : isProject bodies = true)
    (hunits : units.map (fun u => (u.name, u.raw)) =
      bodies.map fun body => (body.1, body.2.source .author)) :
    ∀ d ∈ Compiled.definitions (.ofUnits units) units,
      mentionsGenerated (.ofUnits units) units d = true := by
  rw [definitions_project h hunits]
  refine List.forall_mem_map.2 fun u hu => MentionsOnly.mentionsOnly ?_
  obtain ⟨parts, hparts, hend, htranslates⟩ := isHeld_definition h hu
  have hmild : ∀ f ∈ u.2, f.IsMild (isGenerated (.ofUnits units) units) := by
    intro f hf
    rw [hparts] at hf
    obtain ⟨part, hpart, hf⟩ := List.mem_flatMap.1 hf
    refine (htranslates part hpart).isMild ?_ f hf
    exact fun u hu hname => isGenerated_of_isProject h hunits hu hname
  have hfinal := Fragment.getLast?_sources (isRead_translated htranslates)
    (getLast?_translated htranslates hend)
  rw [← hparts] at hfinal
  rw [lex, asDefinition, dropFinalBreak_of_getLast hfinal]
  exact Fragment.mentionsOnly_sources hmild 1 [] (by simp)

end Compiled

end Componentry
