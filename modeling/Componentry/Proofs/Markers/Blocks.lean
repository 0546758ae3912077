import Componentry.Proofs.Capitals
import Componentry.Proofs.Compilation
import Componentry.Proofs.Markers.Tags

/-! # Component blocks are extracted as they are written

A unit that declares components holds their blocks, one after the other, with any text between
them that opens no block.  A block starts at the tag that opens it, not earlier
(`WrittenBlock.find?_componentBlock?`), and reaches to the first tag that closes it, which its
body does not hold.  So the blocks of the unit are the ones that are written
(`SourceUnit.componentBlocks_source`), and each is expanded for itself
(`SourceUnit.expand_writtenBlocks`).
-/
namespace Componentry

namespace Text

variable {rest : Text}

theorem takeWhile_append_brace {p : Char → Bool} (hp : p '{' = false) (hrest : OpensBrace rest)
    (s : Text) : (s ++ rest).takeWhile p = s.takeWhile p := by
  induction s with
  | nil =>
    cases rest with
    | nil => rfl
    | cons c rest =>
      rw [hrest c rfl, List.nil_append, List.takeWhile_cons_of_neg (by simp [hp])]
      rfl
  | cons d s ih =>
    rw [List.cons_append, List.takeWhile_cons, List.takeWhile_cons]
    by_cases h : p d = true
    · rw [if_pos h, if_pos h, ih]
    · rw [if_neg h, if_neg h]

/-- Whether one of two runs ends before the other one starts. -/
def Run.isApart (r q : Run) : Bool := Nat.blt r.last q.first || Nat.blt q.last r.first

/-- Tables whose runs lie apart have no common code point. -/
theorem inRuns_of_isApart {runs others : List Run}
    (h : (others.all fun q => runs.all q.isApart) = true) {n : Nat}
    (hn : inRuns runs n = true) : inRuns others n = false := by
  obtain ⟨r, hr, hrn⟩ := List.any_eq_true.1 hn
  refine List.any_eq_false.2 fun q hq hqn => ?_
  have hapart := List.all_eq_true.1 (List.all_eq_true.1 h q hq) r hr
  rw [Run.isApart, Bool.or_eq_true, Nat.blt_eq, Nat.blt_eq] at hapart
  obtain ⟨hfirst, hlast⟩ := Run.bounds_of_holds hrn
  obtain ⟨hfirst', hlast'⟩ := Run.bounds_of_holds hqn
  omega

theorem spaces_notLetters : (letterRuns.all fun q => spaceRuns.all q.isApart) = true := by
  decide +kernel

theorem spaces_notInWords : (wordRuns.all fun q => spaceRuns.all q.isApart) = true := by
  decide +kernel

/-- No space of ASCII is part of a word. -/
theorem isWord_ascii : ∀ n < 128, isSpace (Char.ofNat n) = true → isWord (Char.ofNat n) = false := by
  decide +kernel

/-- No space is part of a word. -/
theorem isWord_of_isSpace {c : Char} (h : isSpace c = true) : isWord c = false := by
  by_cases hc : c.toNat < 128
  · have hascii := isWord_ascii c.toNat hc
    rw [Char.ofNat_toNat] at hascii
    exact hascii h
  · rw [isSpace_eq] at h
    rw [isWord, if_neg hc, inRuns_of_isApart spaces_notLetters h,
      inRuns_of_isApart spaces_notInWords h]
    rfl

theorem isWord_of_isLetter {c : Char} (h : isLetter c = true) : isWord c = true := by
  rw [isLetter] at h
  rw [isWord]
  split at h
  · rename_i hascii
    rw [if_pos hascii, h]
    rfl
  · rename_i hascii
    rw [if_neg hascii, h]
    rfl

end Text

namespace Marker

open Text

variable {rest : Text}

/-- The keyword of the tags that open component blocks. -/
def componentWord : Text := ['c', 'o', 'm', 'p', 'o', 'n', 'e', 'n', 't']

/-- The keyword of the tags that close component blocks. -/
def endComponentWord : Text := ['e', 'n', 'd', 'c', 'o', 'm', 'p', 'o', 'n', 'e', 'n', 't']

/-- The characters of a declared name behind its first one. -/
def inName (c : Char) : Bool := isWord c || c = '.' || c = '-'

/-- Whether a text can be declared as the name of a component: a letter or an underscore, then
word characters, dots and dashes. -/
def isDeclaredName : Text → Bool
  | [] => false
  | c :: s => (isLetter c || c = '_') && s.all inName

theorem inName_of_isSpace {c : Char} (h : isSpace c = true) : inName c = false := by
  have hdot : c ≠ '.' := by
    rintro rfl
    exact absurd h (by decide)
  have hdash : c ≠ '-' := by
    rintro rfl
    exact absurd h (by decide)
  simp [inName, isWord_of_isSpace h, hdot, hdash]

theorem isSpace_of_isDeclared {c : Char} (h : (isLetter c || c = '_') = true) :
    isSpace c = false := by
  rw [Bool.eq_false_iff]
  intro hspace
  rw [Bool.or_eq_true, decide_eq_true_eq] at h
  rcases h with hletter | rfl
  · have hword := isWord_of_isLetter hletter
    rw [isWord_of_isSpace hspace] at hword
    cases hword
  · exact absurd hspace (by decide)

/-- A declared name is read as far as a character that cannot be in it. -/
theorem declaredName?_append {name : Text} (h : isDeclaredName name = true)
    (hrest : ∀ c ∈ rest.head?, inName c = false) :
    declaredName? (name ++ rest) = some (name, rest) := by
  cases name with
  | nil => cases h
  | cons c s =>
    rw [isDeclaredName, Bool.and_eq_true] at h
    have hall : ∀ d ∈ s, inName d = true := List.all_eq_true.1 h.2
    have htake : (s ++ rest).takeWhile inName = s := by
      rw [List.takeWhile_append_of_pos hall]
      cases rest with
      | nil => simp
      | cons d rest => simp [hrest d rfl]
    have hdrop : (s ++ rest).dropWhile inName = rest := by
      rw [List.dropWhile_append_of_pos hall]
      cases rest with
      | nil => rfl
      | cons d rest => simp [hrest d rfl]
    rw [List.cons_append, declaredName?, if_pos (by simpa using h.1)]
    show some (c :: (s ++ rest).takeWhile inName, (s ++ rest).dropWhile inName) = _
    rw [htake, hdrop]

/-! ## No tag goes on behind a text -/

theorem spaces?_append (hrest : OpensBrace rest) (s : Text) :
    spaces? (s ++ rest) = (spaces? s).map (· ++ rest) := by
  cases s with
  | nil =>
    cases rest with
    | nil => rfl
    | cons c rest => rw [hrest c rfl]; rfl
  | cons c s =>
    rw [List.cons_append, spaces?, spaces?, trimStart_append hrest]
    split <;> rfl

theorem declaredName?_append_brace (hrest : OpensBrace rest) (s : Text) :
    declaredName? (s ++ rest) =
      (declaredName? s).map fun (name, after) => (name, after ++ rest) := by
  have hbrace : inName '{' = false := by decide +kernel
  cases s with
  | nil =>
    cases rest with
    | nil => rfl
    | cons c rest =>
      have hletter : isLetter '{' = false := by decide +kernel
      rw [hrest c rfl]
      simp [declaredName?, hletter]
  | cons c s =>
    rw [List.cons_append, declaredName?, declaredName?]
    split
    · show some (c :: (s ++ rest).takeWhile inName, (s ++ rest).dropWhile inName) = _
      rw [takeWhile_append_brace hbrace hrest, dropWhile_append_brace hbrace hrest]
      rfl
    · rfl

/-- No tag that opens a block starts in a text and goes on behind it. -/
theorem component?_append (hrest : OpensBrace rest) {s : Text} (hs : s ≠ []) :
    component? (s ++ rest) = (component? s).map fun (name, after) => (name, after ++ rest) := by
  rw [component?, component?, keyword?_append (by decide) hrest hs]
  cases keyword? dash ['c', 'o', 'm', 'p', 'o', 'n', 'e', 'n', 't'] s with
  | none => rfl
  | some t =>
    simp only [Option.map_some, Option.bind_eq_bind, Option.bind_some, spaces?_append hrest]
    cases spaces? t with
    | none => rfl
    | some t =>
      simp only [Option.map_some, Option.bind_some, declaredName?_append_brace hrest]
      cases declaredName? t with
      | none => rfl
      | some read =>
        simp only [Option.map_some, Option.bind_some, tagEnd?_append hrest]
        cases tagEnd? dash read.2 <;> rfl

/-- No tag that closes a block starts in a text and goes on behind it. -/
theorem endComponent?_append (hrest : OpensBrace rest) {s : Text} (hs : s ≠ []) :
    endComponent? (s ++ rest) = (endComponent? s).map fun (u, after) => (u, after ++ rest) := by
  rw [endComponent?, endComponent?, bare?, bare?, keyword?_append (by decide) hrest hs]
  cases keyword? dash ['e', 'n', 'd', 'c', 'o', 'm', 'p', 'o', 'n', 'e', 'n', 't'] s with
  | none => rfl
  | some t =>
    simp only [Option.map_some, Option.bind_eq_bind, Option.bind_some, tagEnd?_append hrest]
    cases tagEnd? dash t <;> rfl

end Marker

open Marker

/-! ## Blocks as they are written -/

/-- A component block with the gap in front of it.  The gap opens no block, and the body holds
no tag that closes one.  A dash at the end of the opening tag stands apart from the name,
since it would be read as a part of it. -/
structure WrittenBlock where
  gap : Text
  opening : Spacing
  spaces : Text
  name : Text
  body : Text
  closing : Spacing
  gap_opens_none : Text.find? component? gap = none
  spaces_ne_nil : spaces ≠ []
  isVoid_spaces : Text.isVoid spaces = true
  isDeclaredName_name : isDeclaredName name = true
  dash_apart : opening.dashedEnd = true → opening.spacesEnd ≠ []
  body_closes_none : Text.find? endComponent? body = none

namespace WrittenBlock

/-- The tag that opens a block. -/
def openingTag (w : WrittenBlock) : Text := w.opening.tag (componentWord ++ (w.spaces ++ w.name))

/-- The text of a block and of the gap in front of it. -/
def source (w : WrittenBlock) : Text :=
  w.gap ++ (w.openingTag ++ (w.body ++ w.closing.tag endComponentWord))

theorem opensBrace_openingTag (w : WrittenBlock) (rest : Text) :
    Text.OpensBrace (w.openingTag ++ rest) :=
  w.opening.opensBrace_tag _ rest

/-- **The tag that opens a block is read**, whatever follows. -/
theorem component?_openingTag (w : WrittenBlock) (rest : Text) :
    component? (w.openingTag ++ rest) = some (w.name, rest) := by
  have hkeyword : keyword? dash componentWord (w.openingTag ++ rest) =
      some (w.spaces ++ (w.name ++ (w.opening.stop ++ rest))) := by
    rw [openingTag, Spacing.tag_append, List.append_assoc, List.append_assoc, componentWord,
      List.cons_append, keyword?_start w.opening _ (by decide) (by decide), ← List.cons_append]
    exact Text.dropPrefix?_eq_some.2 rfl
  have hspaces : spaces? (w.spaces ++ (w.name ++ (w.opening.stop ++ rest))) =
      some (w.name ++ (w.opening.stop ++ rest)) := by
    have hname := w.isDeclaredName_name
    cases hform : w.name with
    | nil =>
      rw [hform] at hname
      cases hname
    | cons c s =>
      rw [hform, isDeclaredName, Bool.and_eq_true] at hname
      exact spaces?_isVoid w.spaces_ne_nil w.isVoid_spaces (isSpace_of_isDeclared hname.1)
  have hstop : ∀ c ∈ (w.opening.stop ++ rest).head?, inName c = false := by
    intro c hc
    have hvoid := w.opening.isVoid_spacesEnd
    rw [Spacing.stop] at hc
    cases hends : w.opening.spacesEnd with
    | nil =>
      have hdash : w.opening.dashedEnd = false :=
        Bool.eq_false_iff.2 fun h => w.dash_apart h hends
      rw [hends, hdash] at hc
      rw [← Option.some.inj hc]
      decide +kernel
    | cons d spaces =>
      rw [hends, Text.isVoid, List.all_cons, Bool.and_eq_true] at hvoid
      rw [hends] at hc
      rw [← Option.some.inj hc]
      exact inName_of_isSpace hvoid.1
  rw [component?, ← componentWord, hkeyword]
  simp only [Option.bind_eq_bind, Option.bind_some, hspaces,
    declaredName?_append w.isDeclaredName_name hstop, tagEnd?_stop]
  rfl

/-- **A block is found** behind its gap, with its name and its body. -/
theorem find?_componentBlock? (w : WrittenBlock) (rest : Text) :
    Text.find? componentBlock? (w.source ++ rest) = some (w.gap, (w.name, w.body), rest) := by
  have hform : w.source ++ rest =
      w.gap ++ (w.openingTag ++ (w.body ++ (w.closing.tag endComponentWord ++ rest))) := by
    simp [source]
  have hclosing : endComponent? (w.closing.tag endComponentWord ++ rest) = some ((), rest) :=
    bare?_tag w.closing (by decide) (by decide) rest
  have hbody : Text.find? endComponent? (w.body ++ (w.closing.tag endComponentWord ++ rest)) =
      some (w.body, (), rest) := by
    refine Text.find?_append (fun u v huv hv => ?_) hclosing
    have hnone := Text.find?_eq_none w.body_closes_none u v huv
    rw [endComponent?_append (w.closing.opensBrace_tag _ _) hv, hnone, Option.map_none]
  rw [hform]
  refine Text.find?_append (fun u v huv hv => ?_) ?_
  · have hnone := Text.find?_eq_none w.gap_opens_none u v huv
    rw [componentBlock?, component?_append (w.opensBrace_openingTag _) hv, hnone]
    rfl
  · rw [componentBlock?, component?_openingTag]
    simp only [Option.bind_eq_bind, Option.bind_some, hbody]
    rfl

end WrittenBlock

namespace SourceUnit

/-- **The component blocks of a text are the ones that are written in it**, whatever stands in
the gaps. -/
theorem componentBlocks_source (blocks : List WrittenBlock) {last : Text}
    (hlast : Text.find? component? last = none) :
    componentBlocks (blocks.flatMap WrittenBlock.source ++ last) =
      blocks.map fun w => (w.name, w.body) := by
  induction blocks with
  | nil =>
    have hnone : Text.find? componentBlock? last = none := by
      rw [← List.append_nil last, Text.find?_skip fun u v huv _ => ?_]
      · rfl
      · rw [List.append_nil, componentBlock?, Text.find?_eq_none hlast u v huv]
        rfl
    rw [List.flatMap_nil, List.nil_append, componentBlocks, Text.pieces_of_none _ hnone]
    rfl
  | cons w blocks ih =>
    rw [List.flatMap_cons, List.append_assoc, componentBlocks,
      Text.pieces_of_some _ (w.find?_componentBlock? _)]
    show (w.name, w.body) :: componentBlocks _ = _
    rw [ih]
    rfl

/-- **Component blocks are extracted exactly.**  A unit that holds blocks declares their names,
in order, and its definitions are those of the blocks, each expanded for itself from its body:
the definitions of its slots, and then its own.  If one of these does not parse, the block is
kept verbatim.  Nothing depends on the gaps. -/
theorem expand_writtenBlocks {u : SourceUnit} {blocks : List WrittenBlock} {last : Text}
    (hne : blocks ≠ []) (hlast : Text.find? component? last = none)
    (hraw : u.raw = blocks.flatMap WrittenBlock.source ++ last) (r : Registry) :
    declaredNames u.raw = blocks.map WrittenBlock.name ∧
      (u.blocks r).map (fun b => (b.name, b.raw)) = blocks.map (fun w => (w.name, w.body)) ∧
      (u.expand r).definitions = (u.blocks r).flatMap (fun b => b.output.definitions) ∧
      ∀ before b after, u.blocks r = before ++ b :: after →
        b.expansion = Expansion.ofText r u.name (before.flatMap (·.slotNames)).length
          (expandMarkers b.raw) ∧
        b.output.definitions =
          if ExpandedUnit.fault? b.name b.expansion = none then b.rewritten
          else [⟨b.name, verbatim b.raw⟩] := by
  have hblocks : componentBlocks u.raw = blocks.map fun w => (w.name, w.body) := by
    rw [hraw, componentBlocks_source blocks hlast]
  have hdefinitions : u.rawDefinitions = blocks.map fun w => (w.name, w.body) := by
    cases blocks with
    | nil => exact absurd rfl hne
    | cons w blocks => rw [rawDefinitions, hblocks]; rfl
  refine ⟨?_, ?_, ?_, fun before b after h => ⟨?_, ?_⟩⟩
  · rw [declaredNames, hblocks, List.map_map]
    rfl
  · rw [SourceUnit.blocks, ExpandedUnit.blocks_map, hdefinitions]
  · rw [expand_eq_blocks]
  · have hexpansion := ExpandedUnit.blocks_expansion h
    rwa [Nat.zero_add] at hexpansion
  · rw [ExpandedBlock.output, ExpandedUnit.ofExpansion]
    split
    · rename_i hfault
      rw [if_pos hfault]
      rfl
    · rename_i fault hfault
      rw [if_neg (by rw [hfault]; simp)]

/-- Two blocks, with beginnings of tags in the gaps and at the end of a body, a body that opens
a block, and a name that ends in a dash. -/
def uiBlocks : List WrittenBlock :=
  [{ gap := "text \x7b% component X\x7b%".toList
     opening := ⟨true, [], ['\n'], true, Text.isVoid_nil, Text.isVoid_lineFeed⟩
     spaces := [' ', ' ']
     name := ['A', '-']
     body := "\x7b% component B %\x7d\x7b% endcomponent".toList
     closing := .plain
     gap_opens_none := by decide +kernel
     spaces_ne_nil := by decide
     isVoid_spaces := rfl
     isDeclaredName_name := by decide +kernel
     dash_apart := fun _ => by decide
     body_closes_none := by decide +kernel },
   { gap := []
     opening := .plain
     spaces := [' ']
     name := "Card.2".toList
     body := "<A->x</A->".toList
     closing := ⟨false, [], [], true, Text.isVoid_nil, Text.isVoid_nil⟩
     gap_opens_none := by decide +kernel
     spaces_ne_nil := by decide
     isVoid_spaces := Text.isVoid_space
     isDeclaredName_name := by decide +kernel
     dash_apart := fun h => absurd h (by decide)
     body_closes_none := by decide +kernel }]

/-- A unit that holds the two blocks, and the beginning of a third one. -/
def uiUnit : SourceUnit where
  path := "ui.html".toList
  name := ['u', 'i']
  raw := "text \x7b% component X\x7b%\x7b%-component  A-\n-%\x7d".toList ++
    "\x7b% component B %\x7d\x7b% endcomponent\x7b% endcomponent %\x7d".toList ++
    "\x7b% component Card.2 %\x7d<A->x</A->\x7b%endcomponent-%\x7d\x7b% component".toList

theorem expand_uiUnit :
    let r : Registry := ⟨[['A', '-'], "Card.2".toList]⟩
    let last := "\x7b% component".toList
    (uiBlocks ≠ [] ∧ Text.find? component? last = none ∧
        uiUnit.raw = uiBlocks.flatMap WrittenBlock.source ++ last) ∧
      declaredNames uiUnit.raw = [['A', '-'], "Card.2".toList] ∧
      (uiUnit.blocks r).map (fun b => (b.name, b.raw)) =
        uiBlocks.map (fun w => (w.name, w.body)) ∧
      (uiUnit.expand r).definitions.map Definition.name =
        [['A', '-'], "ui__A-__Slot__0".toList, "Card.2".toList] := by
  intro r last
  have hne : uiBlocks ≠ [] := List.cons_ne_nil _ _
  have hlast : Text.find? component? last = none := by decide +kernel
  have hraw : uiUnit.raw = uiBlocks.flatMap WrittenBlock.source ++ last := by decide +kernel
  obtain ⟨hnames, hblocks, -⟩ := expand_writtenBlocks hne hlast hraw r
  exact ⟨⟨hne, hlast, hraw⟩, hnames, hblocks, by decide +kernel⟩

end SourceUnit

end Componentry
