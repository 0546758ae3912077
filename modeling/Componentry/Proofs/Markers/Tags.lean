import Componentry.Proofs.Markup.Markers

/-! # Tags of keywords, as they are written

A tag of a keyword is written with any spaces in it, and with or without a dash at either
delimiter (`Spacing`).  Whatever the spacing, its keyword is read at its start
(`keyword?_start`) and nothing but its end at its end (`tagEnd?_stop`).

Readers of such tags read no brace behind the first one.  So a text in which no tag starts
has none either where another tag follows: what follows opens with a brace (`OpensBrace`),
and a reader stops there (`keyword?_append`).
-/
namespace Componentry

namespace Text

/-- Nothing follows, or what follows opens with a brace. -/
def OpensBrace (rest : Text) : Prop := ∀ c ∈ rest.head?, c = '{'

theorem opensBrace_nil : OpensBrace [] := fun _ h => by cases h

theorem opensBrace_cons (s : Text) : OpensBrace ('{' :: s) := fun _ h => (Option.some.inj h).symm

theorem isVoid_nil : isVoid [] = true := rfl

theorem isVoid_space : isVoid [' '] = true := rfl

theorem isVoid_lineFeed : isVoid ['\n'] = true := rfl

variable {rest : Text}

theorem dropPrefix?_append {p : Text} (hp : '{' ∉ p) (hrest : OpensBrace rest) (s : Text) :
    dropPrefix? p (s ++ rest) = (dropPrefix? p s).map (· ++ rest) := by
  induction p generalizing s with
  | nil => rfl
  | cons a p ih =>
    simp only [List.mem_cons, not_or] at hp
    cases s with
    | nil =>
      cases rest with
      | nil => rfl
      | cons c rest =>
        have hc : a ≠ c := fun h => hp.1 ((hrest c rfl).symm.trans h.symm)
        simp [dropPrefix?, hc]
    | cons b s =>
      rw [List.cons_append, dropPrefix?, dropPrefix?]
      by_cases h : a = b
      · rw [if_pos h, if_pos h, ih hp.2]
      · rw [if_neg h, if_neg h, Option.map_none]

theorem dropWhile_append_brace {p : Char → Bool} (hp : p '{' = false) (hrest : OpensBrace rest)
    (s : Text) : (s ++ rest).dropWhile p = s.dropWhile p ++ rest := by
  induction s with
  | nil =>
    cases rest with
    | nil => rfl
    | cons c rest =>
      rw [hrest c rfl, List.nil_append, List.dropWhile_cons_of_neg (by simp [hp])]
      rfl
  | cons d s ih =>
    rw [List.cons_append, List.dropWhile_cons, List.dropWhile_cons]
    by_cases h : p d = true
    · rw [if_pos h, if_pos h, ih]
    · rw [if_neg h, if_neg h, List.cons_append]

theorem trimStart_append (hrest : OpensBrace rest) (s : Text) :
    trimStart (s ++ rest) = trimStart s ++ rest :=
  dropWhile_append_brace (by decide) hrest s

/-- Spaces in front of something else are trimmed off. -/
theorem trimStart_isVoid {spaces s : Text} (h : isVoid spaces = true)
    (hs : ∀ c ∈ s.head?, isSpace c = false) : trimStart (spaces ++ s) = s := by
  have hspaces : ∀ c ∈ spaces, isSpace c = true := List.all_eq_true.1 h
  rw [trimStart, List.dropWhile_append_of_pos hspaces]
  cases s with
  | nil => rfl
  | cons c s => rw [List.dropWhile_cons_of_neg (by simp [hs c rfl])]

end Text

namespace Marker

open Text

variable {rest word : Text}

/-! ## Spacing -/

/-- A dash, if there is one. -/
def dashText (dashed : Bool) : Text := if dashed then ['-'] else []

/-- The white space of a tag: the dash and the spaces next to either delimiter. -/
structure Spacing where
  dashedStart : Bool
  spacesStart : Text
  spacesEnd : Text
  dashedEnd : Bool
  isVoid_spacesStart : isVoid spacesStart = true
  isVoid_spacesEnd : isVoid spacesEnd = true

namespace Spacing

/-- One space at either end, and no dashes. -/
def plain : Spacing := ⟨false, [' '], [' '], false, isVoid_space, isVoid_space⟩

/-- The start of a tag, up to its keyword. -/
def start (w : Spacing) : Text := '{' :: '%' :: (dashText w.dashedStart ++ w.spacesStart)

/-- The end of a tag, behind what it says. -/
def stop (w : Spacing) : Text := w.spacesEnd ++ (dashText w.dashedEnd ++ ['%', '}'])

/-- The tag that says something. -/
def tag (w : Spacing) (said : Text) : Text := w.start ++ said ++ w.stop

theorem opensBrace_tag (w : Spacing) (said rest : Text) : OpensBrace (w.tag said ++ rest) :=
  opensBrace_cons _

theorem tag_append (w : Spacing) (said rest : Text) :
    w.tag said ++ rest = w.start ++ (said ++ (w.stop ++ rest)) := by
  simp [tag]

end Spacing

theorem dropMark_dashText (dashed : Bool) {s : Text} (hs : ∀ c ∈ s.head?, c ≠ '-') :
    dropMark dash (dashText dashed ++ s) = s := by
  cases dashed with
  | true => rfl
  | false =>
    cases s with
    | nil => rfl
    | cons c s => simp [dashText, dropMark, dash, hs c rfl]

/-! ## Reading a tag -/

/-- Behind the start of a tag its keyword is looked for. -/
theorem keyword?_start (w : Spacing) (word : Text) {c : Char} {s : Text}
    (hspace : isSpace c = false) (hdash : c ≠ '-') :
    keyword? dash word (w.start ++ (c :: s)) = dropPrefix? word (c :: s) := by
  have hhead : ∀ d ∈ (w.spacesStart ++ (c :: s)).head?, d ≠ '-' := by
    intro d hd
    cases hspaces : w.spacesStart with
    | nil =>
      rw [hspaces] at hd
      exact Option.some.inj hd ▸ hdash
    | cons e spaces =>
      have hvoid := w.isVoid_spacesStart
      rw [hspaces] at hd hvoid
      have he := List.all_eq_true.1 hvoid e (by simp)
      rw [Option.some.inj hd] at he
      rintro rfl
      exact absurd he (by decide)
  have htrim : trimStart (w.spacesStart ++ (c :: s)) = c :: s :=
    trimStart_isVoid w.isVoid_spacesStart fun d hd => Option.some.inj hd ▸ hspace
  have hform : w.start ++ (c :: s) =
      '{' :: '%' :: (dashText w.dashedStart ++ (w.spacesStart ++ (c :: s))) := by
    simp [Spacing.start]
  rw [hform, keyword?, dropMark_dashText _ hhead, htrim]

/-- What stands at the end of a tag behind the spaces. -/
theorem trimStart_stop (w : Spacing) (rest : Text) :
    trimStart (w.stop ++ rest) = dashText w.dashedEnd ++ ('%' :: '}' :: rest) := by
  have hform : w.stop ++ rest = w.spacesEnd ++ (dashText w.dashedEnd ++ ('%' :: '}' :: rest)) := by
    simp [Spacing.stop]
  rw [hform]
  refine trimStart_isVoid w.isVoid_spacesEnd fun c hc => ?_
  cases hdash : w.dashedEnd <;>
    · rw [hdash] at hc
      rw [← Option.some.inj hc]
      decide

/-- **The end of a tag is read**, whatever follows. -/
theorem tagEnd?_stop (w : Spacing) (rest : Text) : tagEnd? dash (w.stop ++ rest) = some rest := by
  have hhead : ∀ c ∈ ('%' :: '}' :: rest).head?, c ≠ '-' := fun c hc =>
    Option.some.inj hc ▸ (by decide)
  rw [tagEnd?, trimStart_stop, dropMark_dashText _ hhead]
  rfl

/-- The end of a tag does not start with a given character that is no space, dash or percent
sign. -/
theorem dropPrefix?_stop (w : Spacing) {c : Char} (s rest : Text) (hdash : c ≠ '-')
    (hpercent : c ≠ '%') : dropPrefix? (c :: s) (trimStart (w.stop ++ rest)) = none := by
  rw [trimStart_stop]
  cases w.dashedEnd <;> simp [dashText, dropPrefix?, hdash, hpercent]

/-- **A tag that says its keyword and nothing else is read.** -/
theorem bare?_tag (w : Spacing) {c : Char} {s : Text} (hspace : isSpace c = false) (hdash : c ≠ '-')
    (rest : Text) : bare? dash (c :: s) (w.tag (c :: s) ++ rest) = some ((), rest) := by
  have hkeyword : keyword? dash (c :: s) (w.tag (c :: s) ++ rest) = some (w.stop ++ rest) := by
    rw [Spacing.tag_append, List.cons_append, keyword?_start w _ hspace hdash, ← List.cons_append]
    exact dropPrefix?_eq_some.2 rfl
  rw [bare?, hkeyword, Option.bind_eq_bind, Option.bind_some, tagEnd?_stop]
  rfl

/-- Spaces are read, if there are any. -/
theorem spaces?_isVoid {spaces : Text} (hne : spaces ≠ []) (h : isVoid spaces = true) {c : Char}
    {s : Text} (hc : isSpace c = false) : spaces? (spaces ++ (c :: s)) = some (c :: s) := by
  cases spaces with
  | nil => exact absurd rfl hne
  | cons d spaces =>
    rw [isVoid, List.all_cons, Bool.and_eq_true] at h
    have htrim : trimStart (spaces ++ (c :: s)) = c :: s :=
      trimStart_isVoid h.2 fun e he => Option.some.inj he ▸ hc
    rw [List.cons_append, spaces?, if_pos h.1, htrim]

theorem eq_trimStart_of_spaces? {s t : Text} (h : spaces? s = some t) : t = trimStart s := by
  cases s with
  | nil => cases h
  | cons c s =>
    rw [spaces?] at h
    split at h
    · rename_i hc
      rw [← Option.some.inj h, trimStart, trimStart, List.dropWhile_cons_of_pos hc]
    · cases h

/-! ## Reading as far as a brace -/

theorem dropMark_append (hrest : OpensBrace rest) (s : Text) :
    dropMark dash (s ++ rest) = dropMark dash s ++ rest := by
  cases s with
  | nil =>
    cases rest with
    | nil => rfl
    | cons c rest => rw [hrest c rfl]; rfl
  | cons c s =>
    rw [List.cons_append, dropMark, dropMark]
    split <;> rfl

/-- No tag starts in a text and goes on behind it. -/
theorem keyword?_append (hword : '{' ∉ word) (hrest : OpensBrace rest) {s : Text} (hs : s ≠ []) :
    keyword? dash word (s ++ rest) = (keyword? dash word s).map (· ++ rest) := by
  match s, hs with
  | [c], _ =>
    by_cases hc : c = '{'
    · subst hc
      cases rest with
      | nil => rfl
      | cons d rest => rw [hrest d rfl]; rfl
    · rw [List.singleton_append, keyword?_ne hc, keyword?_ne hc, Option.map_none]
  | c :: d :: s, _ =>
    by_cases hc : c = '{'
    · by_cases hd : d = '%'
      · subst hc hd
        rw [List.cons_append, List.cons_append, keyword?, keyword?, dropMark_append hrest,
          trimStart_append hrest, dropPrefix?_append hword hrest]
      · subst hc
        rw [List.cons_append, List.cons_append, keyword?_brace hd, keyword?_brace hd,
          Option.map_none]
    · rw [List.cons_append, keyword?_ne hc, keyword?_ne hc, Option.map_none]

theorem tagEnd?_append (hrest : OpensBrace rest) (s : Text) :
    tagEnd? dash (s ++ rest) = (tagEnd? dash s).map (· ++ rest) := by
  rw [tagEnd?, tagEnd?, trimStart_append hrest, dropMark_append hrest,
    dropPrefix?_append (by decide) hrest]

end Marker

end Componentry
