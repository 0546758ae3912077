import Componentry.Discovery
import Componentry.Proofs.Template.Maps
import Mathlib.Data.List.Infix

/-! # The common directory is the greatest one

Files that are given by their paths are named relative to the deepest directory that holds
them all.  Paths are compared by their components, so a directory holds a file if its
components are a start of those of the file's parent, and the deepest one is the greatest
common start (`Path.IsGreatestPrefix`).

* `Path.commonDir` cuts the first parent down until the other parents start with it.  What is
  cut off belongs to no common start (`Path.shrink_isGreatest`); and cutting gives up at the
  root and at the empty path only, where nothing else is left.
* The result is a text again.  It is read as the components that it was cut down to, because
  the path up to a component has the components up to it (`Path.parts_ofParts`).
* A greatest common start depends on which paths there are, and not on their order; and so do
  paths in order, each once (`Path.map_components_sortDistinct`), and with them the names of
  the units (`FileTree.unitNames_congr`).

Two ways to write one path have the same components and give a unit the same name, though
they need not lead to the same file: behind `a/`, for one, no file is read.  Of the two the
one that is given first is read.
-/
namespace Componentry

namespace Text

/-- The first piece is empty where the text starts with the separator, or is empty. -/
theorem eq_of_head?_splitAt {x : Char} {s : Text} (h : (splitAt x s).head? = some []) :
    s = [] ∨ ∃ rest, s = x :: rest := by
  cases s with
  | nil => exact Or.inl rfl
  | cons c s =>
    rw [splitAt] at h
    split at h
    · rename_i hc
      exact Or.inr ⟨s, by rw [hc]⟩
    · split at h <;> simp at h

end Text

namespace Path

/-! ## A part of a path is a path -/

/-- Where the components of a path end within it. -/
theorem partsFrom_prefix {before : Text} {pieces : List Text} {front : List (PathComponent × Path)}
    (h : front <+: partsFrom before pieces) (hne : front ≠ []) :
    ∃ k, pieces.take k ≠ [] ∧ front = partsFrom before (pieces.take k) ∧
      ofParts front = before ++ Text.join ['/'] (pieces.take k) := by
  induction pieces generalizing before front with
  | nil => exact absurd (List.prefix_nil.1 h) hne
  | cons piece pieces ih =>
    have hjoin : ∀ k, pieces.take k ≠ [] → Text.join ['/'] ((piece :: pieces).take (k + 1)) =
        piece ++ '/' :: Text.join ['/'] (pieces.take k) := by
      intro k hk
      rw [List.take_succ_cons]
      obtain ⟨next, more, hmore⟩ := List.exists_cons_of_ne_nil hk
      rw [hmore]
      simp [Text.join]
    rw [partsFrom] at h
    cases hc : component? piece with
    | none =>
      simp only [hc] at h
      obtain ⟨k, hk, hfront, htext⟩ := ih h hne
      refine ⟨k + 1, by simp, ?_, ?_⟩
      · rw [List.take_succ_cons, partsFrom, hc]
        exact hfront
      · rw [htext, hjoin k hk]
        simp
    | some c =>
      simp only [hc] at h
      obtain ⟨part, front, rfl⟩ := List.exists_cons_of_ne_nil hne
      obtain ⟨rfl, hrest⟩ := List.cons_prefix_cons.1 h
      cases front with
      | nil =>
        refine ⟨1, by simp, ?_, ?_⟩
        · simp [partsFrom, hc]
        · simp [ofParts, Text.join]
      | cons part front =>
        obtain ⟨k, hk, hfront, htext⟩ := ih hrest (by simp)
        refine ⟨k + 1, by simp, ?_, ?_⟩
        · rw [List.take_succ_cons, partsFrom, hc]
          simp only [hfront]
        · have hlast : ofParts ((c, before ++ piece) :: part :: front) = ofParts (part :: front) := by
            simp [ofParts]
          rw [hlast, htext, hjoin k hk]
          simp

/-! ### The three ways a path starts -/

theorem parts_root (rest : Text) :
    parts ('/' :: rest) = (.root, ['/']) :: partsFrom ['/'] (Text.splitAt '/' rest) := rfl

theorem parts_current {path : Path} {more : List Text} (h : Text.splitAt '/' path = ['.'] :: more) :
    parts path = (.current, ['.']) :: partsFrom ['.', '/'] more := by
  unfold parts
  split
  · -- a path from the root has an empty first piece
    simp [Text.splitAt] at h
  · simp only [h]

theorem parts_plain {path : Path} (hroot : (Text.splitAt '/' path).head? ≠ some [])
    (hcurrent : (Text.splitAt '/' path).head? ≠ some ['.']) :
    parts path = partsFrom [] (Text.splitAt '/' path) := by
  unfold parts
  split
  · simp [Text.splitAt_cons_self] at hroot
  · split
    · rename_i hsplit
      simp [hsplit] at hcurrent
    · rfl

theorem ofParts_cons {part : PathComponent × Path} {front : List (PathComponent × Path)}
    (h : front ≠ []) : ofParts (part :: front) = ofParts front := by
  obtain ⟨next, front, rfl⟩ := List.exists_cons_of_ne_nil h
  simp [ofParts]

/-- A path that goes on behind its first component.  `hmore` says how the paths are read that
end at a later one. -/
theorem parts_ofParts_cons {first : PathComponent × Path} {before : Text} {pieces : List Text}
    (hfirst : parts first.2 = [first])
    (hmore : ∀ k, pieces.take k ≠ [] →
      parts (before ++ Text.join ['/'] (pieces.take k)) = first :: partsFrom before (pieces.take k))
    {front : List (PathComponent × Path)} (h : front <+: first :: partsFrom before pieces) :
    parts (ofParts front) = front := by
  cases front with
  | nil => rfl
  | cons part front =>
    obtain ⟨rfl, hrest⟩ := List.cons_prefix_cons.1 h
    by_cases hfront : front = []
    · subst hfront
      exact hfirst
    · obtain ⟨k, hk, hparts, htext⟩ := partsFrom_prefix hrest hfront
      rw [ofParts_cons hfront, htext, hmore k hk, hparts]

/-- **The path up to a component of a path has the components up to it.** -/
theorem parts_ofParts {path : Path} {front : List (PathComponent × Path)}
    (h : front <+: parts path) : parts (ofParts front) = front := by
  by_cases hroot : (Text.splitAt '/' path).head? = some []
  · rcases Text.eq_of_head?_splitAt hroot with rfl | ⟨rest, rfl⟩
    · rw [List.prefix_nil.1 h]
      rfl
    · refine parts_ofParts_cons rfl (fun k hk => ?_) h
      rw [List.singleton_append, parts_root, Text.splitAt_join (fun piece hpiece =>
        Text.notMem_of_mem_splitAt (List.mem_of_mem_take hpiece)) hk]
  by_cases hcurrent : (Text.splitAt '/' path).head? = some ['.']
  · obtain ⟨more, hsplit⟩ := List.head?_eq_some_iff.1 hcurrent
    rw [parts_current hsplit] at h
    refine parts_ofParts_cons rfl (fun k hk => ?_) h
    have hdot : '/' ∉ (['.'] : Text) := by simp
    have hjoined := Text.splitAt_append_cons hdot (Text.join ['/'] (more.take k))
    rw [Text.splitAt_join (fun piece hpiece => Text.notMem_of_mem_splitAt
      (hsplit ▸ List.mem_cons_of_mem _ (List.mem_of_mem_take hpiece))) hk] at hjoined
    exact parts_current hjoined
  · rw [parts_plain hroot hcurrent] at h
    by_cases hne : front = []
    · subst hne
      rfl
    obtain ⟨k, hk, hparts, htext⟩ := partsFrom_prefix h hne
    have hjoined : Text.splitAt '/' (ofParts front) = (Text.splitAt '/' path).take k := by
      rw [htext, List.nil_append, Text.splitAt_join (fun piece hpiece =>
        Text.notMem_of_mem_splitAt (List.mem_of_mem_take hpiece)) hk]
    -- The path starts as the whole one does.
    have hhead : (Text.splitAt '/' (ofParts front)).head? = (Text.splitAt '/' path).head? := by
      rw [hjoined, List.head?_take, if_neg (by rintro rfl; simp at hk)]
    rw [parts_plain (hhead ▸ hroot) (hhead ▸ hcurrent), hjoined, hparts]

/-! ## Parents -/

/-- The parent directory of a path; the root and the empty path have none. -/
def parent? (path : Path) : Option Path := (parentParts? (parts path)).map ofParts

/-- Only the first component can be the root. -/
theorem eq_nil_of_parts_eq_root {path : Path} {before after : List (PathComponent × Path)}
    {upTo : Path} (h : parts path = before ++ (.root, upTo) :: after) : before = [] := by
  have hfrom : ∀ (front : Text) (pieces : List Text) (upTo : Path),
      (PathComponent.root, upTo) ∉ partsFrom front pieces := by
    intro front pieces upTo
    induction pieces generalizing front with
    | nil => simp [partsFrom]
    | cons piece pieces ih =>
      rw [partsFrom]
      cases hc : component? piece with
      | none => exact ih _
      | some c =>
        have hroot : PathComponent.root ≠ c := by
          rintro rfl
          unfold component? at hc
          split at hc <;> cases hc
        simp [hroot, ih]
  cases before with
  | nil => rfl
  | cons part before =>
    unfold parts at h
    split at h
    · exact absurd (by rw [(List.cons.inj h).2]; simp) (hfrom ['/'] _ upTo)
    · split at h
      · exact absurd (by rw [(List.cons.inj h).2]; simp) (hfrom ['.', '/'] _ upTo)
      · exact absurd (by rw [h]; simp) (hfrom [] _ upTo)

theorem eq_root_of_getLast? {path : Path} {front : List (PathComponent × Path)} {upTo : Path}
    (h : front <+: parts path) (hlast : front.getLast? = some (.root, upTo)) :
    front = [(.root, upTo)] := by
  obtain ⟨before, rfl⟩ := List.getLast?_eq_some_iff.1 hlast
  obtain ⟨after, hafter⟩ := h
  rw [List.append_assoc, List.singleton_append] at hafter
  rw [eq_nil_of_parts_eq_root hafter.symm, List.nil_append]

/-- Where there is no parent, nothing is left without the last component. -/
theorem parentParts?_cases {path : Path} {front : List (PathComponent × Path)}
    (h : front <+: parts path) :
    parentParts? front = some front.dropLast ∨
      parentParts? front = none ∧ front.dropLast = [] := by
  unfold parentParts?
  split
  · rename_i hlast
    rw [List.getLast?_eq_none_iff.1 hlast]
    exact Or.inr ⟨rfl, rfl⟩
  · rename_i upTo hlast
    rw [eq_root_of_getLast? h hlast]
    exact Or.inr ⟨rfl, rfl⟩
  · exact Or.inl rfl

theorem getD_parentParts? {path : Path} {front : List (PathComponent × Path)}
    (h : front <+: parts path) : (parentParts? front).getD [] = front.dropLast := by
  rcases parentParts?_cases h with hparent | ⟨hparent, hnil⟩
  · rw [hparent]
    rfl
  · rw [hparent, hnil]
    rfl

/-- **The components of the directory that holds a path.** -/
theorem components_parent (path : Path) :
    components ((parent? path).getD []) = (components path).dropLast := by
  have hparent : (parent? path).getD [] = ofParts ((parentParts? (parts path)).getD []) := by
    unfold parent?
    cases parentParts? (parts path) <;> rfl
  rw [hparent, getD_parentParts? List.prefix_rfl, components,
    parts_ofParts (List.dropLast_prefix _), components, List.map_dropLast]

/-! ## The greatest common start -/

/-- A list that all lists start with, and that every such list is a start of. -/
structure IsGreatestPrefix (lists : List (List PathComponent)) (common : List PathComponent) :
    Prop where
  isPrefix : ∀ l ∈ lists, common <+: l
  greatest : ∀ q, (∀ l ∈ lists, q <+: l) → q <+: common

namespace IsGreatestPrefix

variable {lists lists' : List (List PathComponent)} {common common' : List PathComponent}

/-- It is told by which lists there are, and not by their order. -/
theorem unique (h : IsGreatestPrefix lists common) (h' : IsGreatestPrefix lists' common')
    (hlists : ∀ l, l ∈ lists ↔ l ∈ lists') : common = common' := by
  have hle := h'.greatest common fun l hl => h.isPrefix l ((hlists l).2 hl)
  have hge := h.greatest common' fun l hl => h'.isPrefix l ((hlists l).1 hl)
  exact hle.eq_of_length (hle.length_le.antisymm hge.length_le)

theorem singleton (l : List PathComponent) : IsGreatestPrefix [l] l :=
  ⟨by simp, fun q hq => hq l (by simp)⟩

/-- One more list. -/
theorem snoc (h : IsGreatestPrefix lists common) {l : List PathComponent}
    (h' : IsGreatestPrefix [common, l] common') : IsGreatestPrefix (lists ++ [l]) common' := by
  refine ⟨fun l' hl' => ?_, fun q hq => h'.greatest q fun l' hl' => ?_⟩
  · rcases List.mem_append.1 hl' with hl' | hl'
    · exact (h'.isPrefix common (by simp)).trans (h.isPrefix l' hl')
    · exact h'.isPrefix l' (by simp_all)
  · rcases List.mem_cons.1 hl' with rfl | hl'
    · exact h.greatest q fun l' hl' => hq l' (by simp [hl'])
    · exact hq l' (by simp_all)

end IsGreatestPrefix

theorem shrink_eq (parent : List PathComponent) (common : List (PathComponent × Path)) :
    shrink parent common =
      if startsWith parent (common.map Prod.fst) then some common
      else (parentParts? common).bind (shrink parent) := by
  rw [shrink]
  split
  · rfl
  · split
    · rename_i h
      rw [h]
      rfl
    · rename_i h
      simp only [h, Option.bind_some]

/-- **Shrinking stops at the greatest common start**; where it gives up, nothing is
common. -/
theorem shrink_isGreatest {path : Path} {common : List (PathComponent × Path)}
    (h : common <+: parts path) (parent : List PathComponent) :
    (shrink parent common).getD [] <+: parts path ∧
      IsGreatestPrefix [common.map Prod.fst, parent]
        (((shrink parent common).getD []).map Prod.fst) := by
  induction common using List.reverseRecOn with
  | nil =>
    have hstart : startsWith parent (([] : List (PathComponent × Path)).map Prod.fst) = true := by
      simp [startsWith]
    rw [shrink_eq, if_pos hstart]
    exact ⟨h, by simp, fun q hq => hq _ (by simp)⟩
  | append_singleton front part ih =>
    rw [shrink_eq]
    by_cases hstart : startsWith parent ((front ++ [part]).map Prod.fst) = true
    · rw [if_pos hstart]
      rw [startsWith, List.isPrefixOf_iff_prefix] at hstart
      exact ⟨h, by simpa using hstart, fun q hq => hq _ (by simp)⟩
    · rw [if_neg hstart]
      rw [startsWith, List.isPrefixOf_iff_prefix] at hstart
      -- What both start with is shorter than what has been tried.
      have hshorter : ∀ q, (∀ l ∈ [(front ++ [part]).map Prod.fst, parent], q <+: l) →
          ∀ l ∈ [front.map Prod.fst, parent], q <+: l := by
        intro q hq
        simp only [List.mem_cons, List.not_mem_nil, or_false, forall_eq_or_imp, forall_eq,
          List.map_append, List.map_cons, List.map_nil] at hq hstart ⊢
        refine ⟨?_, hq.2⟩
        rcases List.prefix_concat_iff.1 hq.1 with rfl | hfront
        · exact absurd hq.2 hstart
        · exact hfront
      have hlonger : front.map Prod.fst <+: (front ++ [part]).map Prod.fst := by simp
      rcases parentParts?_cases h with hparent | ⟨hparent, hnil⟩
      · rw [hparent, List.dropLast_concat, Option.bind_some]
        obtain ⟨hpath, hcommon, hgreatest⟩ := ih ((List.prefix_append front [part]).trans h)
        refine ⟨hpath, ?_, fun q hq => hgreatest q (hshorter q hq)⟩
        simp only [List.mem_cons, List.not_mem_nil, or_false, forall_eq_or_imp, forall_eq]
          at hcommon ⊢
        exact ⟨hcommon.1.trans hlonger, hcommon.2⟩
      · rw [List.dropLast_concat] at hnil
        subst hnil
        rw [hparent]
        exact ⟨List.nil_prefix, by simp, fun q hq => hshorter q hq [] (by simp)⟩

theorem foldlM_shrink {path : Path} (parents : List (List (PathComponent × Path)))
    {common : List (PathComponent × Path)} (h : common <+: parts path)
    {lists : List (List PathComponent)} (hcommon : IsGreatestPrefix lists (common.map Prod.fst)) :
    let result := (parents.foldlM (fun common parent => shrink (parent.map Prod.fst) common)
      common).getD []
    result <+: parts path ∧
      IsGreatestPrefix (lists ++ parents.map (·.map Prod.fst)) (result.map Prod.fst) := by
  induction parents generalizing common lists with
  | nil => simpa using ⟨h, hcommon⟩
  | cons parent parents ih =>
    obtain ⟨hpath, hshrink⟩ := shrink_isGreatest h (parent.map Prod.fst)
    cases hs : shrink (parent.map Prod.fst) common with
    | none =>
      rw [hs] at hshrink
      simp only [List.foldlM_cons, hs, Option.bind_eq_bind, Option.bind_none, Option.getD_none]
      refine ⟨List.nil_prefix, by simp, fun q hq => ?_⟩
      exact (hcommon.snoc hshrink).greatest q fun l hl => hq l (by simp at hl ⊢; tauto)
    | some shorter =>
      rw [hs] at hpath hshrink
      simp only [List.foldlM_cons, hs, Option.bind_eq_bind, Option.bind_some]
      have := ih hpath (hcommon.snoc hshrink)
      simpa using this

/-- **The common directory is the greatest common start of the parents.** -/
theorem commonDir_isGreatestPrefix {paths : List Path} (hne : paths ≠ []) :
    IsGreatestPrefix (paths.map fun path => (components path).dropLast)
      (components (commonDir paths)) := by
  obtain ⟨path, paths, rfl⟩ := List.exists_cons_of_ne_nil hne
  have hparts : ∀ path : Path, (parentParts? (parts path)).getD [] = (parts path).dropLast :=
    fun _ => getD_parentParts? List.prefix_rfl
  have hcommon : commonDir (path :: paths) =
      ofParts (((paths.map fun path => (parts path).dropLast).foldlM
        (fun common parent => shrink (parent.map Prod.fst) common) (parts path).dropLast).getD []) := by
    simp only [commonDir, List.map_cons, hparts]
  obtain ⟨hparts', hgreatest⟩ := foldlM_shrink (paths.map fun path => (parts path).dropLast)
    (List.dropLast_prefix (parts path)) (.singleton _)
  rw [hcommon, components, parts_ofParts hparts']
  simpa [components, List.map_dropLast, Function.comp_def] using hgreatest

end Path

/-! ## The order of paths -/

namespace PathComponent

/-- The name of a component, empty if it has none. -/
def nameText (c : PathComponent) : Text := c.name?.getD []

theorem order_eq_then (a b : PathComponent) :
    a.order b = (compare a.rank b.rank).then (Text.order a.nameText b.nameText) := by
  cases a <;> cases b <;> simp [order, rank, nameText, name?, Text.order] <;> rfl

instance : Std.TransCmp PathComponent.order := by
  have : Std.TransCmp fun a b : PathComponent => Text.order a.nameText b.nameText :=
    { eq_swap := Std.OrientedCmp.eq_swap, isLE_trans := Std.TransCmp.isLE_trans }
  have hlex : PathComponent.order =
      compareLex (compareOn rank) fun a b => Text.order a.nameText b.nameText :=
    funext fun a => funext fun b => order_eq_then a b
  rw [hlex]
  infer_instance

instance : Std.LawfulEqCmp PathComponent.order where
  compare_self := Std.ReflCmp.compare_self
  eq_of_compare {a b} h := by
    rw [order_eq_then, Ordering.then_eq_eq, Nat.compare_eq_eq] at h
    have hname := Text.eq_of_order h.2
    cases a <;> cases b <;> simp_all [rank, nameText, name?]

end PathComponent

namespace Path

theorem order_eq_compareLex (a b : List PathComponent) :
    order a b = List.compareLex PathComponent.order a b := by
  induction a generalizing b with
  | nil => cases b <;> rfl
  | cons c a ih =>
    cases b with
    | nil => rfl
    | cons d b => rw [order, ih, List.compareLex_cons_cons]

instance : Std.TransCmp Path.order := by
  rw [funext fun a => funext fun b => order_eq_compareLex a b]
  infer_instance

instance : Std.LawfulEqCmp Path.order := by
  rw [funext fun a => funext fun b => order_eq_compareLex a b]
  infer_instance

theorem order_self (a : List PathComponent) : order a a = .eq := Std.ReflCmp.compare_self

theorem order_swap (a b : List PathComponent) : (order a b).swap = order b a :=
  Std.OrientedCmp.eq_swap.symm

/-! ## Paths in order, each once -/

theorem dropRepeated_sublist (paths : List Path) : (dropRepeated paths).Sublist paths := by
  induction paths with
  | nil => exact .slnil
  | cons path paths ih =>
    rw [dropRepeated]
    split
    · exact (List.nil_sublist paths).cons_cons path
    · rename_i next rest hrest
      rw [hrest] at ih
      split
      · exact ((List.sublist_cons_self next rest).trans ih).cons_cons path
      · exact ih.cons_cons path

/-- Only repetitions are dropped. -/
theorem mem_dropRepeated {cs : List PathComponent} {paths : List Path} :
    cs ∈ (dropRepeated paths).map components ↔ cs ∈ paths.map components := by
  induction paths with
  | nil => rfl
  | cons path paths ih =>
    rw [dropRepeated, List.map_cons, List.mem_cons, ← ih]
    split
    · rename_i hrest
      simp [hrest]
    · rename_i next rest hrest
      rw [hrest]
      split
      · rename_i heq
        simp [heq]
      · simp

/-- Of paths in order none stands twice. -/
theorem pairwise_dropRepeated {paths : List Path}
    (h : paths.Pairwise fun p q => (order (components p) (components q)).isLE = true) :
    ((dropRepeated paths).map components).Pairwise fun a b => order a b = .lt := by
  induction paths with
  | nil => exact .nil
  | cons path paths ih =>
    rw [List.pairwise_cons] at h
    have hrest := ih h.2
    have hsub := dropRepeated_sublist paths
    rw [dropRepeated]
    split
    · simp
    · rename_i next rest heq
      rw [heq] at hrest hsub
      rw [List.map_cons, List.pairwise_cons] at hrest
      split
      · rename_i hsame
        rw [List.map_cons, hsame]
        exact List.pairwise_cons.2 hrest
      · rename_i hother
        have hnext : order (components path) (components next) = .lt := by
          have hle := h.1 next (hsub.subset (by simp))
          cases ho : order (components path) (components next) with
          | lt => rfl
          | eq => exact absurd (Std.LawfulEqCmp.eq_of_compare ho) hother
          | gt => rw [ho] at hle; cases hle
        rw [List.map_cons, List.pairwise_cons, List.map_cons]
        refine ⟨fun cs hcs => ?_, List.pairwise_cons.2 hrest⟩
        rcases List.mem_cons.1 hcs with rfl | hcs
        · exact hnext
        · exact Std.TransCmp.lt_trans hnext (hrest.1 cs hcs)

theorem mem_sortDistinct {cs : List PathComponent} {paths : List Path} :
    cs ∈ (sortDistinct paths).map components ↔ cs ∈ paths.map components := by
  rw [sortDistinct, mem_dropRepeated]
  simp only [List.mem_map, List.mem_mergeSort]

theorem sortDistinct_subset (paths : List Path) : sortDistinct paths ⊆ paths := fun _ h =>
  List.mem_mergeSort.1 ((dropRepeated_sublist _).subset h)

/-- **Sorted paths are told by which ones there are.** -/
theorem map_components_sortDistinct {paths paths' : List Path}
    (h : ∀ cs, cs ∈ paths'.map components ↔ cs ∈ paths.map components) :
    (sortDistinct paths').map components = (sortDistinct paths).map components := by
  have hsorted : ∀ paths : List Path,
      ((sortDistinct paths).map components).Pairwise fun a b => order a b = .lt := fun paths =>
    pairwise_dropRepeated (List.pairwise_mergeSort (fun _ _ _ => Std.TransCmp.isLE_trans)
      (fun a b => by
        rw [← order_swap (components a) (components b)]
        cases order (components a) (components b) <;> rfl) paths)
  have hnodup : ∀ paths : List Path, ((sortDistinct paths).map components).Nodup := fun paths =>
    (hsorted paths).imp fun hlt heq => by
      rw [heq, order_self] at hlt
      cases hlt
  refine List.Perm.eq_of_pairwise (fun a b _ _ hab hba => ?_) (hsorted paths') (hsorted paths)
    ((List.perm_ext_iff_of_nodup (hnodup paths') (hnodup paths)).2 fun cs => ?_)
  · rw [← order_swap b a, hba] at hab
    cases hab
  · rw [mem_sortDistinct, mem_sortDistinct, h]

/-- The common directory is told by which paths there are. -/
theorem components_commonDir_congr {paths paths' : List Path} (hne : paths ≠ [])
    (h : ∀ cs, cs ∈ paths'.map components ↔ cs ∈ paths.map components) :
    components (commonDir paths') = components (commonDir paths) := by
  have hne' : paths' ≠ [] := by
    rintro rfl
    obtain ⟨path, paths, rfl⟩ := List.exists_cons_of_ne_nil hne
    simpa using (h (components path)).2 (by simp)
  refine (commonDir_isGreatestPrefix hne').unique (commonDir_isGreatestPrefix hne) fun cs => ?_
  have hmap : ∀ paths : List Path, (paths.map fun path => (components path).dropLast) =
      (paths.map components).map List.dropLast := fun paths => by
    rw [List.map_map]
    rfl
  rw [hmap, hmap, List.mem_map, List.mem_map]
  exact exists_congr fun cs => and_congr_left fun _ => h cs

/-- Paths in order are the same paths, where each is written in one way. -/
theorem sortDistinct_congr {paths paths' : List Path}
    (h : ∀ cs, cs ∈ paths'.map components ↔ cs ∈ paths.map components)
    (hwritten : ∀ path ∈ paths, ∀ path' ∈ paths', components path' = components path → path' = path) :
    sortDistinct paths' = sortDistinct paths := by
  have hmap := map_components_sortDistinct h
  refine List.ext_getElem (by simpa using congrArg List.length hmap) fun n hn hn' => ?_
  refine hwritten _ (sortDistinct_subset _ (List.getElem_mem hn')) _
    (sortDistinct_subset _ (List.getElem_mem hn)) ?_
  have hn'' : n < ((sortDistinct paths').map components).length := by simpa using hn
  simpa using List.getElem_of_eq hmap hn''

end Path

/-! ## Loaded units -/

namespace FileTree

/-- The logical name of a file below a directory. -/
def unitName (root path : Path) : Text :=
  Path.logicalName (Path.relativeTo (Path.components root) (Path.components path))

theorem readUnit_name {tree : FileTree} {root path : Path} {u : SourceUnit}
    (h : tree.readUnit root path = .ok u) : u.name = unitName root path := by
  rw [readUnit] at h
  split at h
  · cases h
  · cases h
    rfl

theorem mapM_readUnit_names {tree : FileTree} {root : Path} {paths : List Path}
    {units : List SourceUnit} (h : paths.mapM (tree.readUnit root) = .ok units) :
    units.map SourceUnit.name = paths.map (unitName root) := by
  induction paths generalizing units with
  | nil =>
    cases h
    rfl
  | cons path paths ih =>
    rw [List.mapM_cons] at h
    cases hunit : tree.readUnit root path with
    | error fault => rw [hunit] at h; cases h
    | ok u =>
      cases hunits : paths.mapM (tree.readUnit root) with
      | error fault => rw [hunit, hunits] at h; cases h
      | ok units' =>
        rw [hunit, hunits] at h
        cases h
        rw [List.map_cons, List.map_cons, readUnit_name hunit, ih hunits]

theorem mapM_readUnit_isOk {tree : FileTree} {paths : List Path}
    (h : ∀ path ∈ paths, ∃ raw, tree.readText path = .ok raw) (root : Path) :
    ∃ units, paths.mapM (tree.readUnit root) = .ok units := by
  induction paths with
  | nil => exact ⟨[], rfl⟩
  | cons path paths ih =>
    rw [List.forall_mem_cons] at h
    obtain ⟨raw, hraw⟩ := h.1
    obtain ⟨units, hunits⟩ := ih h.2
    refine ⟨⟨path, unitName root path, raw⟩ :: units, ?_⟩
    rw [List.mapM_cons, hunits, readUnit, hraw]
    rfl

/-- The names of the units of paths, in the order in which they are loaded. -/
def unitNames (paths : List Path) : List Text :=
  (Path.sortDistinct paths).map (unitName (Path.commonDir (Path.sortDistinct paths)))

theorem loadUnits_names {tree : FileTree} {paths : List Path} {units : List SourceUnit}
    (h : tree.loadUnits paths = .ok units) : units.map SourceUnit.name = unitNames paths :=
  mapM_readUnit_names h

theorem loadUnits_isOk {tree : FileTree} {paths : List Path}
    (h : ∀ path ∈ paths, ∃ raw, tree.readText path = .ok raw) :
    ∃ units, tree.loadUnits paths = .ok units :=
  mapM_readUnit_isOk (fun path hpath => h path (Path.sortDistinct_subset _ hpath)) _

/-- The names of units are told by which paths there are. -/
theorem unitNames_congr {paths paths' : List Path}
    (h : ∀ cs, cs ∈ paths'.map Path.components ↔ cs ∈ paths.map Path.components) :
    unitNames paths' = unitNames paths := by
  have hmap := Path.map_components_sortDistinct h
  have hnames : ∀ paths : List Path, unitNames paths =
      ((Path.sortDistinct paths).map Path.components).map fun cs => Path.logicalName
        (Path.relativeTo (Path.components (Path.commonDir (Path.sortDistinct paths))) cs) := by
    intro paths
    rw [List.map_map]
    rfl
  by_cases hnil : Path.sortDistinct paths = []
  · have hnil' : Path.sortDistinct paths' = [] := by simpa [hnil] using hmap
    rw [unitNames, unitNames, hnil, hnil']
  · rw [hnames, hnames, hmap, Path.components_commonDir_congr hnil fun cs => by rw [hmap]]

end FileTree

namespace Path

/-- **The common directory is the greatest one.**  It holds every one of the paths, and every
path that holds them all is a start of it.  It is the same for all lists of the same paths, in
any order and with any repetitions, and then the units that are loaded from two such lists
have the same names.  They are loaded from both if every path can be read; and where each path
is written in one way, it is the same units, or the same fault. -/
theorem commonDir_greatest (paths : List Path) (hne : paths ≠ []) :
    (∀ path ∈ paths, components (commonDir paths) <+: components ((parent? path).getD [])) ∧
    (∀ dir : Path, (∀ path ∈ paths, components dir <+: components ((parent? path).getD [])) →
      components dir <+: components (commonDir paths)) ∧
    ∀ paths' : List Path, (∀ cs, cs ∈ paths'.map components ↔ cs ∈ paths.map components) →
      components (commonDir paths') = components (commonDir paths) ∧
      ∀ tree : FileTree,
        (∀ units units', tree.loadUnits paths = .ok units → tree.loadUnits paths' = .ok units' →
          units'.map SourceUnit.name = units.map SourceUnit.name) ∧
        ((∀ path ∈ paths ++ paths', ∃ raw, tree.readText path = .ok raw) →
          ∃ units units', tree.loadUnits paths = .ok units ∧ tree.loadUnits paths' = .ok units') ∧
        ((∀ path ∈ paths, ∀ path' ∈ paths', components path' = components path → path' = path) →
          tree.loadUnits paths' = tree.loadUnits paths) := by
  have hgreatest := commonDir_isGreatestPrefix hne
  simp only [components_parent]
  refine ⟨fun path hpath => hgreatest.isPrefix _ (List.mem_map_of_mem hpath), fun dir hdir => ?_, ?_⟩
  · refine hgreatest.greatest _ fun l hl => ?_
    obtain ⟨path, hpath, rfl⟩ := List.mem_map.1 hl
    exact hdir path hpath
  · intro paths' hsame
    refine ⟨components_commonDir_congr hne hsame, fun tree => ⟨?_, ?_, ?_⟩⟩
    · intro units units' hunits hunits'
      rw [FileTree.loadUnits_names hunits, FileTree.loadUnits_names hunits',
        FileTree.unitNames_congr hsame]
    · intro hread
      obtain ⟨units, hunits⟩ := FileTree.loadUnits_isOk fun path hpath =>
        hread path (List.mem_append_left _ hpath)
      obtain ⟨units', hunits'⟩ := FileTree.loadUnits_isOk fun path hpath =>
        hread path (List.mem_append_right _ hpath)
      exact ⟨units, units', hunits, hunits'⟩
    · intro hwritten
      rw [FileTree.loadUnits, FileTree.loadUnits, sortDistinct_congr hsame hwritten]

/-- A tree that holds two files. -/
def twoFiles : FileTree :=
  (FileTree.empty.addFile ["a".toList, "x".toList, "p".toList] [65]).addFile
    ["a".toList, "y".toList, "q".toList] [66]

set_option maxRecDepth 100000 in
/-- Two files below the root, one of them with a separator too many on its way; and the same
files in another order, one of them twice. -/
theorem commonDir_greatest_below :
    (["/a/x/p".toList, "/a//y/q".toList] : List Path) ≠ [] ∧
      components (commonDir ["/a/x/p".toList, "/a//y/q".toList]) = [.root, .normal ['a']] ∧
      (∀ dir : Path, (∀ path ∈ ["/a/x/p".toList, "/a//y/q".toList],
          components dir <+: components ((parent? path).getD [])) →
        components dir <+: [.root, .normal ['a']]) ∧
      (∀ cs, cs ∈ ["/a//y/q".toList, "/a/x/p".toList, "/a//y/q".toList].map components ↔
        cs ∈ ["/a/x/p".toList, "/a//y/q".toList].map components) ∧
      components (commonDir ["/a//y/q".toList, "/a/x/p".toList, "/a//y/q".toList]) =
        [.root, .normal ['a']] ∧
      ∃ units, twoFiles.loadUnits ["/a/x/p".toList, "/a//y/q".toList] = .ok units ∧
        twoFiles.loadUnits ["/a//y/q".toList, "/a/x/p".toList, "/a//y/q".toList] = .ok units := by
  have hne : (["/a/x/p".toList, "/a//y/q".toList] : List Path) ≠ [] := by simp
  have hcommon : components (commonDir ["/a/x/p".toList, "/a//y/q".toList]) =
      [.root, .normal ['a']] := by decide +kernel
  have hsame : ∀ cs, cs ∈ ["/a//y/q".toList, "/a/x/p".toList, "/a//y/q".toList].map components ↔
      cs ∈ ["/a/x/p".toList, "/a//y/q".toList].map components := by
    simp only [List.map_cons, List.map_nil, List.mem_cons, List.not_mem_nil, or_false]
    grind
  have hwritten : ∀ path ∈ ["/a/x/p".toList, "/a//y/q".toList],
      ∀ path' ∈ ["/a//y/q".toList, "/a/x/p".toList, "/a//y/q".toList],
        components path' = components path → path' = path := by decide +kernel
  have hread : ∀ path ∈ ["/a/x/p".toList, "/a//y/q".toList] ++
      ["/a//y/q".toList, "/a/x/p".toList, "/a//y/q".toList],
        ∃ raw, twoFiles.readText path = .ok raw := by
    have hp : twoFiles.readText "/a/x/p".toList = .ok ['A'] := by rfl
    have hq : twoFiles.readText "/a//y/q".toList = .ok ['B'] := by rfl
    simp only [List.cons_append, List.nil_append, List.forall_mem_cons]
    exact ⟨⟨_, hp⟩, ⟨_, hq⟩, ⟨_, hq⟩, ⟨_, hp⟩, ⟨_, hq⟩, by simp⟩
  obtain ⟨-, hgreatest, horder⟩ := commonDir_greatest _ hne
  obtain ⟨hcommon', hload⟩ := horder _ hsame
  obtain ⟨-, hloaded, hequal⟩ := hload twoFiles
  obtain ⟨units, -, hunits, -⟩ := hloaded hread
  refine ⟨hne, hcommon, fun dir hdir => ?_, hsame, hcommon'.trans hcommon, units, hunits,
    (hequal hwritten).trans hunits⟩
  rw [← hcommon]
  exact hgreatest dir hdir

end Path

end Componentry
