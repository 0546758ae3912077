import Componentry.Proofs.Template.Running

/-! # What a run may still need

Code from elsewhere is run one level deeper, and a host has only so many levels.  A scope
**needs** fewer of them the deeper its frames nest and the more templates it has extended
(`Scope.need`).  What statements do to a scope leaves its frames as many as they were, and the
templates left no more (`Scope.Leads`), so a scope that fits a number of levels still fits
them behind a statement (`Scope.Fits.leads`).  One frame deeper fewer levels are needed,
whatever has been extended (`Scope.need_lt`).
-/
namespace Componentry.Template

/-! ## What is left -/

namespace Scope

variable {names : List Text} {s t u : Scope}

/-- How many of the named templates have not been extended, and whether one that has been is
still to be run. -/
def left (names : List Text) (s : Scope) : Nat :=
  (names.filter fun name => !s.loaded.contains name).length + if s.parent.isSome then 1 else 0

/-- A bound on how many jumps, one out of another, can start in a scope. -/
def need (names : List Text) (s : Scope) : Nat :=
  (recursionLimit + 1 - s.nesting) * (names.length + 2) + s.left names

theorem left_le (names : List Text) (s : Scope) : s.left names ≤ names.length + 1 := by
  have hfilter := List.length_filter_le (fun name => !s.loaded.contains name) names
  unfold left
  split <;> omega

/-- **Deeper frames need less**, if there may be deeper ones at all. -/
theorem need_lt (hlimit : s.nesting ≤ recursionLimit) (hdeeper : s.nesting < t.nesting) :
    t.need names < s.need names := by
  have hleft := left_le names t
  have hlevels : recursionLimit + 1 - t.nesting + 1 ≤ recursionLimit + 1 - s.nesting := by omega
  have hmul := Nat.mul_le_mul_right (names.length + 2) hlevels
  rw [Nat.succ_mul] at hmul
  unfold need
  omega

/-- What comes of a scope has as many frames, and no more templates left. -/
structure Leads (names : List Text) (s t : Scope) : Prop where
  depth : t.depth = s.depth
  frames : t.frames.length = s.frames.length
  left : t.left names ≤ s.left names

namespace Leads

theorem refl (s : Scope) : s.Leads names s := ⟨rfl, rfl, Nat.le_refl _⟩

theorem trans (h : s.Leads names t) (h' : t.Leads names u) : s.Leads names u :=
  ⟨h'.depth.trans h.depth, h'.frames.trans h.frames, Nat.le_trans h'.left h.left⟩

theorem nesting (h : s.Leads names t) : t.nesting = s.nesting := by
  rw [Scope.nesting, Scope.nesting, h.depth, h.frames]

theorem need (h : s.Leads names t) : t.need names ≤ s.need names := by
  unfold Scope.need
  rw [h.nesting]
  exact Nat.add_le_add_left h.left _

theorem frames_ne_nil (h : s.Leads names t) (hs : s.frames ≠ []) : t.frames ≠ [] := by
  have hpos := List.length_pos_iff.2 hs
  rw [← h.frames] at hpos
  exact List.length_pos_iff.1 hpos

end Leads

/-- A scope whose jumps are fewer than the levels. -/
structure Fits (names : List Text) (levels : Nat) (s : Scope) : Prop where
  frames : s.frames ≠ []
  need : s.need names < levels

theorem Fits.leads {levels : Nat} (h : s.Fits names levels) (hst : s.Leads names t) :
    t.Fits names levels :=
  ⟨hst.frames_ne_nil h.frames, Nat.lt_of_le_of_lt hst.need h.need⟩

/-! ## Changes -/

theorem length_modifyFrame (hs : s.frames ≠ []) (f : Frame → Frame) :
    (s.modifyFrame f).frames.length = s.frames.length := by
  unfold modifyFrame
  split
  · rename_i hnil
    exact absurd hnil hs
  · rename_i frame more hframes
    rw [hframes]
    rfl

theorem modifyFrame_left (s : Scope) (f : Frame → Frame) :
    (s.modifyFrame f).left names = s.left names := by
  unfold modifyFrame
  split <;> rfl

theorem modifyFrame_depth (s : Scope) (f : Frame → Frame) : (s.modifyFrame f).depth = s.depth := by
  unfold modifyFrame
  split <;> rfl

theorem leads_modifyFrame (hs : s.frames ≠ []) (f : Frame → Frame) :
    s.Leads names (s.modifyFrame f) :=
  ⟨modifyFrame_depth s f, length_modifyFrame hs f, Nat.le_of_eq (modifyFrame_left s f)⟩

theorem modifyFrame_parent (s : Scope) (f : Frame → Frame) :
    (s.modifyFrame f).parent = s.parent := by
  unfold modifyFrame
  split <;> rfl

theorem leads_encloseEntry (s : Scope) (number : Nat) (x : Text) (e : Enclosed) :
    s.Leads names (s.encloseEntry number x e) := ⟨rfl, rfl, Nat.le_refl _⟩

theorem leads_set (hs : s.frames ≠ []) (x : Text) (v : Value) : s.Leads names (s.set x v) := by
  unfold set
  dsimp only
  split
  · exact (leads_modifyFrame hs _).trans (leads_encloseEntry ..)
  · exact leads_modifyFrame hs _

theorem leads_enclose (s : Scope) (number : Nat) (x : Text) :
    s.Leads names (s.enclose number x) := by
  unfold enclose
  split
  · exact .refl s
  · split
    · exact leads_encloseEntry ..
    · exact .refl s

theorem leads_encloseAll (number : Nat) (xs : List Text) :
    ∀ s : Scope, s.Leads names (xs.foldl (enclose number) s) := by
  induction xs with
  | nil => exact .refl
  | cons x xs ih => exact fun s => (leads_enclose s number x).trans (ih _)

/-- Behind a scope one frame deeper the frame is closed. -/
theorem Leads.pop {frame : Frame} (h : (s.push frame).Leads names t) : s.Leads names t.pop := by
  refine ⟨h.depth, ?_, h.left⟩
  have hframes := h.frames
  simp only [push, List.length_cons] at hframes
  simp [Scope.pop, hframes]

theorem need_push_lt (hlimit : s.nesting ≤ recursionLimit) (frame : Frame) :
    (s.push frame).need names < s.need names :=
  need_lt hlimit (by simp [nesting, push])

/-! ### Other templates -/

/-- Once a template is extended, fewer are left. -/
theorem length_unloaded_lt {name : Text} (hname : name ∈ names) {loaded : List Text}
    (hloaded : loaded.contains name = false) :
    (names.filter fun n => !(name :: loaded).contains n).length <
      (names.filter fun n => !loaded.contains n).length := by
  have hfilter : (names.filter fun n => !(name :: loaded).contains n) =
      (names.filter fun n => !loaded.contains n).filter fun n => !decide (n = name) := by
    rw [List.filter_filter]
    refine List.filter_congr fun n _ => ?_
    simp
  rw [hfilter, List.length_filter_lt_length_iff_exists]
  exact ⟨name, List.mem_filter.2 ⟨hname, by rw [hloaded]; rfl⟩, by simp⟩

/-- A template that is extended is no longer left, but is to be run. -/
theorem leads_extend {name : Text} (hname : name ∈ names)
    (hloaded : s.loaded.contains name = false) (hparent : s.parent = none) (body : List Stmt) :
    s.Leads names (s.extend name body) := by
  have hless := length_unloaded_lt hname hloaded
  have hleft : (s.extend name body).left names =
      (names.filter fun n => !(name :: s.loaded).contains n).length + 1 := rfl
  have hbefore : s.left names = (names.filter fun n => !s.loaded.contains n).length := by
    rw [left, hparent]
    rfl
  exact ⟨rfl, rfl, by omega⟩

/-- Behind a template that is included all is as it was, if it extended nothing for good. -/
theorem leads_behindIncluded (hs : s.frames ≠ []) {body : List Stmt}
    (h : (s.included body).Leads names t) (hparent : t.parent = s.parent) :
    s.Leads names (s.behindIncluded t) := by
  have hframes : t.frames.length = s.frames.length := h.frames.trans (length_modifyFrame hs _)
  have ht : t.frames ≠ [] := by
    have hpos := List.length_pos_iff.2 hs
    rw [← hframes] at hpos
    exact List.length_pos_iff.1 hpos
  refine ⟨rfl, (length_modifyFrame ht _).trans hframes, ?_⟩
  simp only [left, behindIncluded, modifyFrame_parent, hparent]
  exact Nat.le_refl _

end Scope

end Componentry.Template
