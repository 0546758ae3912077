import Componentry.Proofs.Coupling.Runs

/-! # Scopes that two runs share

Two runs that are compared set the same variables, so they share their scopes.  A scope is
**good** under a setting if its variables hold trusted values, and its names and code pass the
tests of the setting (`Scope.Good`).  Everything that statements do to scopes keeps them good.
-/
namespace Componentry.Template

variable {S : Setting}

/-! ## Good scopes -/

/-- A variable that may be set. -/
def Setting.Variable (S : Setting) (x : Text × Value) : Prop :=
  S.tests.name x.1 = true ∧ x.2.Trusted S.policy

/-- A loop whose variable holds a trusted value, and whose code passes the tests. -/
structure LoopFrame.Good (S : Setting) (l : LoopFrame) : Prop where
  value : ∀ v, l.value = some v → v.Trusted S.policy
  code : ∀ loop, l.code = some loop → loop.passes S.tests = true

/-- A frame with good variables. -/
structure Frame.Good (S : Setting) (f : Frame) : Prop where
  vars : ∀ x ∈ f.vars, S.Variable x
  loop : ∀ l, f.loop = some l → l.Good S

/-- A closure with good variables. -/
def Closure.Good (S : Setting) (c : Closure) : Prop :=
  ∀ x v, (x, Enclosed.value v) ∈ c.entries → S.Variable (x, v)

/-- A scope with good variables and code. -/
structure Scope.Good (S : Setting) (s : Scope) : Prop where
  frames : ∀ f ∈ s.frames, f.Good S
  closures : ∀ c ∈ s.closures, c.Good S
  blocks : ∀ b ∈ s.blocks, ∀ l ∈ b.layers, Stmt.allOf S.tests l.body = true
  parent : ∀ body, s.parent = some body → Stmt.allOf S.tests body = true

theorem Frame.good_empty : Frame.empty.Good S := ⟨by simp [Frame.empty], by simp [Frame.empty]⟩

/-- A frame that only has a loop. -/
theorem Frame.good_ofLoop {l : LoopFrame} (h : l.Good S) :
    Frame.Good S { Frame.empty with loop := some l } := by
  refine ⟨by simp [Frame.empty], fun l' hl => ?_⟩
  cases hl
  exact h

namespace Scope

/-- What is found under a name stands there under this name. -/
theorem mem_of_find? {α : Type} {x : Text} {entries : List (Text × α)} {a : α}
    (h : (entries.find? fun (n, _) => n = x).map Prod.snd = some a) : (x, a) ∈ entries := by
  obtain ⟨⟨y, b⟩, hfind, rfl⟩ := Option.map_eq_some_iff.1 h
  have hname := List.find?_some (p := fun e : Text × α => decide (e.1 = x)) hfind
  have heq : y = x := of_decide_eq_true hname
  exact heq ▸ List.mem_of_find?_eq_some hfind

theorem good_start (name : Text) {blocks : List BlockStack}
    (h : ∀ b ∈ blocks, ∀ l ∈ b.layers, Stmt.allOf S.tests l.body = true) :
    (start name blocks).Good S :=
  ⟨List.forall_mem_singleton.2 Frame.good_empty, by simp [start], h, by simp [start]⟩

namespace Good

variable {s : Scope}

/-! ## Names -/

theorem frame? (h : s.Good S) {x : Text} {v : Value}
    (hv : s.frames.findSome? (Frame.lookup? x) = some v) : S.Variable (x, v) := by
  obtain ⟨f, hf, hfound⟩ := List.exists_of_findSome?_eq_some hv
  rcases Option.or_eq_some_iff.1 hfound with hvar | ⟨-, hloop⟩
  · exact (h.frames f hf).vars _ (mem_of_find? hvar)
  · obtain ⟨rfl, hloop⟩ := Option.ite_none_right_eq_some.1 hloop
    obtain ⟨l, hl, hvalue⟩ := Option.bind_eq_some_iff.1 hloop
    have hnamed : Function.named? Keyword.kLoop.text = none := by decide
    exact ⟨Setting.name_of_named hnamed, ((h.frames f hf).loop l hl).value v hvalue⟩

theorem enclosed? (h : s.Good S) {number : Nat} {x : Text} {v : Value}
    (hv : s.enclosed? number x = some (.value v)) : S.Variable (x, v) := by
  obtain ⟨c, hc, hentry⟩ := Option.bind_eq_some_iff.1 hv
  exact h.closures c (List.mem_of_find?_eq_some hc) x v (mem_of_find? hentry)

/-- **A variable holds a trusted value**, and its name is one that may be set. -/
theorem sight (h : s.Good S) {x : Text} {v : Value} (hv : s.sight x = .value v) :
    S.Variable (x, v) := by
  unfold Scope.sight at hv
  split at hv
  · rename_i w hw
    cases hv
    exact h.frame? hw
  · split at hv
    · cases hv
    · split at hv
      · rename_i w hw
        cases hv
        exact h.enclosed? hw
      · cases hv
      · cases hv

/-- What a name calls: a variable, what the data have, a function, or nothing that can be
called. -/
theorem callee? (h : s.Good S) {data : Value} {x : Text} {v : Value}
    (hv : s.callee? data x = some v) :
    S.Variable (x, v) ∨ (∃ w, data.member? x = some w ∧ v = w.asCallee) ∨
      (∃ f, Function.named? x = some f ∧ v = .function f) ∨ v = .undefined := by
  unfold Scope.callee? at hv
  cases hsight : s.sight x with
  | value w =>
    rw [hsight] at hv
    cases hv
    exact Or.inl (h.sight hsight)
  | data enclosed =>
    rw [hsight] at hv
    rcases Option.or_eq_some_iff.1 hv with hdata | ⟨-, hundefined⟩
    · obtain ⟨w, hw, rfl⟩ := Option.map_eq_some_iff.1 hdata
      rcases Option.or_eq_some_iff.1 hw with hmember | ⟨-, hnamed⟩
      · exact Or.inr (Or.inl ⟨w, hmember, rfl⟩)
      · obtain ⟨f, hf, rfl⟩ := Option.map_eq_some_iff.1 hnamed
        exact Or.inr (Or.inr (Or.inl ⟨f, hf, rfl⟩))
    · obtain ⟨-, hundefined⟩ := Option.ite_none_right_eq_some.1 hundefined
      cases hundefined
      exact Or.inr (Or.inr (Or.inr rfl))
  | nothing =>
    rw [hsight] at hv
    obtain ⟨f, hf, rfl⟩ := Option.map_eq_some_iff.1 hv
    exact Or.inr (Or.inr (Or.inl ⟨f, hf, rfl⟩))

theorem taken? (h : s.Good S) {x : Text} {v : Value} (hv : s.taken? x = some (.value v)) :
    S.Variable (x, v) := by
  unfold Scope.taken? at hv
  split at hv
  · rename_i w hw
    cases hv
    exact h.sight hw
  · cases hv
  · obtain ⟨hnone, hv⟩ := Option.ite_none_left_eq_some.1 hv
    cases hv
    rw [Bool.not_eq_true, Option.isSome_eq_false_iff, Option.isNone_iff_eq_none] at hnone
    exact ⟨Setting.name_of_named hnone, .undefined⟩

theorem allVars (h : s.Good S) : ∀ x ∈ s.allVars, S.Variable x := by
  intro x hx
  obtain ⟨f, hf, hx⟩ := List.mem_flatMap.1 (List.mem_reverse.1 hx)
  exact (h.frames f hf).vars x hx

theorem frameVars (h : s.Good S) : ∀ x ∈ s.frameVars, S.Variable x := by
  unfold Scope.frameVars
  cases hframes : s.frames with
  | nil => simp
  | cons f more => exact (h.frames f (by simp [hframes])).vars

theorem innermostLoop? (h : s.Good S) {l : LoopFrame} (hl : s.innermostLoop? = some l) :
    l.Good S := by
  obtain ⟨f, hf, hloop⟩ := List.exists_of_findSome?_eq_some hl
  exact (h.frames f hf).loop l hloop

theorem block? (h : s.Good S) {name : Text} {b : BlockStack} (hb : s.block? name = some b) :
    ∀ l ∈ b.layers, Stmt.allOf S.tests l.body = true :=
  h.blocks b (List.mem_of_find?_eq_some hb)

/-! ## Changes -/

theorem modifyFrame (h : s.Good S) {f : Frame → Frame} (hf : ∀ frame, frame.Good S →
    (f frame).Good S) : (s.modifyFrame f).Good S := by
  have hframes := h.frames
  unfold Scope.modifyFrame
  split
  · exact ⟨List.forall_mem_singleton.2 (hf _ Frame.good_empty), h.closures, h.blocks, h.parent⟩
  · rename_i frame more heq
    rw [heq, List.forall_mem_cons] at hframes
    exact ⟨List.forall_mem_cons.2 ⟨hf _ hframes.1, hframes.2⟩, h.closures, h.blocks, h.parent⟩

theorem encloseEntry (h : s.Good S) (number : Nat) {x : Text} {e : Enclosed}
    (he : ∀ v, e = .value v → S.Variable (x, v)) : (s.encloseEntry number x e).Good S := by
  refine ⟨h.frames, fun c hc => ?_, h.blocks, h.parent⟩
  obtain ⟨c', hc', rfl⟩ := List.mem_map.1 hc
  have hgood := h.closures c' hc'
  split
  · intro y v hmem
    rcases List.mem_cons.1 hmem with heq | hmem
    · cases heq
      exact he v rfl
    · exact hgood y v hmem
  · exact hgood

theorem set (h : s.Good S) {x : Text} {v : Value} (hx : S.Variable (x, v)) : (s.set x v).Good S := by
  have hframe := h.modifyFrame (f := fun f => { f with vars := (x, v) :: f.vars })
    fun frame hframe => ⟨List.forall_mem_cons.2 ⟨hx, hframe.vars⟩, hframe.loop⟩
  unfold Scope.set
  dsimp only
  split
  · exact hframe.encloseEntry _ fun w hw => by
      cases hw
      exact hx
  · exact hframe

theorem setLoop (h : s.Good S) {v : Value} (hv : v.Trusted S.policy) : (s.setLoop v).Good S := by
  refine h.modifyFrame fun frame hframe => ⟨hframe.vars, fun l hl => ?_⟩
  obtain ⟨l', hl', rfl⟩ := Option.map_eq_some_iff.1 hl
  refine ⟨fun w hw => ?_, (hframe.loop l' hl').code⟩
  cases hw
  exact hv

theorem push (h : s.Good S) {frame : Frame} (hframe : frame.Good S) : (s.push frame).Good S :=
  ⟨List.forall_mem_cons.2 ⟨hframe, h.frames⟩, h.closures, h.blocks, h.parent⟩

theorem pop (h : s.Good S) : s.pop.Good S :=
  ⟨fun f hf => h.frames f (List.mem_of_mem_tail hf), h.closures, h.blocks, h.parent⟩

theorem enclose (h : s.Good S) (number : Nat) (x : Text) : (s.enclose number x).Good S := by
  unfold Scope.enclose
  split
  · exact h
  · split
    · rename_i e he
      exact h.encloseEntry number fun v hv => h.taken? (hv ▸ he)
    · exact h

theorem encloseAll (h : s.Good S) (number : Nat) (names : List Text) :
    (names.foldl (Scope.enclose number) s).Good S := by
  induction names generalizing s with
  | nil => exact h
  | cons x names ih => exact ih (h.enclose number x)

theorem addClosure (h : s.Good S) (number : Nat) : (s.addClosure number).Good S :=
  ⟨h.frames, List.forall_mem_cons.2 ⟨fun _ _ hmem => (List.not_mem_nil hmem).elim, h.closures⟩,
    h.blocks, h.parent⟩

theorem inMacro (h : s.Good S) (closure : Nat) {caller : Option Value}
    (hcaller : ∀ v, caller = some v → v.Trusted S.policy) : (s.inMacro closure caller).Good S := by
  refine ⟨List.forall_mem_singleton.2 ⟨fun x hx => ?_, by simp [Frame.empty]⟩, h.closures,
    by simp [Scope.inMacro], by simp [Scope.inMacro]⟩
  obtain ⟨v, hv, rfl⟩ := Option.map_eq_some_iff.1 (Option.mem_toList.1 hx)
  have hnamed : Function.named? Macro.callerName = none := by decide
  exact ⟨Setting.name_of_named hnamed, hcaller v hv⟩

theorem setBlock (h : s.Good S) {b : BlockStack}
    (hb : ∀ l ∈ b.layers, Stmt.allOf S.tests l.body = true) : (s.setBlock b).Good S := by
  refine ⟨h.frames, h.closures, fun c hc => ?_, h.parent⟩
  obtain ⟨c', hc', rfl⟩ := List.mem_map.1 hc
  split
  · exact hb
  · exact h.blocks c' hc'

theorem addLayers {blocks : List BlockStack} {b : BlockStack}
    (h : ∀ c ∈ blocks, ∀ l ∈ c.layers, Stmt.allOf S.tests l.body = true)
    (hb : ∀ l ∈ b.layers, Stmt.allOf S.tests l.body = true) :
    ∀ c ∈ Scope.addLayers b blocks, ∀ l ∈ c.layers, Stmt.allOf S.tests l.body = true := by
  induction blocks with
  | nil => exact List.forall_mem_singleton.2 hb
  | cons c blocks ih =>
    rw [List.forall_mem_cons] at h
    rw [Scope.addLayers]
    split
    · refine List.forall_mem_cons.2 ⟨fun l hl => ?_, h.2⟩
      exact (List.mem_append.1 hl).elim (h.1 l) (hb l)
    · exact List.forall_mem_cons.2 ⟨h.1, ih h.2⟩

theorem extend (h : s.Good S) (name : Text) {body : List Stmt}
    (hbody : Stmt.allOf S.tests body = true) : (s.extend name body).Good S := by
  have hblocks := Stmt.all_of_mem_allBlocks hbody
  refine ⟨h.frames, h.closures, ?_, fun body' hbody' => ?_⟩
  · -- The blocks of the parent are added one by one.
    have hfold : ∀ more blocks : List BlockStack,
        (∀ b ∈ more, ∀ l ∈ b.layers, Stmt.allOf S.tests l.body = true) →
          (∀ b ∈ blocks, ∀ l ∈ b.layers, Stmt.allOf S.tests l.body = true) →
            ∀ b ∈ more.foldl (fun blocks b => Scope.addLayers b blocks) blocks,
              ∀ l ∈ b.layers, Stmt.allOf S.tests l.body = true := by
      intro more
      induction more with
      | nil => exact fun _ _ hblocks => hblocks
      | cons b more ih =>
        intro blocks hmore hblocks
        rw [List.forall_mem_cons] at hmore
        exact ih _ hmore.2 (addLayers hblocks hmore.1)
    exact hfold _ _ hblocks h.blocks
  · cases hbody'
    exact hbody

theorem included (h : s.Good S) {body : List Stmt} (hbody : Stmt.allOf S.tests body = true) :
    (s.included body).Good S := by
  have hframe := h.modifyFrame (f := fun f => { f with closure := none })
    fun frame hframe => ⟨hframe.vars, hframe.loop⟩
  exact ⟨hframe.frames, hframe.closures, Stmt.all_of_mem_allBlocks hbody, hframe.parent⟩

theorem behindIncluded (h : s.Good S) {before : Scope} (hbefore : before.Good S) :
    (before.behindIncluded s).Good S := by
  have hframe := h.modifyFrame (f := fun f => { f with closure := before.frameClosure? })
    fun frame hframe => ⟨hframe.vars, hframe.loop⟩
  exact ⟨hframe.frames, hframe.closures, hbefore.blocks, hframe.parent⟩

/-- What is not a variable and no code may be anything. -/
theorem withOthers (h : s.Good S) (closure : Option Nat) (escaping : Bool) (block : Option Text)
    (loaded : List Text) (discarding : Bool) (depth : Nat) :
    Scope.Good S { s with closure, escaping, block, loaded, discarding, depth } :=
  ⟨h.frames, h.closures, h.blocks, h.parent⟩

theorem withParent (h : s.Good S) {parent : Option (List Stmt)}
    (hparent : ∀ body, parent = some body → Stmt.allOf S.tests body = true) :
    Scope.Good S { s with parent } := ⟨h.frames, h.closures, h.blocks, hparent⟩

end Good

end Scope

/-! ## Runs with variables -/

/-- Two runs with variables go alike from every good scope: they give the same result, which
has a property, and leave the same good scope behind. -/
def CoupleIn {α : Type} (S : Setting) (q : α → Prop) (x y : Exec α) : Prop :=
  ∀ s : Scope, s.Good S →
    Couple S (Same fun r : α × Scope => q r.1 ∧ r.2.Good S) (x.run s) (y.run s)

namespace CoupleIn

variable {α β : Type} {q : α → Prop} {q' : β → Prop}

theorem pure {a : α} (h : q a) : CoupleIn S q (Pure.pure a) (Pure.pure a) :=
  fun _ hs => Couple.pure (.of ⟨h, hs⟩)

theorem bind {x y : Exec α} {f g : α → Exec β} (h : CoupleIn S q x y)
    (hf : ∀ a, q a → CoupleIn S q' (f a) (g a)) : CoupleIn S q' (x >>= f) (y >>= g) := by
  intro s hs
  rw [StateT.run_bind, StateT.run_bind]
  exact (h s hs).bindSame fun r hr => hf r.1 hr.1 r.2 hr.2

theorem get : CoupleIn S (Scope.Good S) MonadState.get MonadState.get :=
  fun _ hs => Couple.pure (.of ⟨hs, hs⟩)

theorem modify {f : Scope → Scope} (h : ∀ s, s.Good S → (f s).Good S) :
    CoupleIn S (fun _ => True) (modify f : Exec Unit) (modify f) :=
  fun s hs => Couple.pure (.of ⟨trivial, h s hs⟩)

theorem lift {x y : Run α} (h : Couple S (Same q) x y) :
    CoupleIn S q (liftM x : Exec α) (liftM y) :=
  fun _ hs => h.bindSame fun _ ha => Couple.pure (.of ⟨ha, hs⟩)

theorem fail {cause : Cause} {line : Nat} :
    CoupleIn S q (Exec.fail cause line) (Exec.fail cause line) := lift Couple.fail.atLine

theorem weaken {q₁ : α → Prop} {x y : Exec α} (h : CoupleIn S q x y) (hq : ∀ a, q a → q₁ a) :
    CoupleIn S q₁ x y :=
  fun s hs => (h s hs).weaken fun _ _ hr => ⟨hr.1, hq _ hr.2.1, hr.2.2⟩

theorem ite {c : Prop} [Decidable c] {x x' y y' : Exec α} (h : CoupleIn S q x y)
    (h' : CoupleIn S q x' y') : CoupleIn S q (if c then x else x') (if c then y else y') := by
  split
  · exact h
  · exact h'

theorem forM {f g : β → Exec Unit} {l : List β}
    (h : ∀ b ∈ l, CoupleIn S (fun _ => True) (f b) (g b)) :
    CoupleIn S (fun _ => True) (l.forM f) (l.forM g) := by
  induction l with
  | nil => exact pure trivial
  | cons b l ih =>
    rw [List.forall_mem_cons] at h
    exact bind h.1 fun _ _ => ih h.2

theorem filterAuxM {f g : β → Exec Bool} {l : List β}
    (h : ∀ b ∈ l, CoupleIn S (fun _ => True) (f b) (g b)) (hq : ∀ b ∈ l, q' b) :
    ∀ kept : List β, (∀ b ∈ kept, q' b) →
      CoupleIn S (fun kept : List β => ∀ b ∈ kept, q' b) (l.filterAuxM f kept)
        (l.filterAuxM g kept) := by
  induction l with
  | nil => exact fun kept hkept => pure hkept
  | cons b l ih =>
    rw [List.forall_mem_cons] at h hq
    intro kept hkept
    refine bind h.1 fun passes _ => ih h.2 hq.2 _ ?_
    cases passes with
    | true => exact List.forall_mem_cons.2 ⟨hq.1, hkept⟩
    | false => exact hkept

/-- Both runs select the same items. -/
theorem filterM {f g : β → Exec Bool} {l : List β}
    (h : ∀ b ∈ l, CoupleIn S (fun _ => True) (f b) (g b)) (hq : ∀ b ∈ l, q' b) :
    CoupleIn S (fun kept : List β => ∀ b ∈ kept, q' b) (l.filterM f) (l.filterM g) := by
  refine bind (filterAuxM h hq [] (by simp)) fun kept hkept => pure ?_
  exact fun b hb => hkept b (List.mem_reverse.1 hb)

theorem mapM {f g : α → Exec β} {l : List α} (h : ∀ a ∈ l, CoupleIn S q' (f a) (g a)) :
    CoupleIn S (fun bs : List β => ∀ b ∈ bs, q' b) (l.mapM f) (l.mapM g) := by
  induction l with
  | nil =>
    rw [List.mapM_nil, List.mapM_nil]
    exact pure (by simp)
  | cons a l ih =>
    rw [List.forall_mem_cons] at h
    rw [List.mapM_cons, List.mapM_cons]
    refine bind h.1 fun b hb => bind (ih h.2) fun bs hbs => pure ?_
    exact List.forall_mem_cons.2 ⟨hb, hbs⟩

/-! ### What is written -/

theorem guardNesting (more : Nat) :
    CoupleIn S (fun _ => True) (Exec.guardNesting more) (Exec.guardNesting more) :=
  bind get fun _ _ => ite (lift .fail) (pure trivial)

theorem inFrame {frame : Frame} (hframe : frame.Good S) {x y : Exec α} (h : CoupleIn S q x y) :
    CoupleIn S q (Exec.inFrame frame x) (Exec.inFrame frame y) := by
  refine bind (guardNesting 0) fun _ _ => bind (modify fun s hs => hs.push hframe) fun _ _ => ?_
  refine bind h fun a ha => ?_
  exact bind (modify fun s hs => hs.pop) fun _ _ => pure ha

theorem write (text : Text) : CoupleIn S (fun _ => True) (Exec.write text) (Exec.write text) :=
  bind get fun _ _ => pure trivial

theorem writeValue (v : Value) :
    CoupleIn S (fun _ => True) (Exec.writeValue v) (Exec.writeValue v) :=
  bind get fun _ _ => write _

theorem capture {x y : Exec Text} (h : CoupleIn S (fun _ => True) x y) :
    CoupleIn S (Value.Trusted S.policy) (Exec.capture x) (Exec.capture y) := by
  refine bind get fun before _ => ?_
  refine bind (modify fun s hs => hs.withOthers _ _ _ _ _ _) fun _ _ => bind h fun text _ => ?_
  refine bind get fun after _ => ite (pure .undefined) ?_
  exact bind (modify fun s hs => hs.withOthers _ _ _ _ _ _) fun _ _ => pure (.string text _)

/-- A jump out of an expression gives the same value. -/
theorem captured {x y : Exec Text} (h : CoupleIn S (fun _ => True) x y) {s : Scope}
    (hs : s.Good S) :
    Couple S (Same (Value.Trusted S.policy)) (s.captured x) (s.captured y) :=
  (h _ (hs.withOthers _ _ _ _ _ _)).bindSame fun _ _ => .pure (.of (.string _ _))

end CoupleIn

end Componentry.Template
