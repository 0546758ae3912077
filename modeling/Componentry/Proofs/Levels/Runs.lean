import Componentry.Proofs.Levels.Scopes

/-! # Runs that go alike from a scope

Two hosts that differ below their levels run the same code alike, as long as the scopes on the
way fit the levels.  So two runs are compared from one scope at a time (`Exec.Same`), with what
is known of the scope behind them; and from all scopes that fit, where what comes of a scope
has no more left than it (`Exec.Steps`).
-/
namespace Componentry.Template.Exec

variable {α β : Type} {names : List Text} {levels : Nat}

/-- Two runs from a scope are the same, and behind them the scope has a property. -/
structure Same (x y : Exec α) (s : Scope) (q : Scope → Prop) : Prop where
  eq : x.run s = y.run s
  behind : ∀ m r m', (x.run s).run.run m = (.ok r, m') → q r.2

namespace Same

variable {s : Scope} {q q' : Scope → Prop}

theorem pure {a : α} (h : q s) : Same (Pure.pure a) (Pure.pure a) s q := by
  refine ⟨rfl, ?_⟩
  rintro m r m' ⟨⟩
  exact h

theorem bind {x y : Exec α} {f g : α → Exec β} (h : Same x y s q)
    (hf : ∀ a t, q t → Same (f a) (g a) t q') : Same (x >>= f) (y >>= g) s q' := by
  constructor
  · rw [StateT.run_bind, StateT.run_bind, ← h.eq]
    refine Run.ext fun m => ?_
    rw [Run.run_bind, Run.run_bind]
    rcases hrun : (x.run s).run.run m with ⟨r | ⟨a, t⟩, m'⟩
    · rfl
    · exact congrArg (fun run : Run (β × Scope) => run.run.run m')
        (hf a t (h.behind m (a, t) m' hrun)).eq
  · intro m r m' hrun
    rw [StateT.run_bind, Run.run_bind] at hrun
    rcases hx : (x.run s).run.run m with ⟨r' | ⟨a, t⟩, m₁⟩
    · rw [hx] at hrun
      cases hrun
    · rw [hx] at hrun
      exact (hf a t (h.behind m (a, t) m₁ hx)).behind m₁ r m' hrun

theorem weaken {x y : Exec α} (h : Same x y s q) (hq : ∀ t, q t → q' t) : Same x y s q' :=
  ⟨h.eq, fun m r m' hrun => hq _ (h.behind m r m' hrun)⟩

theorem fail {x y : Exec α} {cause : Cause} {line : Nat} (hx : x = Exec.fail cause line)
    (hy : y = Exec.fail cause line) : Same x y s q := by
  subst hx hy
  refine ⟨rfl, ?_⟩
  rintro m r m' ⟨⟩

theorem get_bind {f g : Scope → Exec β} (h : Same (f s) (g s) s q) :
    Same (get >>= f) (get >>= g) s q := ⟨h.eq, h.behind⟩

theorem modify_bind {f : Scope → Scope} {x y : Unit → Exec β} (h : Same (x ()) (y ()) (f s) q) :
    Same (modify f >>= x) (modify f >>= y) s q := ⟨h.eq, h.behind⟩

theorem lift {x y : Run α} (h : x = y) (hs : q s) : Same (liftM x : Exec α) (liftM y) s q := by
  subst h
  refine ⟨rfl, ?_⟩
  intro m r m' hrun
  rw [StateT.run_monadLift, Run.run_bind] at hrun
  split at hrun
  · cases hrun
    exact hs
  · cases hrun

theorem lift_bind {x y : Run α} {f g : α → Exec β} (h : x = y)
    (hf : ∀ a, Same (f a) (g a) s q) : Same (liftM x >>= f) (liftM y >>= g) s q :=
  (lift (q := (· = s)) h rfl).bind fun a _ ht => ht ▸ hf a

theorem ite {c : Prop} [Decidable c] {x x' y y' : Exec α} (h : c → Same x y s q)
    (h' : ¬c → Same x' y' s q) : Same (if c then x else x') (if c then y else y') s q := by
  split
  · exact h ‹_›
  · exact h' ‹_›

/-- Behind the guard frames may nest so many deeper. -/
theorem guardNesting_bind {more : Nat} {x y : Unit → Exec β}
    (h : s.nesting + more ≤ recursionLimit → Same (x ()) (y ()) s q) :
    Same (guardNesting more >>= x) (guardNesting more >>= y) s q := by
  have hguard : Same (guardNesting more) (guardNesting more) s fun t =>
      t = s ∧ s.nesting + more ≤ recursionLimit := by
    refine get_bind (ite (fun _ => ⟨rfl, ?_⟩) fun hlimit => pure ⟨rfl, Nat.le_of_not_lt hlimit⟩)
    rintro m r m' ⟨⟩
  exact hguard.bind fun _ t ht => ht.1 ▸ h ht.2

/-- Something in a frame of its own. -/
theorem inFrame {frame : Frame} {x y : Exec α} (h : s.nesting ≤ recursionLimit →
      Same x y (s.push frame) ((s.push frame).Leads names)) :
    Same (Exec.inFrame frame x) (Exec.inFrame frame y) s (s.Leads names) := by
  refine guardNesting_bind fun hlimit => modify_bind ?_
  refine (h hlimit).bind fun a t ht => modify_bind (pure ?_)
  exact ht.pop

/-- A jump out of an expression. -/
theorem captured {x y : Exec Text} (h : Same x y { s with discarding := false } q) :
    s.captured x = s.captured y := by
  rw [Scope.captured, Scope.captured, h.eq]

end Same

/-- From each scope that fits the levels two runs are the same, and have no more left. -/
def Steps (names : List Text) (levels : Nat) (x y : Exec α) : Prop :=
  ∀ s : Scope, s.Fits names levels → Same x y s (s.Leads names)

namespace Steps

theorem pure (a : α) : Steps names levels (Pure.pure a) (Pure.pure a) := fun s _ => .pure (.refl s)

theorem bind {x y : Exec α} {f g : α → Exec β} (h : Steps names levels x y)
    (hf : ∀ a, Steps names levels (f a) (g a)) : Steps names levels (x >>= f) (y >>= g) :=
  fun s hs => (h s hs).bind fun a t ht => (hf a t (hs.leads ht)).weaken fun _ => ht.trans

theorem fail {cause : Cause} {line : Nat} :
    Steps names levels (Exec.fail cause line : Exec α) (Exec.fail cause line) :=
  fun _ _ => .fail rfl rfl

theorem lift {x y : Run α} (h : x = y) : Steps names levels (liftM x : Exec α) (liftM y) :=
  fun s _ => .lift h (.refl s)

theorem get : Steps names levels MonadState.get MonadState.get := fun s _ =>
  ⟨rfl, by rintro m r m' ⟨⟩; exact .refl s⟩

theorem change {f : Scope → Scope} (h : ∀ s : Scope, s.frames ≠ [] → s.Leads names (f s)) :
    Steps names levels (modify f : Exec Unit) (modify f) :=
  fun s hs => ⟨rfl, by rintro m r m' ⟨⟩; exact h s hs.frames⟩

theorem ite {c : Prop} [Decidable c] {x x' y y' : Exec α} (h : Steps names levels x y)
    (h' : Steps names levels x' y') :
    Steps names levels (if c then x else x') (if c then y else y') := by
  split
  · exact h
  · exact h'

theorem inFrame {frame : Frame} {x y : Exec α} (h : Steps names levels x y) :
    Steps names levels (Exec.inFrame frame x) (Exec.inFrame frame y) := by
  refine fun s hs => .inFrame fun hlimit => h _ ⟨by simp [Scope.push], ?_⟩
  exact Nat.lt_trans (Scope.need_push_lt hlimit frame) hs.need

theorem forM {f g : β → Exec Unit} {l : List β} (h : ∀ b ∈ l, Steps names levels (f b) (g b)) :
    Steps names levels (l.forM f) (l.forM g) := by
  induction l with
  | nil => exact pure ()
  | cons b l ih =>
    rw [List.forall_mem_cons] at h
    exact bind h.1 fun _ => ih h.2

theorem filterM {f g : β → Exec Bool} {l : List β} (h : ∀ b ∈ l, Steps names levels (f b) (g b)) :
    Steps names levels (l.filterM f) (l.filterM g) := by
  have haux : ∀ kept : List β, Steps names levels (l.filterAuxM f kept) (l.filterAuxM g kept) := by
    induction l with
    | nil => exact fun kept => pure kept
    | cons b l ih =>
      rw [List.forall_mem_cons] at h
      exact fun kept => bind h.1 fun passes => ih h.2 _
  exact bind (haux []) fun kept => pure _

theorem mapM {f g : α → Exec β} {l : List α} (h : ∀ a ∈ l, Steps names levels (f a) (g a)) :
    Steps names levels (l.mapM f) (l.mapM g) := by
  induction l with
  | nil =>
    rw [List.mapM_nil, List.mapM_nil]
    exact pure []
  | cons a l ih =>
    rw [List.forall_mem_cons] at h
    rw [List.mapM_cons, List.mapM_cons]
    exact bind h.1 fun b => bind (ih h.2) fun bs => pure _

theorem write (text : Text) : Steps names levels (Exec.write text) (Exec.write text) :=
  bind get fun _ => pure _

theorem writeValue (v : Value) : Steps names levels (Exec.writeValue v) (Exec.writeValue v) :=
  bind get fun _ => write _

/-- Whether text is dropped makes no difference to what is left. -/
theorem setDiscarding (discarding : Bool) :
    Steps names levels (modify fun s => { s with discarding } : Exec Unit)
      (modify fun s => { s with discarding }) :=
  change fun _ _ => ⟨rfl, rfl, Nat.le_refl _⟩

theorem setEscaping (escaping : Bool) :
    Steps names levels (modify fun s => { s with escaping } : Exec Unit)
      (modify fun s => { s with escaping }) :=
  change fun _ _ => ⟨rfl, rfl, Nat.le_refl _⟩

theorem capture {x y : Exec Text} (h : Steps names levels x y) :
    Steps names levels (Exec.capture x) (Exec.capture y) := by
  refine bind get fun before => bind (setDiscarding false) fun _ => bind h fun text => ?_
  exact bind get fun after => ite (pure _) (bind (setDiscarding _) fun _ => pure _)

end Steps

end Componentry.Template.Exec
