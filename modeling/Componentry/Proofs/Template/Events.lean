import Componentry.Proofs.Coupling.Definitions

/-! # Events are only appended

An invocation reports events on the way, and what has been reported before it starts plays
no part in it: it gives the same result, and appends the same events to any that are there
(`Base.appends_invoke`).  For this it is compared with itself, run behind other events; that
it leaves nothing behind but events is seen from its end.
-/
namespace Componentry.Template

namespace Run

variable {α β : Type}

/-- Whatever has been reported before, the run gives the same result, reports the same events
behind it, and leaves nothing else. -/
def Appends (run : Run α) : Prop :=
  ∀ log, run.run.run (.ofEvents log) = (run.result.1, .ofEvents (log ++ run.result.2))

/-- From a memory that only holds events the run leads to such a memory. -/
def Leaves (run : Run α) : Prop :=
  ∀ log, ∃ log', (run.run.run (.ofEvents log)).2 = .ofEvents log'

namespace Leaves

theorem throw (failure : Failure) : Leaves (MonadExcept.throw failure : Run α) :=
  fun log => ⟨log, rfl⟩

theorem bind {x : Run α} {f : α → Run β} (hx : Leaves x) (hf : ∀ a, Leaves (f a)) :
    Leaves (x >>= f) := by
  intro log
  rcases hrun : x.run.run (.ofEvents log) with ⟨r, m⟩
  obtain ⟨log', rfl⟩ : ∃ log', m = .ofEvents log' := by simpa [hrun] using hx log
  rw [run_bind, hrun]
  cases r with
  | ok a => exact hf a log'
  | error failure => exact ⟨log', rfl⟩

/-- What runs to its end leaves nothing but events. -/
theorem toEnd (x : Run α) : Leaves x.toEnd := fun log =>
  ⟨(x.run.run (.ofEvents log)).2.events, by rw [run_toEnd]; rfl⟩

end Leaves

/-- The text that a run gives; none if it fails. -/
def text (run : Run Text) : Text := run.result.1.toOption.getD []

/-- What is contained of a run is its text, as markup. -/
theorem Appends.gives_contained {run : Run Text} (h : run.Appends) (name : Text) :
    (Function.contained name run).Gives (.ofMarkup run.text) := by
  intro log
  change ∃ log', (Function.contained name run).run.run (.ofEvents log) =
    (.ok (.ofMarkup run.text), .ofEvents log')
  have hrun := h log
  rw [Function.contained, run_tryCatch, run_bind, hrun, text]
  cases run.result.1 with
  | ok text => exact ⟨_, rfl⟩
  | error failure => exact ⟨_, rfl⟩

/-- A run that goes like itself behind other events appends its events. -/
theorem Appends.of_couple {run : Run Text}
    (h : Couple (.lenient .same) (Same fun _ => True) run run) (hleaves : Leaves run) :
    run.Appends := by
  intro log
  have halike : (Memory.ofEvents []).Alike (.lenient .same) (.ofEvents log) :=
    ⟨rfl, rfl, by simp [Memory.ofEvents], trivial⟩
  obtain ⟨hresult, hfollow⟩ := h _ _ halike
  obtain ⟨w, _, rfl, hw, hw'⟩ := hfollow.written
  obtain ⟨log', hlog⟩ := hleaves log
  have hevents : run.result.2 = w := hw
  rw [hlog] at hw'
  refine Prod.ext hresult.eq_of_same.symm ?_
  rw [hlog, hevents]
  exact congrArg Memory.ofEvents hw'

end Run

end Componentry.Template

/-! ## Invocations -/

namespace Componentry

open Template Run

theorem Namespace.leaves_install (ns : Namespace) (sources : List (Text × Text)) :
    (ns.install sources).Leaves := by
  induction sources generalizing ns with
  | nil => exact fun log => ⟨log, rfl⟩
  | cons s sources ih =>
    rw [install]
    split
    · exact ih _
    · exact Leaves.bind (fun log => ⟨_, rfl⟩) fun _ => ih _

theorem Namespace.leaves_render (ns : Namespace) (invoker : Invoker) (name : Text)
    (data : Value) : (ns.render invoker name data).Leaves := by
  unfold render
  split
  · exact .throw _
  · exact .toEnd _

/-- Invocations leave nothing but events. -/
theorem Base.leaves_invoke (base : Base) (levels : Nat) (name : Text) (props : Value) :
    (base.invoke levels name props).Leaves := by
  unfold invoke
  cases base with
  | finished ns =>
    cases levels with
    | zero => exact .throw _
    | succ levels =>
      exact (ns.leaves_install _).bind fun installed => installed.leaves_render _ _ _
  | _ => exact .throw _

/-- Invocations go alike behind different events. -/
theorem Base.coupled_invoke (base : Base) (levels : Nat) :
    Invoker.Coupled (.lenient .same) (base.invoke levels) (base.invoke levels) := by
  induction levels with
  | zero =>
    intro name props _
    unfold invoke
    cases base <;> exact .fail
  | succ levels ih =>
    intro name props hprops
    unfold invoke
    cases base with
    | finished ns =>
      exact ns.couple_partialRun (Setting.forSameData_lenient fun _ _ => rfl) ns.passes_lenient ih
        name hprops
    | _ => exact .fail

/-- **Invocations append events only**, however many levels are left. -/
theorem Base.appends_invoke (base : Base) (levels : Nat) (name : Text) (props : Value) :
    (base.invoke levels name props).Appends :=
  .of_couple (base.coupled_invoke levels name props (Setting.trusted_lenient props))
    (base.leaves_invoke levels name props)

end Componentry
