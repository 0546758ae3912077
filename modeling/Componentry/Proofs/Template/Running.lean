import Componentry.Template.Exec

/-! # Runs

A run takes the memory to a result, which may be a failure, and to the memory behind it.
The lemmas here say how runs are put together (`Run.run_bind`, `Run.run_tryCatch`), and what
a run gives that does not fail and makes nothing, whatever events it reports
(`Run.GivesIn`).
-/
namespace Componentry.Template

/-- A value as it shows in a memory: each space with what its cell holds. -/
def Memory.seen (m : Memory) (v : Value) : Value :=
  if m.spaces.isEmpty then v else v.update (m.cells m.spaces.length)

/-- What cells hold depends on nothing else of a memory. -/
theorem Memory.cells_congr {m n : Memory} (h : m.spaces = n.spaces) : m.cells = n.cells := by
  funext levels
  induction levels with
  | zero =>
    funext cell
    rw [cells, cells, h]
  | succ levels ih =>
    funext cell
    rw [cells, cells, h, ih]

theorem Memory.seen_congr {m n : Memory} (h : m.spaces = n.spaces) : m.seen = n.seen := by
  funext v
  rw [seen, seen, cells_congr h, h]

namespace Run

variable {α β : Type}

theorem ext {x y : Run α} (h : ∀ m, x.run.run m = y.run.run m) : x = y := funext h

theorem run_bind (x : Run α) (f : α → Run β) (m : Memory) :
    (x >>= f).run.run m =
      match x.run.run m with
      | (.ok a, m) => (f a).run.run m
      | (.error failure, m) => (.error failure, m) := by
  rw [ExceptT.run_bind, StateT.run_bind]
  rcases x.run.run m with ⟨r, n⟩
  cases r <;> rfl

theorem run_tryCatch (x : Run α) (f : Failure → Run α) (m : Memory) :
    (tryCatch x f : Run α).run.run m =
      match x.run.run m with
      | (.ok a, m) => (.ok a, m)
      | (.error failure, m) => (f failure).run.run m := by
  rw [ExceptT.run_tryCatch, StateT.run_bind]
  rcases x.run.run m with ⟨r, n⟩
  cases r <;> rfl

theorem run_toEnd (x : Run α) (m : Memory) :
    x.toEnd.run.run m = ((x.run.run m).1,
      if m.spaces.isEmpty then { m with events := (x.run.run m).2.events }
        else (x.run.run m).2) := rfl

/-! ## Runs that do not fail -/

theorem run_refresh (v : Value) (m : Memory) : (refresh v).run.run m = (.ok (m.seen v), m) := rfl

/-- A run gives a result in a memory, and leaves the memory as it is but for events. -/
def GivesIn (m : Memory) (run : Run α) (a : α) : Prop :=
  ∀ log, ∃ log', run.run.run { m with events := log } = (.ok a, { m with events := log' })

/-- A run gives a result, where no space or closure has been made, and makes none. -/
abbrev Gives (run : Run α) (a : α) : Prop := run.GivesIn (.ofEvents []) a

namespace GivesIn

variable {mem : Memory}

theorem pure (a : α) : GivesIn mem (Pure.pure a) a := fun log => ⟨log, rfl⟩

theorem bind {x : Run α} {f : α → Run β} {a : α} {b : β} (hx : x.GivesIn mem a)
    (hf : (f a).GivesIn mem b) : (x >>= f).GivesIn mem b := by
  intro log
  obtain ⟨log₁, h₁⟩ := hx log
  obtain ⟨log₂, h₂⟩ := hf log₁
  refine ⟨log₂, ?_⟩
  rw [run_bind, h₁]
  exact h₂

theorem tryCatch {x : Run α} {a : α} (hx : x.GivesIn mem a) (f : Failure → Run α) :
    (MonadExcept.tryCatch x f : Run α).GivesIn mem a := by
  intro log
  obtain ⟨log', h⟩ := hx log
  exact ⟨log', by rw [run_tryCatch, h]⟩

theorem atLine {x : Run α} {a : α} (hx : x.GivesIn mem a) (line : Nat) :
    (Run.atLine line x).GivesIn mem a := hx.tryCatch _

theorem log (event : LogEvent) : (Run.log event).GivesIn mem () := fun log => ⟨log ++ [event], rfl⟩

theorem refresh (v : Value) : (Run.refresh v).GivesIn mem (mem.seen v) := by
  intro log
  refine ⟨log, ?_⟩
  have hseen : { mem with events := log }.seen = mem.seen := Memory.seen_congr rfl
  rw [run_refresh, hseen]

theorem toEnd {x : Run α} {a : α} (hx : x.GivesIn mem a) : x.toEnd.GivesIn mem a := by
  intro log
  obtain ⟨log', h⟩ := hx log
  refine ⟨log', ?_⟩
  rw [run_toEnd, h, ite_self]

/-- What a run gives is its result. -/
theorem exists_result {x : Run α} {a : α} (hx : x.Gives a) :
    ∃ events, x.result = (.ok a, events) := by
  obtain ⟨events, h⟩ := hx []
  have hrun : x.run.run (.ofEvents []) = (.ok a, .ofEvents events) := h
  exact ⟨events, by rw [Run.result, hrun]; rfl⟩

/-- A result that is contained is given as markup. -/
theorem contained {run : Run Text} {s : Text} (h : run.GivesIn mem s) (name : Text) :
    (Function.contained name run).GivesIn mem (.ofMarkup s) := by
  have hmarkup : (run >>= fun s => Pure.pure (Value.ofMarkup s)).GivesIn mem (.ofMarkup s) :=
    h.bind (.pure _)
  exact hmarkup.tryCatch _

/-- A failure that is contained gives no markup. -/
theorem contained_fail (name : Text) (cause : Cause) :
    (Function.contained name (Run.fail cause)).GivesIn mem (.ofMarkup []) := by
  intro log
  exact ⟨log ++ [Function.failedEvent name ⟨cause, none⟩], rfl⟩

end GivesIn

end Run

end Componentry.Template
