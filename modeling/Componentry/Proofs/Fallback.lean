import Componentry.Proofs.Compilation
import Componentry.Proofs.Template.Results

/-! # What is kept verbatim renders as its own text

The verbatim form of a text parses to statements that show the text, so running them
writes the text and does nothing else: whatever the data is, and whatever invocations
would do (`Namespace.render_verbatim_eq_raw`).
-/
namespace Componentry

namespace Template

variable {h : Host} {scope : Scope}

theorem run_write (hscope : scope.Shows) (text : Text) :
    (Exec.write text).run scope = pure (text, scope) := by
  have hwrite : (Exec.write text).run scope = pure (if scope.discarding then [] else text, scope) :=
    rfl
  rw [hwrite, hscope.discarding, if_neg Bool.false_ne_true]

/-- A constant text that needs no escaping is written out as it is. -/
theorem run_exec_emit_string (hscope : scope.Shows) {s : Text} (hs : escapeText s = s)
    (line : Nat) : (Stmt.exec h (.emit (.const (.string s) line))).run scope = pure (s, scope) := by
  have hrun : (Stmt.exec h (.emit (.const (.string s) line))).run scope =
      (Exec.write (if scope.escaping then escapeText s else s)).run scope := rfl
  rw [hrun, hscope.escaping, if_pos rfl, hs, run_write hscope]

/-- **Statements that show a text write it**, and change nothing. -/
theorem Shows.run_execAll {body : List Stmt} {text : Text} (hshows : Shows body text)
    (hscope : scope.Shows) : (Stmt.execAll h body).run scope = pure (text, scope) := by
  induction hshows with
  | nil => rfl
  | data s _ ih =>
    have hexec : (Stmt.exec h (.data s)).run scope = pure (s, scope) := run_write hscope s
    rw [Stmt.execAll, StateT.run_bind, hexec, pure_bind, StateT.run_bind, ih, pure_bind,
      StateT.run_pure]
  | string line hs _ ih =>
    rw [Stmt.execAll, StateT.run_bind, run_exec_emit_string hscope hs, pure_bind, StateT.run_bind,
      ih, pure_bind, StateT.run_pure]

/-- A template that shows a text extends no other, and leaves the memory as it is. -/
theorem Shows.render_eq {body : List Stmt} {text : Text} (hshows : Shows body text)
    (library : Library) (invoker : Invoker) (name : Text) (data : Value) :
    render library invoker name body data = pure text := by
  let h := Host.of library invoker data library.levels
  let start := Scope.start name (Stmt.allBlocks body)
  have hbody : (Stmt.runBody h body).run start = pure (text, start) := by
    have hrun : (Stmt.runBody h body).run start = (do
        let r ← (Stmt.execAll h body).run start
        let rest ← (Stmt.runParent h false).run r.2
        pure (r.1 ++ rest.1, { rest.2 with parent := none })) := rfl
    have hparent : (Stmt.runParent h false).run start = pure ([], start) := rfl
    rw [hrun, hshows.run_execAll (Scope.shows_start ..), pure_bind, hparent, pure_bind,
      List.append_nil]
    rfl
  have hrender : render library invoker name body data =
      Run.toEnd ((Stmt.runBody h body).run start >>= fun r => pure r.1) := rfl
  refine Run.ext fun m => ?_
  rw [hrender, hbody, pure_bind, Run.run_toEnd]
  exact congrArg (Prod.mk _) (ite_self _)

end Template

namespace Namespace

/-- **The verbatim form of a text is exact.**  It parses, so it can be added to any
namespace as a definition; and whatever the data are and however invocations are run,
rendering that definition gives the text, without a failure and without an event. -/
theorem render_verbatim_eq_raw (raw : Text) :
    Template.check (verbatim raw) = none ∧
      ∀ (ns : Namespace) (name : Text), ∃ ns', ns.add name (verbatim raw) = .ok ns' ∧
        ∀ (invoker : Template.Invoker) (data : Template.Value),
          ns'.render invoker name data = pure raw := by
  refine ⟨Template.check_verbatim raw, ?_⟩
  intro ns name
  obtain ⟨body, hparse, hshows⟩ := Template.parse_verbatim raw
  obtain ⟨ns', hadd, hfind⟩ := ns.add_of_parse name hparse
  refine ⟨ns', hadd, ?_⟩
  intro invoker data
  rw [render, hfind, if_pos rfl]
  exact hshows.render_eq ns'.library invoker name data.scope

end Namespace

end Componentry
