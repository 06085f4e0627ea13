import Formulary.Proofs.Session.Provenance
import Formulary.Session.Acting

/-!
Sessions and views. What the view does not allow is refused before anything else is looked at, and
before a collaborator is asked for anything; what goes through leads to the view that its action
leads to. So the view of a session is where the actions of its deeds lead.
-/

namespace Formulary.Session

open Template Record Editor Number

/-! ## Refusals -/

theorem viewAfter_refused {s : Session} {action : Action} {refusal : Refusal}
    (h : s.view.after action = .error refusal) : s.viewAfter action = .error (.refused refusal) := by
  rw [viewAfter, h]
  rfl

section

variable {m : Type → Type} [Monad m] [LawfulMonad m] {s : Session} {α β ε : Type}

theorem run_lift_bind (result : Except Fault α) (f : α → ExceptT Fault m β) :
    ((result : ExceptT Fault m α) >>= f).run = match result with
      | .ok a => (f a).run
      | .error fault => pure (.error fault) := by
  change (ExceptT.mk (pure result) >>= f).run = _
  rw [ExceptT.run_bind, ExceptT.run_mk, pure_bind]
  cases result <;> rfl

/-- Two computations that ask the same first agree if they agree on what it answers. -/
theorem run_lift_bind_eq_pure {result : Except Fault α} {f : α → ExceptT Fault m β}
    {g : α → Except Fault β} (h : ∀ a, result = .ok a → (f a).run = pure (g a)) :
    ((result : ExceptT Fault m α) >>= f).run = pure (result >>= g) := by
  rw [run_lift_bind]
  cases hr : result with
  | error fault => rfl
  | ok a => exact h a hr

/-- An editor is asked at most once; and then the operation is settled by its answer, as if it had
been given by an editor that does nothing else. -/
theorem run_editWith_of_request (s : Session) (editor : EditRequest → m EditRun)
    (author : Author) :
    (Acting.editWith s editor author).run = match s.editRequest with
      | .error fault => pure (.error fault)
      | .ok request => (fun run => s.editWith (fun _ => run) author) <$> editor request := by
  unfold Acting.editWith
  rw [run_lift_bind]
  cases shown : s.editRequest with
  | error fault => rfl
  | ok request =>
    change (ExceptT.lift (editor request) >>= _).run = _
    rw [ExceptT.run_bind_lift]
    dsimp only
    rw [map_eq_pure_bind]
    refine bind_congr fun run => ?_
    unfold editWith
    rw [bind_of_ok shown]
    refine run_lift_bind_eq_pure fun _ _ => ?_
    cases run.reports.getLast? with
    | none => rfl
    | some html => exact run_lift_bind_eq_pure fun edited _ => rfl

end

variable {s next : Session}

theorem Moves.view_eq {step : Step} (h : Moves s step next) :
    s.view.after step.action = .ok next.view := by
  cases h with
  | startOver => cases s.view <;> rfl
  | loadTemplate hv _ | setValue hv | autofill hv _ | loadRecord hv _ | generate hv _ _
  | applyEdit hv _ | editWith hv _ _ | editNothing hv _ _ | backToForm hv | exportPdf hv =>
    rw [hv]
    rfl

end Formulary.Session
