import Formulary.Command.Run
import Formulary.Proofs.Session.Views

/-!
What a command leaves behind when one of its stages fails: its report, and the traces of the program
that it had edit. The stages before the writing look at the world as they find it, and print at most
some notes; so what else is printed, and what is changed in the files, is by that program, and where
none was run there is nothing of either.
-/

namespace Formulary.Command

open Session Files Job Editor

/-! ## Jobs one after another -/

variable {α β : Type} {w : World}

theorem on_bind (p : Progress) (job : Job α) (f : α → Job β) :
    on p (job >>= f) = match on p job with
      | (.ok a, p') => on p' (f a)
      | (.error failure, p') => (.error failure, p') := by
  simp only [on, ExceptT.run_bind, StateT.run_bind]
  generalize job.run.run p = result
  obtain ⟨_ | _, p'⟩ := result <;> rfl

theorem on_look (p : Progress) (stage : World → Stage α) :
    on p (look stage) = (stage p.world, p) := by
  change on p (liftM (stage p.world)) = _
  cases stage p.world <;> rfl

/-- With a program as the editor, the operation comes to what it comes to with an editor that does
nothing but give the answer of the program, and the program leaves its traces. -/
theorem on_editWith (p : Progress) (s : Session) (program : Program) (author : Author) :
    on p (acting (Acting.editWith s (showTo program) author)) = match s.editRequest with
      | .error fault => (inSession (.error fault), p)
      | .ok request =>
        let (edit, traces) := editBy p.world.programs program p.world.files request.html
        (inSession (s.editWith (fun _ => .ofEdit edit) author), leave traces p) := by
  have run := congrArg (StateT.run · p) (run_editWith_of_request s (showTo program) author)
  change ((Acting.editWith s (showTo program) author).run.run p).map (inSession ·) id = _
  rw [run]
  cases s.editRequest <;> rfl

/-- In the world `w` the job comes to a result and leaves traces, and behind those it adds to the
notes at most. -/
def ComesTo (w : World) (job : Job α) (result : Stage α) (traces : Traces) : Prop :=
  ∀ p, p.world = w → ∃ notes, on p job =
    (result, { leave traces p with notes := (leave traces p).notes ++ notes })

/-- What comes behind a job finds the files as that has left them. -/
theorem ComesTo.look {job : Job α} {result : Stage α} {traces : Traces}
    (h : ComesTo w job result traces) (stage : α → World → Stage β) :
    ComesTo w (job >>= fun a => Job.look (stage a))
      (result >>= fun a => stage a { w with files := traces.files }) traces := by
  intro p hp
  obtain ⟨notes, done⟩ := h p hp
  refine ⟨notes, ?_⟩
  rw [on_bind, done]
  subst hp
  cases result with
  | error failure => rfl
  | ok a => exact on_look _ _

/-- A world of files and programs in which the environment names an editor. -/
def World.withEditor (files : Tree) (editor : Option String) (programs : Programs) : World where
  files
  configPath := none
  visual := none
  editor
  author := ⟨0, "minuta"⟩
  programs
  encoder := fun _ _ _ => .ok []
  almanac := ⟨toString, toString⟩
  entropy := .ofSeed 0

end Formulary.Command
