import Formulary.Proofs.Session.Moves
import Formulary.Session.InPlace

/-!
What a fault leaves of a session that is held in place: all of it. The operations write nothing
before the last of their checks, so that held in place a session goes the way it would go if it were
handed on, and an operation that comes to no new session has not touched the old one.
-/

namespace Formulary.Session.InPlace

open Template Record Editor

/-- What an operation that hands a session on means for one that is held: the new session takes its
place, and where there is none the old one stays. -/
def settle {α : Type} (s : Session) : Except Fault (α × Session) → Except Fault α × Session
  | .ok (a, next) => (.ok a, next)
  | .error fault => (.error fault, s)

variable {α β : Type} {s : Session}

theorem settle_error {result : Except Fault (α × Session)} {fault : Fault}
    (h : (settle s result).1 = .error fault) : (settle s result).2 = s := by
  cases result with
  | error _ => rfl
  | ok next => cases h

theorem settle_map (f : α → β) (result : Except Fault (α × Session)) :
    settle s ((fun r => (f r.1, r.2)) <$> result) =
      (f <$> (settle s result).1, (settle s result).2) := by
  cases result with
  | error fault => rfl
  | ok next => rfl

/-! ## Operations, one after another -/

theorem on_ask (look : Session → Except Fault α) :
    on s (ask look) = settle s ((·, s) <$> look s) := by
  change on s (liftM (look s)) = _
  cases look s <;> rfl

theorem on_ask_bind (look : Session → Except Fault α) (f : α → InPlace β) :
    on s (ask look >>= f) = match look s with
      | .ok a => on s (f a)
      | .error fault => (.error fault, s) := by
  change on s (liftM (look s) >>= f) = _
  cases look s <;> rfl

/-- A check in front of both changes nothing about their agreement. -/
theorem on_ask_bind_eq_settle {look : Session → Except Fault α} {f : α → InPlace β}
    {g : α → Except Fault (β × Session)}
    (h : ∀ a, look s = .ok a → on s (f a) = settle s (g a)) :
    on s (ask look >>= f) = settle s (look s >>= g) := by
  rw [on_ask_bind]
  cases hl : look s with
  | error fault => rfl
  | ok a => exact h a hl

theorem on_map (f : α → β) (act : InPlace α) :
    on s (f <$> act) = (f <$> (on s act).1, (on s act).2) := by
  change on s (act >>= fun a => pure (f a)) = _
  simp only [on, ExceptT.run_bind, StateT.run_bind]
  generalize act.run.run s = r
  obtain ⟨_ | _, s'⟩ := r <;> rfl

/-- What is made of a result has no part in what becomes of the session. -/
theorem on_map_eq_settle {act : InPlace α} {result : Except Fault (α × Session)} (f : α → β)
    (h : on s act = settle s result) :
    on s (f <$> act) = settle s ((fun r => (f r.1, r.2)) <$> result) := by
  rw [on_map, settle_map, h]

theorem on_loadTemplate (convert : Converter) (fileName : String) (bytes : List UInt8) :
    on s (loadTemplate convert fileName bytes) =
      settle s (((), ·) <$> s.loadTemplate convert fileName bytes) := by
  unfold loadTemplate Session.loadTemplate
  rw [map_bind]
  refine on_ask_bind_eq_settle fun view _ => ?_
  rw [map_bind]
  exact on_ask_bind_eq_settle fun html _ => rfl

theorem on_setValue (name value : String) :
    on s (setValue name value) = settle s (((), ·) <$> s.setValue name value) := by
  unfold setValue Session.setValue
  rw [map_bind]
  exact on_ask_bind_eq_settle fun view _ => rfl

theorem on_autofill {σ : Type} [Sample.WordSource σ] (rules : List (Sample.Rule σ)) (source : σ) :
    on s (autofill rules source) = settle s (s.autofill rules source) := by
  unfold autofill Session.autofill
  refine on_ask_bind_eq_settle fun view _ => ?_
  exact on_ask_bind_eq_settle fun form _ => rfl

theorem on_loadRecord (source : Source) (id : String) :
    on s (loadRecord source id) = settle s (s.loadRecord source id) := by
  unfold loadRecord Session.loadRecord
  refine on_ask_bind_eq_settle fun view _ => ?_
  dsimp only
  split
  · rfl
  · exact on_ask_bind_eq_settle fun record _ => rfl

theorem on_generate : on s generate = settle s (((), ·) <$> s.generate) := by
  unfold generate Session.generate
  rw [map_bind]
  refine on_ask_bind_eq_settle fun view _ => ?_
  rw [map_bind]
  refine on_ask_bind_eq_settle fun form _ => ?_
  cases form.issues with
  | nil => rfl
  | cons first rest => rfl

theorem on_applyEdit (html : String) (author : Author) :
    on s (applyEdit html author) = settle s (((), ·) <$> s.applyEdit html author) := by
  unfold applyEdit Session.applyEdit
  rw [map_bind]
  refine on_ask_bind_eq_settle fun view _ => ?_
  rw [map_bind]
  refine on_ask_bind_eq_settle fun document hdocument => ?_
  -- The document that was asked for is the one that is amended.
  have amended : on s (do
      amendDocument fun document => { document with html }
      amendDocument fun document => { document with editedBy := some author }) =
      (.ok (), { s with document := s.document.map fun _ => ⟨html, some author⟩ }) := by
    cases s with
    | mk config view template values document => cases document <;> rfl
  rw [amended, requireDocument_eq_ok hdocument]
  rfl

/-- Of all texts that are reported the last one is kept. -/
theorem foldl_report (reports : List String) (latest : Option String) :
    reports.foldl (fun _ html => some html) latest = reports.getLast?.or latest := by
  induction reports generalizing latest with
  | nil => rfl
  | cons html rest ih =>
    rw [List.foldl_cons, ih, List.getLast?_cons]
    cases rest.getLast? <;> rfl

theorem on_editWith (editor : TextEditor) (author : Author) :
    on s (editWith editor author) = settle s (s.editWith editor author) := by
  unfold editWith Session.editWith
  refine on_ask_bind_eq_settle fun request _ => ?_
  refine on_ask_bind_eq_settle fun _ _ => ?_
  rw [foldl_report, Option.or_none]
  cases (editor request).reports.getLast? with
  | none => rfl
  | some html =>
    refine (on_map_eq_settle (fun _ => true) (on_applyEdit html author)).trans ?_
    simp only [Functor.map_map, bind_pure_comp]

theorem on_backToForm : on s backToForm = settle s (((), ·) <$> s.backToForm) := by
  unfold backToForm Session.backToForm
  rw [map_bind]
  exact on_ask_bind_eq_settle fun view _ => rfl

/-- A step that is taken in place leads where it leads when the session is handed on. -/
theorem on_perform (step : Step) :
    on s (perform step) = settle s (((), ·) <$> s.after step) := by
  cases step with
  | loadTemplate convert fileName bytes => exact on_loadTemplate convert fileName bytes
  | setValue name value => exact on_setValue name value
  | autofill rules source =>
    refine (on_map_eq_settle _ (on_autofill rules source)).trans ?_
    simp only [after, Functor.map_map]
  | loadRecord source id =>
    refine (on_map_eq_settle _ (on_loadRecord source id)).trans ?_
    simp only [after, Functor.map_map]
  | generate => exact on_generate
  | applyEdit html author => exact on_applyEdit html author
  | editWith editor author =>
    refine (on_map_eq_settle _ (on_editWith editor author)).trans ?_
    simp only [after, Functor.map_map]
  | backToForm => exact on_backToForm
  | startOver => rfl
  | exportPdf renderer =>
    refine (on_map_eq_settle _ (on_ask (·.exportPdf renderer))).trans ?_
    simp only [after, Functor.map_map]

/-- Steps that are taken in place, one after another, whatever each of them comes to. -/
theorem foldl_perform (steps : List Step) :
    steps.foldl (fun s step => (on s (perform step)).2) s = s.run steps := by
  refine congrArg (fun go => steps.foldl go s) ?_
  funext s step
  rw [on_perform, goOn]
  cases s.after step <;> rfl

/-! ## Faults -/

/-- Once the document is shown to an editor, the session is settled by how the editor ends and by
the last text it reports. -/
theorem on_editWith_of_request (editor : TextEditor) (author : Author) {request : EditRequest}
    (shown : s.editRequest = .ok request) :
    on s (editWith editor author) = match (editor request).outcome with
      | .error fault => (.error (.passedOn fault), s)
      | .ok _ =>
        match (editor request).reports.getLast? with
        | some html => on s ((fun _ => true) <$> applyEdit html author)
        | none => (.ok false, s) := by
  unfold editWith
  rw [on_ask_bind, shown]
  dsimp only
  rw [on_ask_bind, foldl_report, Option.or_none]
  cases (editor request).outcome with
  | error fault => rfl
  | ok _ => cases (editor request).reports.getLast? <;> rfl

/-- A step that fails leaves the session as it was, whatever that session and whatever the step was
handed. An editor that fails has changed nothing, whatever it reported; one that ends well without a
report has changed nothing either; and of several reports only the last is an edit. -/
theorem fault_leaves_session (s : Session) :
    (∀ step fault, (on s (perform step)).1 = .error fault → (on s (perform step)).2 = s) ∧
    ∀ (editor : TextEditor) (author : Author) (request : EditRequest),
      s.editRequest = .ok request →
      (∀ fault, (editor request).outcome = .error fault →
        on s (editWith editor author) = (.error (.passedOn fault), s)) ∧
      ((editor request).outcome = .ok () → (editor request).reports = [] →
        on s (editWith editor author) = (.ok false, s)) ∧
      ∀ before last, (editor request).outcome = .ok () →
        (editor request).reports = before ++ [last] →
        on s (editWith editor author) =
          ((fun _ => true) <$> (on s (applyEdit last author)).1,
            (on s (applyEdit last author)).2) := by
  refine ⟨fun step fault h => ?_, fun editor author request shown => ?_⟩
  · rw [on_perform] at h ⊢
    exact settle_error h
  · have edited := on_editWith_of_request editor author shown
    refine ⟨fun fault failed => ?_, fun ended silent => ?_, fun before last ended reported => ?_⟩
    · rw [edited, failed]
    · rw [edited, ended, silent]
      rfl
    · rw [edited, ended, reported, List.getLast?_concat]
      exact on_map _ _

/-- A document without a template, which no run of steps leads to, in the hands of three editors. -/
theorem fault_leaves_session_three_editors :
    let s : Session := ⟨.standard, .editor, none, Table.empty, some ⟨"<p>a</p>", none⟩⟩
    let author : Author := ⟨1, "Ana"⟩
    let reports := ["<p>b</p>", "<p>c</p>"]
    let failing : TextEditor := fun _ => ⟨reports, .error (.editor (.told "no"))⟩
    let silent : TextEditor := fun _ => ⟨[], .ok ()⟩
    let reporting : TextEditor := fun _ => ⟨reports, .ok ()⟩
    (on s (perform (.editWith failing author))).2 = s ∧
    on s (editWith failing author) = (.error (.passedOn (.editor (.told "no"))), s) ∧
    on s (editWith silent author) = (.ok false, s) ∧
    on s (editWith reporting author) =
      (.ok true, { s with document := some ⟨"<p>c</p>", some author⟩ }) := by
  intro s author reports failing silent reporting
  obtain ⟨keeps, edits⟩ := fault_leaves_session s
  obtain ⟨-, -, edited⟩ := edits reporting author ⟨"<p>a</p>", s.config.editor⟩ rfl
  refine ⟨keeps (.editWith failing author) (.passedOn (.editor (.told "no"))) rfl, ?_, ?_, ?_⟩
  · exact (edits failing author ⟨"<p>a</p>", s.config.editor⟩ rfl).1 (.editor (.told "no")) rfl
  · exact (edits silent author ⟨"<p>a</p>", s.config.editor⟩ rfl).2.1 rfl rfl
  · rw [edited ["<p>b</p>"] "<p>c</p>" rfl rfl]
    rfl

end Formulary.Session.InPlace
