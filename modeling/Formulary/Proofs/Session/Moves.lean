import Formulary.Proofs.Outcome
import Formulary.Session.History

/-!
What the operations of a session can do. `Moves` says of every step that goes through what it found
and which session it led to; `Fails` says of every step that does not what stood in its way.
-/

namespace Formulary.Session

open Template Record Editor

/-- The step goes through and leads from `s` to another session. -/
inductive Moves (s : Session) : Step → Session → Prop
  | loadTemplate {convert : Converter} {fileName : String} {bytes : List UInt8} {html : String} :
      s.view = .upload → convert bytes = .ok html →
      Moves s (.loadTemplate convert fileName bytes)
        { s with
          view := .form
          template := some (.ofHtml (titleOfFileName fileName) s.config.output.actType html)
          values := Template.blankValues (scan html).names
          document := none }
  | setValue {name value : String} :
      s.view = .form → Moves s (.setValue name value) { s with values := s.values.set name value }
  | autofill {σ : Type} [Sample.WordSource σ] {rules : List (Sample.Rule σ)} {source : σ}
      {form : Form} : s.view = .form → s.template = some form →
      Moves s (.autofill rules source)
        { s with values := ((Sample.autofill rules form.names).run source).1 }
  | loadRecord {source : Source} {id : String} {record : Fields} :
      s.view = .form → source (Text.trim id) = .ok record →
      Moves s (.loadRecord source id)
        { s with values := s.values.merge (normalize s.config.records record) }
  | generate {form : Form} : s.view = .form → s.template = some form → form.issues = [] →
      Moves s .generate
        { s with
          view := .editor
          document := some ⟨fill form.html s.values s.config.style, none⟩ }
  | applyEdit {html : String} {author : Author} {document : FilledText} :
      s.view = .editor → s.document = some document →
      Moves s (.applyEdit html author) { s with document := some ⟨html, some author⟩ }
  | editWith {editor : TextEditor} {author : Author} {document : FilledText} {html : String} :
      s.view = .editor → s.document = some document →
      (editor ⟨document.html, s.config.editor⟩).reports.getLast? = some html →
      Moves s (.editWith editor author) { s with document := some ⟨html, some author⟩ }
  | editNothing {editor : TextEditor} {author : Author} {document : FilledText} :
      s.view = .editor → s.document = some document →
      (editor ⟨document.html, s.config.editor⟩).reports.getLast? = none →
      Moves s (.editWith editor author) s
  | backToForm : s.view = .editor → Moves s .backToForm { s with view := .form }
  | startOver : Moves s .startOver (start s.config)
  | exportPdf {renderer : Render.Renderer} : s.view = .editor → Moves s (.exportPdf renderer) s

/-- The step fails, and this is what stands in its way. -/
inductive Fails (s : Session) : Step → Fault → Prop
  | refused {step : Step} {refusal : Refusal} :
      s.view.after step.action = .error refusal → Fails s step (.refused refusal)
  | upload {convert : Converter} {fileName : String} {bytes : List UInt8} {fault : Fault} :
      s.view = .upload → convert bytes = .error fault →
      Fails s (.loadTemplate convert fileName bytes) (.passedOn fault)
  | noTemplate {step : Step} : s.view ≠ .upload → s.template = none → Fails s step .noTemplate
  | noDocument {step : Step} : s.view = .editor → s.document = none → Fails s step .noDocument
  | noRecordId {source : Source} {id : String} :
      s.view = .form → (Text.trim id).isEmpty → Fails s (.loadRecord source id) .noRecordId
  | lookup {source : Source} {id : String} {fault : Fault} :
      s.view = .form → source (Text.trim id) = .error fault →
      Fails s (.loadRecord source id) (.passedOn fault)
  | blocked {form : Form} {first : Issue} {rest : List Issue} :
      s.view = .form → s.template = some form → form.issues = first :: rest →
      Fails s .generate (.blocked (rest.length + 1) first)
  | edit {editor : TextEditor} {author : Author} {document : FilledText} {fault : Fault} :
      s.view = .editor → s.document = some document →
      (editor ⟨document.html, s.config.editor⟩).outcome = .error fault →
      Fails s (.editWith editor author) (.passedOn fault)
  | page {renderer : Render.Renderer} {fault : Config.SizeFault} :
      s.view = .editor → s.config.page.size = .error fault →
      Fails s (.exportPdf renderer) (.config (.size fault))
  | render {renderer : Render.Renderer} {fault : Render.RenderFault} :
      s.view = .editor → Fails s (.exportPdf renderer) (.render fault)

variable {s next : Session}

/-- Which view allows an action, and where it leads. -/
theorem View.eq_of_after {view view' : View} {action : Action} (h : view.after action = .ok view') :
    match action with
    | .loadTemplate => view = .upload ∧ view' = .form
    | .editValues => view = .form ∧ view' = .form
    | .generate => view = .form ∧ view' = .editor
    | .edit | .export => view = .editor ∧ view' = .editor
    | .backToForm => view = .editor ∧ view' = .form
    | .startOver => view' = .upload := by
  cases view <;> cases action <;> cases h <;> simp

theorem viewAfter_eq_ok {action : Action} {view : View} (h : s.viewAfter action = .ok view) :
    s.view.after action = .ok view := mapError_eq_ok h

theorem requireTemplate_eq_ok {form : Form} (h : s.requireTemplate = .ok form) :
    s.template = some form := by
  unfold requireTemplate at h
  cases ht : s.template with
  | none => rw [ht] at h; cases h
  | some t => rw [ht] at h; cases h; rfl

theorem requireDocument_eq_ok {document : FilledText} (h : s.requireDocument = .ok document) :
    s.document = some document := by
  unfold requireDocument at h
  cases hd : s.document with
  | none => rw [hd] at h; cases h
  | some d => rw [hd] at h; cases h; rfl

/-! ## Steps that go through -/

theorem moves_of_loadTemplate {convert : Converter} {fileName : String} {bytes : List UInt8}
    (h : s.loadTemplate convert fileName bytes = .ok next) :
    Moves s (.loadTemplate convert fileName bytes) next := by
  obtain ⟨view, hview, h⟩ := bind_eq_ok h
  obtain ⟨html, hhtml, h⟩ := bind_eq_ok h
  obtain ⟨hv, rfl⟩ := View.eq_of_after (viewAfter_eq_ok hview)
  cases h
  exact .loadTemplate hv (mapError_eq_ok hhtml)

theorem moves_of_setValue {name value : String} (h : s.setValue name value = .ok next) :
    Moves s (.setValue name value) next := by
  obtain ⟨view, hview, h⟩ := bind_eq_ok h
  cases h
  exact .setValue (View.eq_of_after (viewAfter_eq_ok hview)).1

theorem moves_of_autofill {σ : Type} [Sample.WordSource σ] {rules : List (Sample.Rule σ)}
    {source source' : σ} (h : s.autofill rules source = .ok (source', next)) :
    Moves s (.autofill rules source) next := by
  obtain ⟨view, hview, h⟩ := bind_eq_ok h
  obtain ⟨form, hform, h⟩ := bind_eq_ok h
  cases h
  exact .autofill (View.eq_of_after (viewAfter_eq_ok hview)).1 (requireTemplate_eq_ok hform)

theorem moves_of_loadRecord {source : Source} {id : String} {n : Nat}
    (h : s.loadRecord source id = .ok (n, next)) : Moves s (.loadRecord source id) next := by
  obtain ⟨view, hview, h⟩ := bind_eq_ok h
  have hv := (View.eq_of_after (viewAfter_eq_ok hview)).1
  dsimp only at h
  split at h
  · cases h
  · obtain ⟨record, hrecord, h⟩ := bind_eq_ok h
    cases h
    exact .loadRecord hv (mapError_eq_ok hrecord)

theorem moves_of_generate (h : s.generate = .ok next) : Moves s .generate next := by
  obtain ⟨view, hview, h⟩ := bind_eq_ok h
  obtain ⟨form, hform, h⟩ := bind_eq_ok h
  obtain ⟨hv, rfl⟩ := View.eq_of_after (viewAfter_eq_ok hview)
  split at h
  · cases h
  · next hissues =>
    cases h
    exact .generate hv (requireTemplate_eq_ok hform) hissues

theorem moves_of_applyEdit {html : String} {author : Author}
    (h : s.applyEdit html author = .ok next) : Moves s (.applyEdit html author) next := by
  obtain ⟨view, hview, h⟩ := bind_eq_ok h
  obtain ⟨document, hdocument, h⟩ := bind_eq_ok h
  cases h
  exact .applyEdit (View.eq_of_after (viewAfter_eq_ok hview)).1 (requireDocument_eq_ok hdocument)

theorem editRequest_eq_ok {request : EditRequest} (h : s.editRequest = .ok request) :
    s.view = .editor ∧ ∃ document, s.document = some document ∧
      request = ⟨document.html, s.config.editor⟩ := by
  obtain ⟨view, hview, h⟩ := bind_eq_ok h
  obtain ⟨document, hdocument, h⟩ := bind_eq_ok h
  cases h
  exact ⟨(View.eq_of_after (viewAfter_eq_ok hview)).1, document, requireDocument_eq_ok hdocument,
    rfl⟩

theorem moves_of_editWith {editor : TextEditor} {author : Author} {changed : Bool}
    (h : s.editWith editor author = .ok (changed, next)) : Moves s (.editWith editor author) next := by
  obtain ⟨request, hrequest, h⟩ := bind_eq_ok h
  obtain ⟨hv, document, hdocument, rfl⟩ := editRequest_eq_ok hrequest
  obtain ⟨_, _, h⟩ := bind_eq_ok h
  split at h
  · next html hlast =>
    obtain ⟨edited, hedited, h⟩ := bind_eq_ok h
    cases h
    cases moves_of_applyEdit hedited
    exact .editWith hv hdocument hlast
  · next hlast =>
    cases h
    exact .editNothing hv hdocument hlast

theorem moves_of_backToForm (h : s.backToForm = .ok next) : Moves s .backToForm next := by
  obtain ⟨view, hview, h⟩ := bind_eq_ok h
  obtain ⟨hv, rfl⟩ := View.eq_of_after (viewAfter_eq_ok hview)
  cases h
  exact .backToForm hv

theorem view_of_exportPdf {renderer : Render.Renderer} {exported : Exported}
    (h : s.exportPdf renderer = .ok exported) : s.view = .editor := by
  obtain ⟨request, hrequest, -⟩ := bind_eq_ok h
  obtain ⟨view, hview, -⟩ := bind_eq_ok hrequest
  exact (View.eq_of_after (viewAfter_eq_ok hview)).1

/-- A step that goes through is one of those that `Moves` tells of. -/
theorem moves_of_after {step : Step} (h : s.after step = .ok next) : Moves s step next := by
  cases step with
  | loadTemplate convert fileName bytes => exact moves_of_loadTemplate h
  | setValue name value => exact moves_of_setValue h
  | autofill rules source =>
    obtain ⟨⟨source', next'⟩, hop, rfl⟩ := map_eq_ok h
    exact moves_of_autofill hop
  | loadRecord source id =>
    obtain ⟨⟨n, next'⟩, hop, rfl⟩ := map_eq_ok h
    exact moves_of_loadRecord hop
  | generate => exact moves_of_generate h
  | applyEdit html author => exact moves_of_applyEdit h
  | editWith editor author =>
    obtain ⟨⟨changed, next'⟩, hop, rfl⟩ := map_eq_ok h
    exact moves_of_editWith hop
  | backToForm => exact moves_of_backToForm h
  | startOver =>
    cases h
    exact .startOver
  | exportPdf renderer =>
    obtain ⟨exported, hop, rfl⟩ := map_eq_ok h
    exact .exportPdf (view_of_exportPdf hop)

/-! ## Steps that fail -/

/-- Only what is not there is missed. -/
theorem Fails.missing {step : Step} {fault : Fault} (h : Fails s step fault) :
    (fault = .noTemplate → s.view ≠ .upload ∧ s.template = none) ∧
    (fault = .noDocument → s.view = .editor ∧ s.document = none) := by
  cases h with
  | noTemplate hv ht => exact ⟨fun _ => ⟨hv, ht⟩, nofun⟩
  | noDocument hv hd => exact ⟨nofun, fun _ => ⟨hv, hd⟩⟩
  | _ => exact ⟨nofun, nofun⟩

theorem viewAfter_eq_error {action : Action} {fault : Fault} (h : s.viewAfter action = .error fault) :
    ∃ refusal, s.view.after action = .error refusal ∧ fault = .refused refusal := by
  obtain ⟨refusal, hr, rfl⟩ := mapError_eq_error h
  exact ⟨refusal, hr, rfl⟩

theorem requireTemplate_eq_error {fault : Fault} (h : s.requireTemplate = .error fault) :
    s.template = none ∧ fault = .noTemplate := by
  unfold requireTemplate at h
  cases ht : s.template with
  | none => rw [ht] at h; cases h; exact ⟨rfl, rfl⟩
  | some t => rw [ht] at h; cases h

theorem requireDocument_eq_error {fault : Fault} (h : s.requireDocument = .error fault) :
    s.document = none ∧ fault = .noDocument := by
  unfold requireDocument at h
  cases hd : s.document with
  | none => rw [hd] at h; cases h; exact ⟨rfl, rfl⟩
  | some d => rw [hd] at h; cases h

variable {fault : Fault}

/-- An operation first asks the view, and what it refuses is refused. -/
theorem fails_of_asking {α : Type} (step : Step) {f : View → Except Fault α}
    (h : (s.viewAfter step.action >>= f) = .error fault) :
    Fails s step fault ∨ ∃ view, s.view.after step.action = .ok view ∧ f view = .error fault := by
  rcases bind_eq_error h with h | ⟨view, hview, h⟩
  · obtain ⟨refusal, hr, rfl⟩ := viewAfter_eq_error h
    exact .inl (.refused hr)
  · exact .inr ⟨view, viewAfter_eq_ok hview, h⟩

/-- An operation that needs the template goes on with it, or misses it. -/
theorem fails_of_requireTemplate {α : Type} (step : Step) {f : Form → Except Fault α}
    (hv : s.view ≠ .upload) (h : (s.requireTemplate >>= f) = .error fault) :
    Fails s step fault ∨ ∃ form, s.template = some form ∧ f form = .error fault := by
  rcases bind_eq_error h with h | ⟨form, hform, h⟩
  · obtain ⟨ht, rfl⟩ := requireTemplate_eq_error h
    exact .inl (.noTemplate hv ht)
  · exact .inr ⟨form, requireTemplate_eq_ok hform, h⟩

theorem fails_of_requireDocument {α : Type} (step : Step) {f : FilledText → Except Fault α}
    (hv : s.view = .editor) (h : (s.requireDocument >>= f) = .error fault) :
    Fails s step fault ∨ ∃ document, s.document = some document ∧ f document = .error fault := by
  rcases bind_eq_error h with h | ⟨document, hdocument, h⟩
  · obtain ⟨hd, rfl⟩ := requireDocument_eq_error h
    exact .inl (.noDocument hv hd)
  · exact .inr ⟨document, requireDocument_eq_ok hdocument, h⟩

theorem fails_of_autofill {σ : Type} [Sample.WordSource σ] {rules : List (Sample.Rule σ)}
    {source : σ} (h : s.autofill rules source = .error fault) :
    Fails s (.autofill rules source) fault := by
  rcases fails_of_asking (.autofill rules source) h with h | ⟨view, hview, h⟩
  · exact h
  · have hv := (View.eq_of_after hview).1
    rcases fails_of_requireTemplate (.autofill rules source) (by simp [hv]) h with h | ⟨form, -, h⟩
    · exact h
    · cases h

theorem fails_of_loadRecord {source : Source} {id : String}
    (h : s.loadRecord source id = .error fault) : Fails s (.loadRecord source id) fault := by
  rcases fails_of_asking (.loadRecord source id) h with h | ⟨view, hview, h⟩
  · exact h
  · have hv := (View.eq_of_after hview).1
    dsimp only at h
    split at h
    · next hempty =>
      cases h
      exact .noRecordId hv hempty
    · rcases bind_eq_error h with h | ⟨record, -, h⟩
      · obtain ⟨lookup, hl, rfl⟩ := mapError_eq_error h
        exact .lookup hv hl
      · cases h

theorem fails_of_generate (h : s.generate = .error fault) : Fails s .generate fault := by
  rcases fails_of_asking .generate h with h | ⟨view, hview, h⟩
  · exact h
  · have hv := (View.eq_of_after hview).1
    rcases fails_of_requireTemplate .generate (by simp [hv]) h with h | ⟨form, hform, h⟩
    · exact h
    · split at h
      · next first rest hissues =>
        cases h
        exact .blocked hv hform hissues
      · cases h

theorem fails_of_applyEdit {html : String} {author : Author}
    (h : s.applyEdit html author = .error fault) : Fails s (.applyEdit html author) fault := by
  rcases fails_of_asking (.applyEdit html author) h with h | ⟨view, hview, h⟩
  · exact h
  · have hv := (View.eq_of_after hview).1
    rcases fails_of_requireDocument (.applyEdit html author) hv h with h | ⟨document, -, h⟩
    · exact h
    · cases h

theorem fails_of_editWith {editor : TextEditor} {author : Author}
    (h : s.editWith editor author = .error fault) : Fails s (.editWith editor author) fault := by
  rcases bind_eq_error h with h | ⟨request, hrequest, h⟩
  · rcases fails_of_asking (.editWith editor author) h with h | ⟨view, hview, h⟩
    · exact h
    · have hv := (View.eq_of_after hview).1
      rcases fails_of_requireDocument (.editWith editor author) hv h with h | ⟨document, -, h⟩
      · exact h
      · cases h
  · obtain ⟨hv, document, hdocument, rfl⟩ := editRequest_eq_ok hrequest
    rcases bind_eq_error h with h | ⟨_, -, h⟩
    · obtain ⟨edit, he, rfl⟩ := mapError_eq_error h
      exact .edit hv hdocument he
    · split at h
      · -- The document is still there when the text comes back.
        rcases bind_eq_error h with h | ⟨edited, -, h⟩
        · cases fails_of_applyEdit h with
          | refused hr =>
            rw [hv] at hr
            cases hr
          | noTemplate hv' ht => exact .noTemplate hv' ht
          | noDocument hv' hd => exact .noDocument hv' hd
        · cases h
      · cases h

theorem fails_of_exportPdf {renderer : Render.Renderer} (h : s.exportPdf renderer = .error fault) :
    Fails s (.exportPdf renderer) fault := by
  rcases bind_eq_error h with h | ⟨request, hrequest, h⟩
  · rcases fails_of_asking (.exportPdf renderer) h with h | ⟨view, hview, h⟩
    · exact h
    · have hv := (View.eq_of_after hview).1
      rcases fails_of_requireTemplate (.exportPdf renderer) (by simp [hv]) h with h | ⟨form, -, h⟩
      · exact h
      · rcases fails_of_requireDocument (.exportPdf renderer) hv h with h | ⟨document, -, h⟩
        · exact h
        · rcases bind_eq_error h with h | ⟨page, -, h⟩
          · obtain ⟨size, hs, rfl⟩ := mapError_eq_error h
            exact .page hv hs
          · cases h
  · obtain ⟨view, hview, -⟩ := bind_eq_ok hrequest
    have hv := (View.eq_of_after (viewAfter_eq_ok hview)).1
    rcases bind_eq_error h with h | ⟨bitmap, -, h⟩
    · obtain ⟨render, -, rfl⟩ := mapError_eq_error h
      exact .render hv
    · obtain ⟨plan, -, rfl⟩ := mapError_eq_error h
      exact .render hv

/-- A step that fails is one of those that `Fails` tells of. -/
theorem fails_of_after {step : Step} (h : s.after step = .error fault) : Fails s step fault := by
  cases step with
  | loadTemplate convert fileName bytes =>
    rcases fails_of_asking (.loadTemplate convert fileName bytes) h with h | ⟨view, hview, h⟩
    · exact h
    · have hv := (View.eq_of_after hview).1
      rcases bind_eq_error h with h | ⟨html, -, h⟩
      · obtain ⟨upload, hu, rfl⟩ := mapError_eq_error h
        exact .upload hv hu
      · cases h
  | setValue name value =>
    rcases fails_of_asking (.setValue name value) h with h | ⟨view, -, h⟩
    · exact h
    · cases h
  | autofill rules source => exact fails_of_autofill (map_eq_error h)
  | loadRecord source id => exact fails_of_loadRecord (map_eq_error h)
  | generate => exact fails_of_generate h
  | applyEdit html author => exact fails_of_applyEdit h
  | editWith editor author => exact fails_of_editWith (map_eq_error h)
  | backToForm =>
    rcases fails_of_asking .backToForm h with h | ⟨view, -, h⟩
    · exact h
    · cases h
  | startOver => cases h
  | exportPdf renderer => exact fails_of_exportPdf (map_eq_error h)

end Formulary.Session
