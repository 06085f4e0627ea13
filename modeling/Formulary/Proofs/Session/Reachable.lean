import Formulary.Proofs.Session.Moves
import Formulary.Proofs.Template.Reading

/-!
What holds of a session at any time. The view tells whether there is a template; a template comes
with the reading of its text and with a value for each of its variables; a document is there only
for a template without issues, and always in the editor. Each step that goes through keeps all of
it, and so no step ever fails for want of a template or of a document.
-/

namespace Formulary.Session

open Template Record Editor

/-- View, template, values and document of a session fit together. -/
structure WellFormed (s : Session) : Prop where
  upload_iff : s.view = .upload ↔ s.template = none
  blank : s.view = .upload → s.values = Table.empty ∧ s.document = none
  reading : ∀ form, s.template = some form →
    form.names = (scan form.html).names ∧ form.issues = (scan form.html).issues
  keys : ∀ form, s.template = some form → form.names <+: s.values.keys
  unblocked : ∀ document, s.document = some document →
    ∃ form, s.template = some form ∧ form.issues = []
  editor : s.view = .editor → ∃ document, s.document = some document

theorem wellFormed_start (config : Config) : (start config).WellFormed := by
  refine ⟨⟨fun _ => rfl, fun _ => rfl⟩, fun _ => ⟨rfl, rfl⟩, ?_, ?_, ?_, ?_⟩
  · intro form h; cases h
  · intro form h; cases h
  · intro document h; cases h
  · intro h; cases h

/-! ## Steps -/

/-- Drawing a value for each name leaves the names as they are. -/
theorem entryKeys_mapM {σ : Type} (draw : String → Sample.Draw σ String) (names : List String)
    (source : σ) :
    entryKeys ((names.mapM fun name => (name, ·) <$> draw name).run source).1 = names := by
  induction names generalizing source with
  | nil => rfl
  | cons name rest ih =>
    rw [List.mapM_cons]
    exact congrArg (name :: ·) (ih _)

/-- Invented values are there for the names that they were invented for. -/
theorem keys_autofill {σ : Type} [Sample.WordSource σ] {rules : List (Sample.Rule σ)}
    {names : List String} (h : names.Nodup) (source : σ) :
    ((Sample.autofill rules names).run source).1.keys = names := by
  have drawn := entryKeys_mapM (Sample.invent rules) names source
  rw [← drawn] at h
  exact (Table.keys_ofList h).trans drawn

variable {s next : Session}

theorem WellFormed.template_of_view (h : s.WellFormed) (hv : s.view ≠ .upload) :
    ∃ form, s.template = some form := by
  cases ht : s.template with
  | none => exact absurd (h.upload_iff.2 ht) hv
  | some form => exact ⟨form, rfl⟩

theorem WellFormed.with_values (h : s.WellFormed) (hv : s.view = .form) {values : Values}
    (keys : ∀ form, s.template = some form → form.names <+: values.keys) :
    WellFormed { s with values } :=
  ⟨h.upload_iff, fun hu => absurd (hv.symm.trans hu) (by decide), h.reading, keys, h.unblocked,
    h.editor⟩

/-- A document fits where the template has no issues. -/
theorem WellFormed.with_document (h : s.WellFormed) {form : Form} (ht : s.template = some form)
    (hi : form.issues = []) {view : View} (hv : view ≠ .upload) (document : FilledText) :
    WellFormed { s with view, document := some document } := by
  refine ⟨⟨fun hu => absurd hu hv, fun hn => ?_⟩, fun hu => absurd hu hv, h.reading, h.keys,
    fun _ _ => ⟨form, ht, hi⟩, fun _ => ⟨document, rfl⟩⟩
  cases ht.symm.trans hn

theorem WellFormed.with_form (h : s.WellFormed) (hv : s.view ≠ .upload) :
    WellFormed { s with view := .form } := by
  obtain ⟨form, ht⟩ := h.template_of_view hv
  refine ⟨⟨fun hu => ?_, fun hn => ?_⟩, fun hu => ?_, h.reading, h.keys, h.unblocked, fun he => ?_⟩
  · cases hu
  · cases ht.symm.trans hn
  · cases hu
  · cases he

theorem wellFormed_of_moves {step : Step} (h : s.WellFormed) (moves : Moves s step next) :
    next.WellFormed := by
  cases moves with
  | @loadTemplate convert fileName bytes html hv hhtml =>
    refine ⟨⟨fun hu => ?_, fun hn => ?_⟩, fun hu => ?_, fun form hf => ?_, fun form hf => ?_,
      fun document hd => ?_, fun he => ?_⟩
    · cases hu
    · cases hn
    · cases hu
    · rw [← Option.some.inj hf]
      exact ⟨rfl, rfl⟩
    · rw [← Option.some.inj hf]
      have keys := keys_blankValues (nodup_scan_names html)
      exact ⟨[], (List.append_nil _).trans keys.symm⟩
    · cases hd
    · cases he
  | @setValue name value hv =>
    exact h.with_values hv fun form ht =>
      (h.keys form ht).trans (Table.prefix_keys_set s.values name value)
  | @autofill σ _ rules source form hv ht =>
    refine h.with_values hv fun form' ht' => ?_
    cases ht.symm.trans ht'
    have nodup : form.names.Nodup := by
      rw [(h.reading form ht).1]
      exact nodup_scan_names form.html
    have keys : ((Sample.autofill rules form.names).run source).1.keys = form.names :=
      keys_autofill nodup source
    exact ⟨[], (List.append_nil _).trans keys.symm⟩
  | @loadRecord source id record hv hr =>
    exact h.with_values hv fun form ht =>
      (h.keys form ht).trans (Table.prefix_keys_setAll s.values _)
  | generate hv ht hi => exact h.with_document ht hi (by decide) _
  | applyEdit hv hd =>
    obtain ⟨form, ht, hi⟩ := h.unblocked _ hd
    exact h.with_document ht hi (by rw [hv]; decide) _
  | editWith hv hd hlast =>
    obtain ⟨form, ht, hi⟩ := h.unblocked _ hd
    exact h.with_document ht hi (by rw [hv]; decide) _
  | editNothing hv hd hlast => exact h
  | backToForm hv => exact h.with_form (by rw [hv]; decide)
  | startOver => exact wellFormed_start s.config
  | exportPdf hv => exact h

/-! ## Runs -/

theorem wellFormed_goOn (h : s.WellFormed) (step : Step) : (s.goOn step).WellFormed := by
  unfold goOn
  cases hs : s.after step with
  | ok next => exact wellFormed_of_moves h (moves_of_after hs)
  | error fault => exact h

theorem wellFormed_run (h : s.WellFormed) (steps : List Step) : (s.run steps).WellFormed := by
  induction steps generalizing s with
  | nil => exact h
  | cons step rest ih => exact ih (wellFormed_goOn h step)

/-- A session that is well-formed has the template and the document that its view asks for. -/
theorem WellFormed.nothing_missing (h : s.WellFormed) (step : Step) :
    s.after step ≠ .error .noTemplate ∧ s.after step ≠ .error .noDocument := by
  constructor
  · intro he
    obtain ⟨hv, ht⟩ := (fails_of_after he).missing.1 rfl
    exact hv (h.upload_iff.2 ht)
  · intro he
    obtain ⟨hv, hd⟩ := (fails_of_after he).missing.2 rfl
    obtain ⟨document, hd'⟩ := h.editor hv
    cases hd.symm.trans hd'

/-- However steps follow each other, the parts of a session fit together, and no step fails for
want of a template or of a document. -/
theorem run_wellFormed (config : Config) (steps : List Step) :
    ((start config).run steps).WellFormed ∧
    ∀ step, ((start config).run steps).after step ≠ .error .noTemplate ∧
      ((start config).run steps).after step ≠ .error .noDocument := by
  have h := wellFormed_run (wellFormed_start config) steps
  exact ⟨h, h.nothing_missing⟩

end Formulary.Session
