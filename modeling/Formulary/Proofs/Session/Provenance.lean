import Formulary.Proofs.Session.Reachable
import Formulary.Proofs.Template.Fill

/-!
Where the text of a document comes from. What has been done in a session is told as the list of its
deeds, the steps that went through, each with the session it was taken in. Template, values and
document can be told from it: a generated document is the template loaded last, filled with what has
been written since, and an edited one is the text that an edit put there last.
-/

namespace Formulary.Session

open Template Record Editor

universe u v

/-- A step that went through, and the session that it was taken in. -/
structure Deed where
  session : Session
  step : Step

/-- The deeds among steps that are taken in turn. -/
def deeds (s : Session) : List Step → List Deed
  | [] => []
  | step :: rest =>
    match s.after step with
    | .ok next => ⟨s, step⟩ :: next.deeds rest
    | .error _ => s.deeds rest

namespace Deed

/-- The text that was loaded as the template. -/
def loads (d : Deed) : Option String :=
  match d.step with
  | .loadTemplate convert _ bytes => (convert bytes).toOption
  | _ => none

/-- What was made of the values. -/
def writes (config : Config) (names : List String) (values : Values) (d : Deed) : Values :=
  match d.step with
  | .setValue name value => values.set name value
  | @Step.autofill _ _ rules source => ((Sample.autofill rules names).run source).1
  | .loadRecord source id =>
    match source (Text.trim id) with
    | .ok record => values.merge (normalize config.records record)
    | .error _ => values
  | _ => values

/-- The text that an edit put in place of the document, and whose edit it was. -/
def edits (d : Deed) : Option (String × Author) :=
  match d.step with
  | .applyEdit html author => some (html, author)
  | .editWith editor author => do
    let document ← d.session.document
    let html ← (editor ⟨document.html, d.session.config.editor⟩).reports.getLast?
    pure (html, author)
  | _ => none

end Deed

/-- Blank values for the names of a text, with what deeds have made of them in turn. -/
def valuesSince (config : Config) (html : String) (since : List Deed) : Values :=
  since.foldl (Deed.writes config (scan html).names) (Template.blankValues (scan html).names)

/-- The last in a list for which there is a result is one that gives `b`, and `since` is behind
it. -/
def Latest {α : Type u} {β : Type v} (f : α → Option β) (xs : List α) (b : β) (since : List α) : Prop :=
  ∃ before x, xs = before ++ x :: since ∧ f x = some b ∧ ∀ y ∈ since, f y = none

section Latest

variable {α : Type u} {β : Type v} {f : α → Option β} {xs since : List α} {b : β} {x : α}

theorem Latest.of_some (h : f x = some b) : Latest f (xs ++ [x]) b [] :=
  ⟨xs, x, rfl, h, by simp⟩

theorem Latest.of_none (h : Latest f xs b since) (hx : f x = none) :
    Latest f (xs ++ [x]) b (since ++ [x]) := by
  obtain ⟨before, last, rfl, hlast, hsince⟩ := h
  refine ⟨before, last, by simp, hlast, fun y hy => ?_⟩
  rcases List.mem_append.1 hy with hy | hy
  · exact hsince y hy
  · rw [List.mem_singleton.1 hy, hx]

end Latest

/-- The state of a session is what its deeds have made of it. -/
structure Recorded (config : Config) (done : List Deed) (s : Session) : Prop where
  config_eq : s.config = config
  loaded : ∀ form, s.template = some form → ∃ since, Latest Deed.loads done form.html since ∧
    s.values = valuesSince config form.html since
  generated : s.view = .editor → ∀ form document, s.template = some form →
    s.document = some document → document.editedBy = none →
    document.html = fill form.html s.values config.style
  edited : ∀ document author, s.document = some document → document.editedBy = some author →
    ∃ since, Latest Deed.edits done (document.html, author) since

theorem recorded_start (config : Config) : Recorded config [] (start config) := by
  refine ⟨rfl, ?_, ?_, ?_⟩
  · intro form h; cases h
  · intro h; cases h
  · intro document author h; cases h

/-! ## Steps -/

variable {config : Config} {done : List Deed} {s next : Session}

/-- A deed that loads nothing goes on from the values there were. -/
theorem Recorded.loaded_after (h : Recorded config done s) {d : Deed} (hd : d.loads = none)
    {values : Values} (written : ∀ form, s.template = some form →
      values = d.writes config (scan form.html).names s.values) {form : Form}
    (ht : s.template = some form) : ∃ since, Latest Deed.loads (done ++ [d]) form.html since ∧
      values = valuesSince config form.html since := by
  obtain ⟨since, latest, hvalues⟩ := h.loaded form ht
  refine ⟨since ++ [d], latest.of_none hd, ?_⟩
  rw [written form ht, hvalues, valuesSince, valuesSince, List.foldl_append]
  rfl

/-- A deed that edits nothing leaves the last edit the last one. -/
theorem Recorded.edited_after (h : Recorded config done s) {d : Deed} (hd : d.edits = none)
    {document : FilledText} {author : Author} (hdoc : s.document = some document)
    (hby : document.editedBy = some author) :
    ∃ since, Latest Deed.edits (done ++ [d]) (document.html, author) since := by
  obtain ⟨since, latest⟩ := h.edited document author hdoc hby
  exact ⟨since ++ [d], latest.of_none hd⟩

theorem Recorded.with_values (h : Recorded config done s) (hv : s.view = .form) {d : Deed}
    (hloads : d.loads = none) (hedits : d.edits = none) {values : Values}
    (written : ∀ form, s.template = some form →
      values = d.writes config (scan form.html).names s.values) :
    Recorded config (done ++ [d]) { s with values } := by
  refine ⟨h.config_eq, fun form ht => h.loaded_after hloads written ht, fun he => ?_,
    fun document author hdoc hby => h.edited_after hedits hdoc hby⟩
  cases hv.symm.trans he

theorem Recorded.with_edit (h : Recorded config done s) {d : Deed} {html : String} {author : Author}
    (hloads : d.loads = none) (hwrites : ∀ names, d.writes config names s.values = s.values)
    (hedits : d.edits = some (html, author)) :
    Recorded config (done ++ [d]) { s with document := some ⟨html, some author⟩ } := by
  refine ⟨h.config_eq, fun form ht => h.loaded_after hloads (fun _ _ => (hwrites _).symm) ht, ?_, ?_⟩
  · intro _ form document _ hdoc hby
    rw [← Option.some.inj hdoc] at hby
    cases hby
  · intro document author' hdoc hby
    rw [← Option.some.inj hdoc] at hby ⊢
    rw [← Option.some.inj hby]
    exact ⟨[], .of_some hedits⟩

theorem Recorded.unchanged (h : Recorded config done s) {d : Deed} (hloads : d.loads = none)
    (hwrites : ∀ names, d.writes config names s.values = s.values) (hedits : d.edits = none) :
    Recorded config (done ++ [d]) s :=
  ⟨h.config_eq, fun _ ht => h.loaded_after hloads (fun _ _ => (hwrites _).symm) ht, h.generated,
    fun _ _ hdoc hby => h.edited_after hedits hdoc hby⟩

theorem recorded_of_moves {step : Step} (h : Recorded config done s) (well : s.WellFormed)
    (moves : Moves s step next) : Recorded config (done ++ [⟨s, step⟩]) next := by
  cases moves with
  | @loadTemplate convert fileName bytes html hv hhtml =>
    refine ⟨h.config_eq, fun form hf => ?_, fun he => ?_, fun document author hdoc => ?_⟩
    · have loads : Deed.loads ⟨s, .loadTemplate convert fileName bytes⟩ = some html := by
        simp only [Deed.loads, hhtml]
        rfl
      rw [← Option.some.inj hf]
      exact ⟨[], .of_some loads, rfl⟩
    · cases he
    · cases hdoc
  | setValue hv => exact h.with_values hv rfl rfl fun _ _ => rfl
  | @autofill σ _ rules source form hv ht =>
    refine h.with_values hv rfl rfl fun form' ht' => ?_
    cases ht.symm.trans ht'
    rw [(well.reading form ht).1]
    rfl
  | @loadRecord source id record hv hr =>
    refine h.with_values hv rfl rfl fun _ _ => ?_
    simp only [Deed.writes, hr, h.config_eq]
  | @generate form hv ht hi =>
    refine ⟨h.config_eq, fun form ht => h.loaded_after rfl (fun _ _ => rfl) ht, ?_, ?_⟩
    · intro _ form' document ht' hdoc _
      cases ht.symm.trans ht'
      rw [← Option.some.inj hdoc, ← h.config_eq]
    · intro document author hdoc hby
      rw [← Option.some.inj hdoc] at hby
      cases hby
  | applyEdit hv hd => exact h.with_edit rfl (fun _ => rfl) rfl
  | editWith hv hd hlast =>
    refine h.with_edit rfl (fun _ => rfl) ?_
    simp only [Deed.edits, hd, hlast, Option.bind_eq_bind, Option.bind_some, Option.pure_def]
  | editNothing hv hd hlast =>
    refine h.unchanged rfl (fun _ => rfl) ?_
    simp only [Deed.edits, hd, hlast, Option.bind_eq_bind, Option.bind_some, Option.bind_none]
  | backToForm hv =>
    refine ⟨h.config_eq, fun form ht => h.loaded_after rfl (fun _ _ => rfl) ht, fun he => ?_,
      fun document author hdoc hby => h.edited_after rfl hdoc hby⟩
    cases he
  | startOver =>
    refine ⟨h.config_eq, ?_, ?_, ?_⟩
    · intro form ht; cases ht
    · intro he; cases he
    · intro document author hdoc; cases hdoc
  | exportPdf hv => exact h.unchanged rfl (fun _ => rfl) rfl

/-! ## Runs -/

/-- What every step that goes through keeps, told of the deeds up to it, holds of the deeds of all
steps. -/
theorem run_of_deeds {P : List Deed → Session → Prop}
    (kept : ∀ {done s step next}, P done s → Moves s step next → P (done ++ [⟨s, step⟩]) next)
    (steps : List Step) (h : P done s) : P (done ++ s.deeds steps) (s.run steps) := by
  induction steps generalizing s done with
  | nil => simpa [deeds, run] using h
  | cons step rest ih =>
    change P _ ((s.goOn step).run rest)
    unfold deeds goOn
    cases hs : s.after step with
    | ok next =>
      rw [List.append_cons]
      exact ih (kept h (moves_of_after hs))
    | error fault => exact ih h

theorem recorded_run (steps : List Step) (h : Recorded config done s) (well : s.WellFormed) :
    Recorded config (done ++ s.deeds steps) (s.run steps) := by
  have both := run_of_deeds (P := fun done s => Recorded config done s ∧ s.WellFormed)
    (fun h moves => ⟨recorded_of_moves h.1 h.2 moves, wellFormed_of_moves h.2 moves⟩) steps
    ⟨h, well⟩
  exact both.1

/-- However a session came about, a document that is generated in it is the template loaded last,
filled with the values written since, without a placeholder left; and in the editor the document is
either still that or the text that was put there by the last edit. -/
theorem document_provenance (config : Config) (steps : List Step) :
    (∀ next, ((start config).run steps).after .generate = .ok next →
      ∃ html since, Latest Deed.loads ((start config).deeds steps) html since ∧
        next.document = some ⟨fill html (valuesSince config html since) config.style, none⟩ ∧
        (∀ t ∈ tokens html, ∃ value, (valuesSince config html since).get? t.name = some value) ∧
        fill html (valuesSince config html since) config.style =
          String.join ((pieces html).map fun
            | .literal text => text
            | .placeholder t _ =>
              config.style.span (((valuesSince config html since).get? t.name).getD ""))) ∧
    (((start config).run steps).view = .editor →
      ∃ form document, ((start config).run steps).template = some form ∧
        ((start config).run steps).document = some document ∧
        (document.editedBy = none →
          document.html = fill form.html ((start config).run steps).values config.style) ∧
        ∀ author, document.editedBy = some author → ∃ since,
          Latest Deed.edits ((start config).deeds steps) (document.html, author) since) := by
  have well := wellFormed_run (wellFormed_start config) steps
  have recorded := recorded_run steps (recorded_start config) (wellFormed_start config)
  rw [List.nil_append] at recorded
  constructor
  · intro next hnext
    cases moves_of_after hnext with
    | @generate form hv ht hi =>
      obtain ⟨since, latest, hvalues⟩ := recorded.loaded form ht
      have covered : ∀ t ∈ tokens form.html, ∃ value,
          (valuesSince config form.html since).get? t.name = some value := by
        intro t htok
        obtain ⟨hnames, hissues⟩ := well.reading form ht
        have keys := well.keys form ht
        rw [hnames, hvalues] at keys
        exact exists_value_of_mem_tokens (hissues ▸ hi) keys htok
      refine ⟨form.html, since, latest, ?_, covered, fill_of_covered covered config.style⟩
      rw [hvalues, recorded.config_eq]
  · intro hv
    obtain ⟨document, hdoc⟩ := well.editor hv
    obtain ⟨form, ht, -⟩ := well.unblocked document hdoc
    exact ⟨form, document, ht, hdoc, recorded.generated hv form document ht hdoc,
      fun author => recorded.edited document author hdoc⟩

/-- A template with one placeholder is loaded, its value written, and a document generated. -/
theorem document_provenance_one_value :
    ∃ (next : Session) (html : String) (since : List Deed),
      Latest Deed.loads ((start .standard).deeds
        [.loadTemplate (fun _ => .ok "<p>\x7b\x7bnome\x7d\x7d</p>") "ata.docx" [],
          .setValue "nome" "Ana"]) html since ∧
      next.document = some ⟨"<p><span style=\"font-weight: bold;\">Ana</span></p>", none⟩ ∧
      next.document = some ⟨fill html (valuesSince .standard html since) Config.standard.style,
        none⟩ := by
  obtain ⟨steps, hsteps⟩ : ∃ steps : List Step, steps =
    [.loadTemplate (fun _ => .ok "<p>\x7b\x7bnome\x7d\x7d</p>") "ata.docx" [],
      .setValue "nome" "Ana"] := ⟨_, rfl⟩
  have written : (((start .standard).run steps).after .generate).toOption.bind Session.document =
      some ⟨"<p><span style=\"font-weight: bold;\">Ana</span></p>", none⟩ := by
    rw [hsteps]
    decide +kernel
  rw [← hsteps]
  cases hg : ((start .standard).run steps).after .generate with
  | error fault => rw [hg] at written; cases written
  | ok next =>
    obtain ⟨html, since, latest, hdoc, -⟩ := (document_provenance .standard steps).1 next hg
    rw [hg] at written
    exact ⟨next, html, since, latest, written, hdoc⟩

end Formulary.Session
