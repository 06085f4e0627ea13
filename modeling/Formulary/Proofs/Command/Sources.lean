import Formulary.Proofs.Command.Stages
import Formulary.Proofs.Session.Reachable
import Formulary.Proofs.Template.Fill
import Formulary.Proofs.Toml.Keys

/-!
Which source a value comes from. Invented values, those of a record, those of a file and those of
the command line are laid over each other in this order; so each placeholder of a filled template
shows what the last of them says of its name. The order of entries in a file does not matter, nor
does that of assignments to different names.
-/

namespace Formulary.Command

open Session Files Job Template

variable {w : World} {sources : ValueSources} {s next : Session} {form : Form} {names : List String}

/-! ## What the sources say -/

/-- The value that the command line assigns to a name last. -/
def assigned? (sources : ValueSources) (name : String) : Option String :=
  findEntry name sources.assignments.reverse

/-- The text of the value that the file has for a name. -/
def filed? (w : World) (sources : ValueSources) (name : String) : Option String := do
  let path ← sources.values
  let text ← (w.files.readText path).toOption
  let entries ← Toml.parseTagged text
  let value ← findEntry name entries
  value.scalarText?

/-- The value that the record has for a name, once it is made ready. -/
def recorded? (w : World) (conventions : Record.Conventions) (sources : ValueSources)
    (name : String) : Option String := do
  let (id, path) ← sources.record
  let store ← (storeAt w.files path).toOption
  let record ← store.get? (Text.trim id)
  (Record.normalize conventions record).get? name

/-- The values that are invented for names, drawn in turn. -/
def drawnValues (w : World) (names : List String) (sources : ValueSources) : Values :=
  ((Sample.autofill (Sample.standardRules w.almanac) names).run (wordsFor w sources)).1

/-- The value that is invented for a name, if that is asked for. -/
def invented? (w : World) (names : List String) (sources : ValueSources) (name : String) :
    Option String :=
  if sources.autofill then (drawnValues w names sources).get? name else none

/-- The value that is found for a name where none is assigned: in the file, else in the record, else
among the invented ones. -/
def found? (w : World) (settings : Config) (names : List String) (sources : ValueSources)
    (name : String) : Option String :=
  (filed? w sources name).or <|
    (recorded? w settings.records sources name).or (invented? w names sources name)

/-- The value for a name from the strongest source that has one. -/
def strongest? (w : World) (settings : Config) (names : List String) (sources : ValueSources)
    (name : String) : Option String :=
  (assigned? sources name).or (found? w settings names sources name)

/-! ## Values over values -/

/-- `next` is `s` with what is supplied laid over its values, as far as the names go. -/
structure LaidOver (names : List String) (supply : String → Option String) (s next : Session) :
    Prop where
  apart : next = { s with values := next.values }
  value : ∀ name ∈ names, next.values.get? name = (supply name).or (s.values.get? name)

/-- Nothing changes where nothing is supplied. -/
theorem laidOver_self {supply : String → Option String} (h : ∀ name, supply name = none) :
    LaidOver names supply s s :=
  ⟨rfl, fun name _ => by rw [h name, Option.none_or]⟩

theorem LaidOver.trans {supply supply' : String → Option String} {mid : Session}
    (h : LaidOver names supply s mid) (h' : LaidOver names supply' mid next) :
    LaidOver names (fun name => (supply' name).or (supply name)) s next := by
  refine ⟨?_, fun name hn => ?_⟩
  · rw [h'.apart, h.apart]
  · rw [h'.value name hn, h.value name hn, Option.or_assoc]

theorem setValues_of_form (hv : s.view = .form) (entries : List (String × String)) :
    setValues s entries = .ok { s with values := s.values.setAll entries } := by
  induction entries generalizing s with
  | nil => rfl
  | cons e rest ih =>
    have first : s.setValue e.1 e.2 = .ok { s with values := s.values.set e.1 e.2 } := by
      rw [setValue, viewAfter, hv]
      rfl
    rw [setValues, first]
    exact ih hv

/-! ## Sources one by one -/

theorem applyInvented_eq_ok (ht : s.template = some form) (asked : sources.autofill)
    (h : applyInvented w sources s = .ok next) :
    next = { s with values := drawnValues w form.names sources } := by
  rw [applyInvented, if_pos asked] at h
  obtain ⟨⟨_, drawn⟩, hdrawn, h⟩ := bind_eq_ok h
  cases h
  cases moves_of_autofill (mapError_eq_ok hdrawn) with
  | autofill hv ht' =>
    cases ht.symm.trans ht'
    rfl

theorem laidOver_invented (ht : s.template = some form) (distinct : form.names.Nodup)
    (h : applyInvented w sources s = .ok next) :
    LaidOver form.names (invented? w form.names sources) s next := by
  by_cases asked : sources.autofill
  · rw [applyInvented_eq_ok ht asked h]
    refine ⟨rfl, fun name hn => ?_⟩
    have keys : (drawnValues w form.names sources).keys = form.names := keys_autofill distinct _
    obtain ⟨value, hvalue⟩ := Table.mem_keys_iff.1 (keys ▸ hn)
    rw [invented?, if_pos asked, hvalue, Option.some_or]
  · rw [applyInvented, if_neg asked] at h
    cases h
    exact laidOver_self fun name => by rw [invented?, if_neg asked]

theorem get?_of_lookup {store : Record.Store} {id : String} {record : Record.Fields}
    (h : store.lookup id = .ok record) : store.get? id = some record := by
  unfold Record.Store.lookup at h
  split at h
  · next found => cases h; exact found
  · cases h

theorem recorded?_eq {id path : String} {store : Record.Store} {record : Record.Fields}
    (hrecord : sources.record = some (id, path)) (hstore : storeAt w.files path = .ok store)
    (hfound : store.lookup (Text.trim id) = .ok record) (conventions : Record.Conventions)
    (name : String) : recorded? w conventions sources name =
      (Record.normalize conventions record).get? name := by
  simp [recorded?, hrecord, hstore, get?_of_lookup hfound, Except.toOption]

theorem laidOver_recorded (h : applyRecord w sources s = .ok next) :
    LaidOver names (recorded? w s.config.records sources) s next := by
  unfold applyRecord at h
  split at h
  · next id path hrecord =>
    obtain ⟨store, hstore, h⟩ := bind_eq_ok h
    obtain ⟨⟨_, loaded⟩, hloaded, h⟩ := bind_eq_ok h
    cases h
    cases moves_of_loadRecord (mapError_eq_ok hloaded) with
    | @loadRecord _ _ record hv hfound =>
      refine ⟨rfl, fun name _ => ?_⟩
      rw [recorded?_eq hrecord (mapError_eq_ok hstore) (mapError_eq_ok hfound)]
      exact Table.get?_merge s.values _ name
  · next hrecord =>
    cases h
    refine laidOver_self fun name => ?_
    rw [recorded?, hrecord]
    rfl

/-! ### Files with values -/

/-- Texts are those of the values under the same names. -/
theorem scalarTexts_eq_ok {path : String} {entries : List (String × Toml.Value)}
    {texts : List (String × String)} (h : scalarTexts path entries = .ok texts) :
    entryKeys texts = entryKeys entries ∧
      ∀ name, findEntry name texts = (findEntry name entries).bind Toml.Value.scalarText? := by
  induction entries generalizing texts with
  | nil => cases h; exact ⟨rfl, fun _ => rfl⟩
  | cons e rest ih =>
    obtain ⟨k, v⟩ := e
    rw [scalarTexts] at h
    split at h
    · next text htext =>
      obtain ⟨texts', hrest, rfl⟩ := map_eq_ok h
      obtain ⟨keys, found⟩ := ih hrest
      refine ⟨congrArg (k :: ·) keys, fun name => ?_⟩
      by_cases hk : k = name
      · simp [findEntry, hk, htext]
      · simp [findEntry, hk, found]
    · cases h

theorem valuesAt_eq_ok {files : Tree} {path : String} {texts : List (String × String)}
    (h : valuesAt files path = .ok texts) : ∃ text entries, files.readText path = .ok text ∧
      Toml.parseTagged text = some entries ∧
      scalarTexts path (inKeyOrder entries) = .ok texts := by
  obtain ⟨text, htext, h⟩ := bind_eq_ok h
  split at h
  · next entries hentries => exact ⟨text, entries, mapError_eq_ok htext, hentries, h⟩
  · cases h

theorem inKeyOrder_perm {α : Type} (entries : List (String × α)) :
    (inKeyOrder entries).Perm entries := List.mergeSort_perm _ _

theorem filed?_eq {path text : String} {entries : List (String × Toml.Value)}
    (hpath : sources.values = some path) (htext : w.files.readText path = .ok text)
    (hentries : Toml.parseTagged text = some entries) (name : String) :
    filed? w sources name = (findEntry name entries).bind Toml.Value.scalarText? := by
  simp [filed?, hpath, htext, hentries, Except.toOption]

theorem laidOver_filed (hv : s.view = .form) (h : applyFile w sources s = .ok next) :
    LaidOver names (filed? w sources) s next := by
  unfold applyFile at h
  split at h
  · next path hpath =>
    obtain ⟨texts, htexts, h⟩ := bind_eq_ok h
    rw [setValues_of_form hv] at h
    cases h
    obtain ⟨text, entries, htext, hentries, htexts⟩ := valuesAt_eq_ok htexts
    obtain ⟨keys, found⟩ := scalarTexts_eq_ok htexts
    -- The keys of the file are distinct, so the order in which its values are written is no matter.
    have perm := inKeyOrder_perm entries
    have distinct : (entryKeys (inKeyOrder entries)).Nodup :=
      (perm.map _).nodup_iff.2 (Toml.nodup_parseTagged hentries)
    refine ⟨rfl, fun name _ => ?_⟩
    rw [Table.get?_setAll_of_nodup s.values (keys ▸ distinct), found,
      Table.findEntry_perm distinct perm, filed?_eq hpath htext hentries]
  · next hpath =>
    cases h
    refine laidOver_self fun name => ?_
    rw [filed?, hpath]
    rfl

/-! ## Values that are found -/

/-- Lays the values of all sources but the assignments over those of a session. -/
def applyFound (w : World) (sources : ValueSources) (s : Session) : Stage Session := do
  let s ← applyInvented w sources s
  let s ← applyRecord w sources s
  applyFile w sources s

theorem laidOver_found (hv : s.view = .form) (ht : s.template = some form)
    (distinct : form.names.Nodup) (h : applyFound w sources s = .ok next) :
    LaidOver form.names (found? w s.config form.names sources) s next := by
  obtain ⟨s₁, h₁, h⟩ := bind_eq_ok h
  obtain ⟨s₂, h₂, h⟩ := bind_eq_ok h
  have invented := laidOver_invented ht distinct h₁
  have recorded : LaidOver form.names (recorded? w s.config.records sources) s₁ s₂ := by
    have same : s₁.config = s.config := by rw [invented.apart]
    exact same ▸ laidOver_recorded h₂
  have below := invented.trans recorded
  have view : s₂.view = .form := by rw [below.apart]; exact hv
  exact below.trans (laidOver_filed view h)

/-- A session with a template and the values that are found for it. -/
def foundSession (w : World) (config : Option String) (template : String)
    (sources : ValueSources) : Stage Session := do
  let settings ← loadConfig w config
  let s ← openSession w settings template
  applyFound w sources s

/-- What holds of a session with the values that are found. -/
structure Found (w : World) (config : Option String) (template : String) (sources : ValueSources)
    (settings : Config) (html : String) (s : Session) : Prop where
  loaded : loadConfig w config = .ok settings
  uploaded : ∃ content, w.files.read template = .ok content ∧ ofUpload content.bytes = .ok html
  config_eq : s.config = settings
  view_eq : s.view = .form
  template_eq : ∃ form, s.template = some form ∧ form.html = html ∧ form.reading = scan html
  value : ∀ name ∈ (scan html).names,
    s.values.get? name = some ((found? w settings (scan html).names sources name).getD "")

theorem openSession_eq_ok {settings : Config} {template : String}
    (h : openSession w settings template = .ok s) : ∃ html form,
      (∃ content, w.files.read template = .ok content ∧ ofUpload content.bytes = .ok html) ∧
      form.html = html ∧ form.reading = scan html ∧
      s = ⟨settings, .form, some form, blankValues (scan html).names, none⟩ := by
  obtain ⟨content, hcontent, h⟩ := bind_eq_ok h
  cases moves_of_loadTemplate (mapError_eq_ok h) with
  | @loadTemplate _ _ _ html hv hhtml =>
    exact ⟨html, _, ⟨content, mapError_eq_ok hcontent, mapError_eq_ok hhtml⟩, rfl, rfl, rfl⟩

theorem found_of_foundSession {config : Option String} {template : String}
    (h : foundSession w config template sources = .ok next) :
    ∃ settings html, Found w config template sources settings html next := by
  obtain ⟨settings, hsettings, h⟩ := bind_eq_ok h
  obtain ⟨s, hs, h⟩ := bind_eq_ok h
  obtain ⟨html, form, uploaded, hhtml, hreading, rfl⟩ := openSession_eq_ok hs
  have names : form.names = (scan html).names := congrArg Reading.names hreading
  have distinct := nodup_scan_names html
  have laid := laidOver_found rfl rfl (names ▸ distinct) h
  rw [names] at laid
  refine ⟨settings, html, hsettings, uploaded, ?_, ?_, ?_, fun name hn => ?_⟩
  · rw [laid.apart]
  · rw [laid.apart]
  · rw [laid.apart]
    exact ⟨form, rfl, hhtml, hreading⟩
  · refine (laid.value name hn).trans ?_
    rw [get?_blankValues distinct hn]
    cases found? w settings (scan html).names sources name <;> rfl

/-! ## Filling -/

variable {config : Option String} {template html : String} {settings : Config}

/-- A session with a template and its values, from which a document is generated next. -/
def valuedSession (w : World) (config : Option String) (template : String)
    (sources : ValueSources) : Stage Session := do
  let settings ← loadConfig w config
  let s ← openSession w settings template
  applyValues w sources s

theorem fillTemplate_eq_valued : fillTemplate w config template sources =
    valuedSession w config template sources >>= fun s => inSession s.generate := by
  simp only [fillTemplate, valuedSession, bind_assoc]

/-- Assigned values are written behind those that are found. -/
theorem valuedSession_eq_found : valuedSession w config template sources =
    foundSession w config template sources >>= fun s =>
      inSession (setValues s sources.assignments) := by
  simp only [valuedSession, foundSession, applyFound, applyValues, bind_assoc]

theorem generate_of_form (hv : s.view = .form) (ht : s.template = some form)
    (hi : form.issues = []) : s.generate = .ok { s with
      view := .editor
      document := some ⟨fill form.html s.values s.config.style, none⟩ } := by
  simp only [generate, viewAfter, hv, requireTemplate, ht]
  simp only [Except.mapError, View.after, bind, Except.bind, hi]
  rfl

theorem generate_of_issues {first : Issue} {rest : List Issue} (hv : s.view = .form)
    (ht : s.template = some form) (hi : form.issues = first :: rest) :
    s.generate = .error (.blocked (rest.length + 1) first) := by
  simp only [generate, viewAfter, hv, requireTemplate, ht]
  simp only [Except.mapError, View.after, bind, Except.bind, hi]
  rfl

theorem Found.value_setAll (h : Found w config template sources settings html s) {name : String}
    (hn : name ∈ (scan html).names) : (s.values.setAll sources.assignments).get? name =
      some ((strongest? w settings (scan html).names sources name).getD "") := by
  rw [Table.get?_setAll, h.value name hn, strongest?, assigned?]
  cases findEntry name sources.assignments.reverse <;> rfl

/-- The text of a template with the values of the strongest sources in it. -/
def strongestText (w : World) (settings : Config) (html : String) (sources : ValueSources) :
    String :=
  String.join ((pieces html).map fun
    | .literal text => text
    | .placeholder t _ => settings.style.span
        ((strongest? w settings (scan html).names sources t.name).getD ""))

theorem Found.fill_eq (h : Found w config template sources settings html s)
    (hi : (scan html).issues = []) :
    fill html (s.values.setAll sources.assignments) settings.style =
      strongestText w settings html sources :=
  fill_of_shown (fun name => (strongest? w settings (scan html).names sources name).getD "")
    (fun _ ht => h.value_setAll (name_mem_scan ht (isNameless_eq_false hi ht))) settings.style

theorem Found.valuedSession_eq (h : Found w config template sources settings html s)
    (applied : foundSession w config template sources = .ok s) :
    valuedSession w config template sources =
      .ok { s with values := s.values.setAll sources.assignments } := by
  rw [valuedSession_eq_found, bind_of_ok applied, setValues_of_form h.view_eq]
  rfl

/-- A template without issues is filled with the values of the strongest sources. -/
theorem Found.fillTemplate_eq_ok (h : Found w config template sources settings html s)
    (applied : foundSession w config template sources = .ok s) (hi : (scan html).issues = []) :
    fillTemplate w config template sources = .ok { s with
      view := .editor
      values := s.values.setAll sources.assignments
      document := some ⟨strongestText w settings html sources, none⟩ } := by
  obtain ⟨form, ht, rfl, hreading⟩ := h.template_eq
  have issues : form.issues = [] := by rw [Form.issues, hreading, hi]
  rw [fillTemplate_eq_valued, bind_of_ok (h.valuedSession_eq applied), ← h.fill_eq hi,
    ← h.config_eq]
  exact congrArg inSession (generate_of_form
    (s := { s with values := s.values.setAll sources.assignments }) h.view_eq ht issues)

theorem Found.fillTemplate_eq_error (h : Found w config template sources settings html s)
    (applied : foundSession w config template sources = .ok s) {first : Issue} {rest : List Issue}
    (hi : (scan html).issues = first :: rest) : fillTemplate w config template sources =
      .error ⟨none, .session (.blocked (rest.length + 1) first)⟩ := by
  obtain ⟨form, ht, rfl, hreading⟩ := h.template_eq
  have issues : form.issues = first :: rest := by rw [Form.issues, hreading, hi]
  rw [fillTemplate_eq_valued, bind_of_ok (h.valuedSession_eq applied)]
  exact congrArg inSession (generate_of_issues
    (s := { s with values := s.values.setAll sources.assignments }) h.view_eq ht issues)

/-! ## The order of assignments -/

/-- Of the assignments to a name the last one counts. -/
theorem assigned?_congr {assignments : List (String × String)}
    (h : ∀ name, assignments.filter (·.1 = name) = sources.assignments.filter (·.1 = name)) :
    assigned? { sources with assignments } = assigned? sources := by
  funext name
  rw [assigned?, assigned?, ← Table.findEntry_filter name assignments.reverse,
    ← Table.findEntry_filter name sources.assignments.reverse, List.filter_reverse,
    List.filter_reverse, h name]

theorem strongestText_congr {assignments : List (String × String)}
    (h : ∀ name, assignments.filter (·.1 = name) = sources.assignments.filter (·.1 = name)) :
    strongestText w settings html { sources with assignments } =
      strongestText w settings html sources := by
  unfold strongestText strongest?
  rw [assigned?_congr h]
  rfl

/-- What is found does not depend on the assignments. -/
theorem Found.reassigned (h : Found w config template sources settings html s)
    (assignments : List (String × String)) :
    Found w config template { sources with assignments } settings html s :=
  ⟨h.loaded, h.uploaded, h.config_eq, h.view_eq, h.template_eq, h.value⟩

theorem fillTemplate_reassigned {assignments : List (String × String)}
    (h : ∀ name, assignments.filter (·.1 = name) = sources.assignments.filter (·.1 = name)) :
    (fillTemplate w config template { sources with assignments }).map Session.document =
      (fillTemplate w config template sources).map Session.document := by
  cases applied : foundSession w config template sources with
  | error failure =>
    have applied' : foundSession w config template { sources with assignments } =
        .error failure := applied
    simp only [fillTemplate_eq_valued, valuedSession_eq_found, bind_assoc]
    rw [bind_of_error applied, bind_of_error applied']
  | ok s =>
    obtain ⟨settings, html, found⟩ := found_of_foundSession applied
    have found' := found.reassigned assignments
    cases hi : (scan html).issues with
    | nil =>
      rw [found.fillTemplate_eq_ok applied hi, found'.fillTemplate_eq_ok applied hi,
        strongestText_congr h]
      rfl
    | cons first rest =>
      rw [found.fillTemplate_eq_error applied hi, found'.fillTemplate_eq_error applied hi]

/-! ## The order of entries in a file -/

/-- Distinct keys have one order. -/
theorem inKeyOrder_eq_of_perm {α : Type} {entries entries' : List (String × α)}
    (distinct : (entryKeys entries).Nodup) (perm : entries.Perm entries') :
    inKeyOrder entries = inKeyOrder entries' := by
  have sorted (entries : List (String × α)) :
      (inKeyOrder entries).Pairwise fun a b => decide (a.1 ≤ b.1) = true := by
    refine List.pairwise_mergeSort (fun a b c hab hbc => ?_) (fun a b => ?_) entries
    · exact decide_eq_true (String.le_trans (of_decide_eq_true hab) (of_decide_eq_true hbc))
    · simpa using String.le_total a.1 b.1
  refine List.Perm.eq_of_pairwise (fun a b ha hb hab hba => ?_) (sorted entries) (sorted entries')
    (((inKeyOrder_perm entries).trans perm).trans (inKeyOrder_perm entries').symm)
  have key : a.1 = b.1 := String.le_antisymm (of_decide_eq_true hab) (of_decide_eq_true hba)
  have here := (Table.findEntry_eq_some_iff distinct).2 ((inKeyOrder_perm entries).mem_iff.1 ha)
  have there := (Table.findEntry_eq_some_iff distinct).2
    (perm.mem_iff.2 ((inKeyOrder_perm entries').mem_iff.1 hb))
  rw [key, there] at here
  exact Prod.ext key (Option.some.inj here).symm

theorem scalarTexts_of_ok {path : String} {entries : List (String × Toml.Value)}
    {texts : List (String × String)} (h : scalarTexts path entries = .ok texts) (path' : String) :
    scalarTexts path' entries = .ok texts := by
  induction entries generalizing texts with
  | nil => exact h
  | cons e rest ih =>
    obtain ⟨k, v⟩ := e
    rw [scalarTexts] at h ⊢
    split at h
    · obtain ⟨texts', hrest, rfl⟩ := map_eq_ok h
      rw [ih hrest]
      rfl
    · cases h

/-- Two files with the same entries, in whatever order, have the same values. -/
theorem valuesAt_perm {files : Tree} {path path' text text' : String}
    {entries entries' : List (String × Toml.Value)} {texts : List (String × String)}
    (htext : files.readText path = .ok text) (htext' : files.readText path' = .ok text')
    (hentries : Toml.parseTagged text = some entries)
    (hentries' : Toml.parseTagged text' = some entries') (perm : entries.Perm entries')
    (h : valuesAt files path = .ok texts) : valuesAt files path' = .ok texts := by
  obtain ⟨_, _, htext₀, hentries₀, h⟩ := valuesAt_eq_ok h
  cases htext.symm.trans htext₀
  cases hentries.symm.trans hentries₀
  rw [inKeyOrder_eq_of_perm (Toml.nodup_parseTagged hentries) perm] at h
  simp only [valuesAt, htext', fileTask, Except.mapError, bind, Except.bind, hentries']
  exact scalarTexts_of_ok h path'

/-- What is found does not change with a file that has the same values. -/
theorem foundSession_of_values {path path' : String} (hpath : sources.values = some path)
    (same : ∀ texts, valuesAt w.files path = .ok texts → valuesAt w.files path' = .ok texts)
    (h : foundSession w config template sources = .ok s) :
    foundSession w config template { sources with values := some path' } = .ok s := by
  obtain ⟨settings, hsettings, h⟩ := bind_eq_ok h
  obtain ⟨s₀, h₀, h⟩ := bind_eq_ok h
  obtain ⟨s₁, h₁, h⟩ := bind_eq_ok h
  obtain ⟨s₂, h₂, h⟩ := bind_eq_ok h
  rw [applyFile, hpath] at h
  obtain ⟨texts, htexts, h⟩ := bind_eq_ok h
  have invented : applyInvented w { sources with values := some path' } s₀ = .ok s₁ := h₁
  have recorded : applyRecord w { sources with values := some path' } s₁ = .ok s₂ := h₂
  refine (bind_of_ok hsettings _).trans ((bind_of_ok h₀ _).trans ?_)
  refine (bind_of_ok invented _).trans ((bind_of_ok recorded _).trans ?_)
  exact (bind_of_ok (same texts htexts) _).trans h

theorem fillTemplate_of_values {path path' : String} (hpath : sources.values = some path)
    (same : ∀ texts, valuesAt w.files path = .ok texts → valuesAt w.files path' = .ok texts)
    (h : fillTemplate w config template sources = .ok s) :
    fillTemplate w config template { sources with values := some path' } = .ok s := by
  simp only [fillTemplate_eq_valued, valuedSession_eq_found, bind_assoc] at h ⊢
  obtain ⟨found, applied, h⟩ := bind_eq_ok h
  exact (bind_of_ok (foundSession_of_values hpath same applied) _).trans h

/-! ## Runs -/

/-- A filled template that is neither edited nor written to a file is printed. -/
theorem run_fill {arguments : List String} {document : FilledText}
    (asks : asked w.configPath arguments = .run config (.fill template sources false none))
    (h : fillTemplate w config template sources = .ok s) (hd : s.document = some document) :
    run w arguments = ⟨0, Text.toUtf8 document.html, [], w.files⟩ := by
  have text : (finishedText config template sources false).on ⟨w, [], []⟩ =
      (.ok document, ⟨w, [], []⟩) := by
    simp only [finishedText, finishedDocument, on_bind, on_look, h]
    change (inSession s.requireDocument, _) = _
    rw [requireDocument, hd]
    rfl
  rw [run, asks]
  change outcome w (finishedText config template sources false >>= deliver none) = _
  rw [outcome, on_bind, text]
  rfl

/-- However the sources of values overlap: once their values are there, a template without issues is
filled, and one with issues is refused. What is generated, and printed where nothing else is asked
for, is the text that was read, with each placeholder replaced by the value of the strongest source
that has one for its name, be that value empty or not. The order of assignments to different names
does not matter, nor does that of the entries in a file. -/
theorem strongest_source_wins (w : World) (config : Option String) (template : String)
    (sources : ValueSources) :
    (∀ s, valuedSession w config template sources = .ok s →
      ∃ settings content html, loadConfig w config = .ok settings ∧
        w.files.read template = .ok content ∧ ofUpload content.bytes = .ok html ∧
        ((scan html).issues = [] →
          ∃ next, fillTemplate w config template sources = .ok next ∧
            next.document = some ⟨strongestText w settings html sources, none⟩ ∧
            ∀ arguments,
              asked w.configPath arguments = .run config (.fill template sources false none) →
              run w arguments =
                ⟨0, Text.toUtf8 (strongestText w settings html sources), [], w.files⟩) ∧
        ∀ first rest, (scan html).issues = first :: rest →
          fillTemplate w config template sources =
            .error ⟨none, .session (.blocked (rest.length + 1) first)⟩) ∧
    (∀ assignments : List (String × String),
      (∀ name, assignments.filter (·.1 = name) = sources.assignments.filter (·.1 = name)) →
      (fillTemplate w config template { sources with assignments }).map Session.document =
        (fillTemplate w config template sources).map Session.document) ∧
    ∀ path path' text text' entries entries', sources.values = some path →
      w.files.readText path = .ok text → w.files.readText path' = .ok text' →
      Toml.parseTagged text = some entries → Toml.parseTagged text' = some entries' →
      entries.Perm entries' → ∀ s,
      fillTemplate w config template sources = .ok s ↔
        fillTemplate w config template { sources with values := some path' } = .ok s := by
  refine ⟨fun s h => ?_, fun assignments => fillTemplate_reassigned, ?_⟩
  · rw [valuedSession_eq_found] at h
    obtain ⟨found, applied, -⟩ := bind_eq_ok h
    obtain ⟨settings, html, holds⟩ := found_of_foundSession applied
    obtain ⟨content, hcontent, hhtml⟩ := holds.uploaded
    refine ⟨settings, content, html, holds.loaded, hcontent, hhtml, fun hi => ?_,
      fun _ _ => holds.fillTemplate_eq_error applied⟩
    have filled := holds.fillTemplate_eq_ok applied hi
    exact ⟨_, filled, rfl, fun _ asks => run_fill asks filled rfl⟩
  · intro path path' text text' entries entries' hpath htext htext' hentries hentries' perm s
    constructor
    · exact fillTemplate_of_values hpath
        fun _ => valuesAt_perm htext htext' hentries hentries' perm
    · intro h
      have hpath' : { sources with values := some path' }.values = some path' := rfl
      have back := fillTemplate_of_values hpath'
        (fun _ => valuesAt_perm htext' htext hentries' hentries perm.symm) h
      rwa [← hpath] at back

/-- The file comes before the record, and an empty value that is assigned before that of the record;
what neither has is invented. -/
theorem strongest_source_wins_overlapping :
    let file (text : String) : Node := .file (.octets (Text.toUtf8 text))
    let files : Tree := Table.ofList
      [("a.html", file ("\x7b\x7bnacionalidade1\x7d\x7d|\x7b\x7bnacionalidade2\x7d\x7d|" ++
          "\x7b\x7bnacionalidade3\x7d\x7d")),
        ("v.toml", file "nacionalidade1 = \"Grega\""),
        ("r.json", file ("\x7b\"7\":\x7b\"nacionalidade1\":\"Russa\"," ++
          "\"nacionalidade2\":\"Russa\"\x7d\x7d"))]
    let w : World := .withEditor files none .none
    let sources (assignments : List (String × String)) : ValueSources :=
      ⟨true, none, some ("7", "r.json"), some "v.toml", assignments⟩
    let reordered := [("nome", "Ana"), ("nacionalidade2", "Sueca"), ("nacionalidade2", "")]
    let text := "<span style=\"font-weight: bold;\">Grega</span>|" ++
      "<span style=\"font-weight: bold;\">__________</span>|" ++
      "<span style=\"font-weight: bold;\">Brasileiro(a)</span>"
    run w ["fill", "a.html", "--autofill", "--record", "7", "--records", "r.json", "--values",
      "v.toml", "--set", "nacionalidade2=Sueca", "--set", "nome=Ana", "--set", "nacionalidade2="] =
      ⟨0, Text.toUtf8 text, [], files⟩ ∧
    ∃ s, fillTemplate w none "a.html" (sources reordered) = .ok s ∧
      s.document = some ⟨text, none⟩ := by
  intro file files w sources reordered text
  let given := sources [("nacionalidade2", "Sueca"), ("nome", "Ana"), ("nacionalidade2", "")]
  have written : (fillTemplate w none "a.html" given).toOption.bind Session.document =
      some ⟨text, none⟩ := by decide +kernel
  have per_name (name : String) :
      reordered.filter (·.1 = name) = given.assignments.filter (·.1 = name) := by
    by_cases hn : "nome" = name
    · subst hn; decide
    · simp [reordered, given, sources, List.filter_cons, hn]
  obtain ⟨valued, reorder, -⟩ := strongest_source_wins w none "a.html" given
  have reordered_document := reorder reordered per_name
  cases h : fillTemplate w none "a.html" given with
  | error failure => rw [h] at written; cases written
  | ok s =>
    rw [h] at written reordered_document
    obtain ⟨s₀, h₀, -⟩ := bind_eq_ok (fillTemplate_eq_valued.symm.trans h)
    obtain ⟨settings, _, html, _, _, _, fills, refused⟩ := valued s₀ h₀
    cases hi : (scan html).issues with
    | cons first rest => cases h.symm.trans (refused first rest hi)
    | nil =>
      obtain ⟨next, hnext, document, prints⟩ := fills hi
      cases h.symm.trans hnext
      have same : strongestText w settings html given = text :=
        congrArg FilledText.html (Option.some.inj (document.symm.trans written))
      constructor
      · rw [← same]
        exact prints _ (by decide +kernel)
      · obtain ⟨s', h', hd⟩ := map_eq_ok reordered_document
        exact ⟨s', h', hd.trans written⟩

end Formulary.Command
