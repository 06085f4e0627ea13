import Formulary.Command.Input
import Formulary.Proofs.Pdf.Pages
import Formulary.Proofs.Session.Views
import Formulary.Session.Encoding

/-!
Why an export fails. A page size that the configuration admits is good for the cutting and for the
document too, whatever the picture; so once there is a picture, an export fails only over too many
pages, or over those who encode the document.
-/

namespace Formulary

open Number

/-! ## Page sizes -/

namespace Config.PageSettings

/-- A page size that the settings give has two sides above zero. -/
theorem isValid_of_size {settings : PageSettings} {page : Page.Size Binary64}
    (h : settings.size = .ok page) : page.isValid = true := by
  unfold size at h
  split at h
  · cases h
    decide +kernel
  · cases h
    decide +kernel
  · split at h
    · cases h
    · cases h
    · dsimp only at h
      split at h
      · next valid =>
        cases h
        exact valid
      · cases h

end Config.PageSettings

/-- A configuration that is read from a file gives a page size. -/
theorem Command.size_of_configAt {files : Files.Tree} {path : String} {config : Config}
    (h : configAt files path = .ok config) : ∃ page, config.page.size = .ok page := by
  obtain ⟨text, -, h⟩ := bind_eq_ok h
  obtain ⟨c, -, h⟩ := bind_eq_ok (mapError_eq_ok h)
  split at h
  · next page given =>
    cases h
    exact ⟨page, given⟩
  · cases h

namespace Page

variable {α : Type} [Scalar α] {width height : Nat} {page : Size α}

/-- A picture with pixels is cut for a page of a size, unless there are too many pages. -/
theorem plan_ok_or_tooMany (hw : 0 < width) (hh : 0 < height) (valid : page.isValid = true) :
    (∃ p, plan width height page = .ok p) ∨
      ∃ count, plan width height page = .error (.tooManyPages count) := by
  have planned := plan_of_valid hw hh valid
  dsimp only at planned
  split at planned
  · exact .inr ⟨_, planned⟩
  · exact .inl ⟨_, planned⟩

end Page

/-- A plan for the size of a picture is one that a document can be made by. -/
theorem Pdf.document_eq_ok {bitmap : Image.Bitmap} {page : Page.Size Binary64}
    {p : Page.Plan Binary64} (settings : Settings)
    (h : Page.plan bitmap.width bitmap.height page = .ok p) :
    ∃ d, document bitmap p settings = .ok d := by
  obtain ⟨-, cuts⟩ := Page.plan_eq_ok h
  unfold document
  rw [draft_eq_ok cuts rfl rfl]
  exact ⟨_, rfl⟩

namespace Session

theorem exportThrough_of_faultless (s : Session) (octets : List UInt8)
    (renderer : Render.Renderer) :
    s.exportThrough (fun _ _ _ => .ok octets) renderer = (·, octets) <$> s.exportPdf renderer := by
  unfold exportThrough exportPdf
  simp only [map_bind]
  refine bind_congr fun request => bind_congr fun bitmap => ?_
  exact bind_pure_comp _ _

/-! ## Failures -/

/-- The export fails, and this is why. -/
inductive ExportFails (s : Session) (encoder : Encoder) (renderer : Render.Renderer) : Fault → Prop
  | refused {refusal : Refusal} :
      s.view.after .export = .error refusal → ExportFails s encoder renderer (.refused refusal)
  | page {fault : Config.SizeFault} : s.view = .editor → s.config.page.size = .error fault →
      ExportFails s encoder renderer (.config (.size fault))
  | rendering {request : CaptureRequest} {fault : Render.RenderFault} :
      s.captureRequest = .ok request → capture renderer request = .error fault →
      ExportFails s encoder renderer (.render fault)
  | tooManyPages {request : CaptureRequest} {bitmap : Image.Bitmap} {count : Nat} :
      s.captureRequest = .ok request → capture renderer request = .ok bitmap →
      Page.plan bitmap.width bitmap.height request.page = .error (.tooManyPages count) →
      ExportFails s encoder renderer (.render (.plan (.tooManyPages count)))
  | encoding {request : CaptureRequest} {bitmap : Image.Bitmap} {exported : Exported}
      {fault : EncodingFault} :
      s.captureRequest = .ok request → capture renderer request = .ok bitmap →
      assemble s.config request bitmap = .ok exported →
      encoder bitmap s.config.page.quality exported.document = .error fault →
      ExportFails s encoder renderer (.render fault.asRender)

variable {s : Session} {encoder : Encoder} {renderer : Render.Renderer} {fault : Fault}

/-- What a session is asked to capture is wanting for no template and no document. -/
theorem WellFormed.captureRequest_cases (h : s.WellFormed) :
    (∃ refusal, s.view.after .export = .error refusal ∧
      s.captureRequest = .error (.refused refusal)) ∨
    (s.view = .editor ∧ ∃ fault, s.config.page.size = .error fault ∧
      s.captureRequest = .error (.config (.size fault))) ∨
    ∃ request, s.captureRequest = .ok request ∧ s.config.page.size = .ok request.page := by
  unfold captureRequest
  cases asked : s.viewAfter .export with
  | error fault =>
    obtain ⟨refusal, hr, rfl⟩ := viewAfter_eq_error asked
    exact .inl ⟨refusal, hr, rfl⟩
  | ok view =>
    have hv := (View.eq_of_after (viewAfter_eq_ok asked)).1
    obtain ⟨document, hd⟩ := h.editor hv
    obtain ⟨form, ht, -⟩ := h.unblocked document hd
    right
    unfold requireTemplate requireDocument
    rw [ht, hd]
    cases hs : s.config.page.size with
    | error fault => exact .inl ⟨hv, fault, rfl, rfl⟩
    | ok page => exact .inr ⟨_, rfl, rfl⟩

theorem WellFormed.isValid_of_request (h : s.WellFormed) {request : CaptureRequest}
    (asked : s.captureRequest = .ok request) : request.page.isValid = true := by
  rcases h.captureRequest_cases with ⟨_, -, hc⟩ | ⟨-, _, -, hc⟩ | ⟨_, hc, hs⟩
  · cases hc.symm.trans asked
  · cases hc.symm.trans asked
  · cases hc.symm.trans asked
    exact Config.PageSettings.isValid_of_size hs

/-- With a page size that the configuration has given, a picture fails to become a document only
over too many pages. -/
theorem assemble_cases (config : Config) {request : CaptureRequest} (bitmap : Image.Bitmap)
    (valid : request.page.isValid = true) :
    (∃ exported, assemble config request bitmap = .ok exported) ∨
    ∃ count, Page.plan bitmap.width bitmap.height request.page = .error (.tooManyPages count) ∧
      assemble config request bitmap = .error (.tooManyPages count) := by
  rcases Page.plan_ok_or_tooMany bitmap.width_pos bitmap.height_pos valid with
    ⟨p, hp⟩ | ⟨count, hcount⟩
  · left
    unfold assemble
    rw [bind_of_ok hp]
    obtain ⟨d, hd⟩ := Pdf.document_eq_ok _ hp
    rw [bind_of_ok hd]
    exact ⟨_, rfl⟩
  · exact .inr ⟨count, hcount, bind_of_error hcount _⟩

/-- In a session whose parts fit together, an export fails for the reasons that `ExportFails` tells
of, and for no other. -/
theorem WellFormed.exportThrough_eq_error_iff (h : s.WellFormed) :
    s.exportThrough encoder renderer = .error fault ↔ ExportFails s encoder renderer fault := by
  constructor
  · intro failed
    rcases bind_eq_error failed with failed | ⟨request, asked, failed⟩
    · rcases h.captureRequest_cases with ⟨refusal, hr, hc⟩ | ⟨hv, size, hs, hc⟩ | ⟨_, hc, -⟩
      · cases hc.symm.trans failed
        exact .refused hr
      · cases hc.symm.trans failed
        exact .page hv hs
      · cases hc.symm.trans failed
    rcases bind_eq_error failed with failed | ⟨bitmap, captured, failed⟩
    · obtain ⟨render, hr, rfl⟩ := mapError_eq_error failed
      exact .rendering asked hr
    have captured := mapError_eq_ok captured
    rcases bind_eq_error failed with failed | ⟨exported, assembled, failed⟩
    · obtain ⟨plan, hp, rfl⟩ := mapError_eq_error failed
      rcases assemble_cases s.config bitmap (h.isValid_of_request asked) with
        ⟨_, he⟩ | ⟨count, many, he⟩
      · cases he.symm.trans hp
      · cases he.symm.trans hp
        exact .tooManyPages asked captured many
    have assembled := mapError_eq_ok assembled
    rcases bind_eq_error failed with failed | ⟨_, -, failed⟩
    · obtain ⟨encoding, he, rfl⟩ := mapError_eq_error failed
      exact .encoding asked captured assembled he
    · cases failed
  · intro fails
    unfold exportThrough
    cases fails with
    | refused hr => exact bind_of_error (bind_of_error (viewAfter_refused hr) _) _
    | page hv hs =>
      rcases h.captureRequest_cases with ⟨refusal, hr, -⟩ | ⟨-, size, hs', hc⟩ | ⟨_, -, hs'⟩
      · rw [hv] at hr
        cases hr
      · cases hs.symm.trans hs'
        exact bind_of_error hc _
      · cases hs.symm.trans hs'
    | rendering asked failed =>
      rw [bind_of_ok asked, failed]
      rfl
    | @tooManyPages request bitmap count asked captured many =>
      have refused : assemble s.config request bitmap = .error (.tooManyPages count) :=
        bind_of_error many _
      rw [bind_of_ok asked, captured]
      change ((assemble s.config request bitmap).mapError _ >>= _) = _
      rw [refused]
      rfl
    | @encoding request bitmap exported fault asked captured assembled failed =>
      rw [bind_of_ok asked, captured]
      change ((assemble s.config request bitmap).mapError _ >>= _) = _
      rw [assembled]
      change ((encoder bitmap s.config.page.quality exported.document).mapError _ >>= _) = _
      rw [failed]
      rfl

/-- Page sizes are agreed upon. One that a configuration gives is never refused again: not in
cutting a picture that has pixels, and not in making the document of a picture that has been cut.
So, in a session at any time, an export fails just in case the view refuses it, the configuration
gives no page size, the renderer fails, there are too many pages, or the encoding fails; and under a
configuration that was read from a file there is a page size. -/
theorem page_checks_agree :
    (∀ (settings : Config.PageSettings) (page : Page.Size Binary64), settings.size = .ok page →
      ∀ bitmap : Image.Bitmap,
        ((∃ p, Page.plan bitmap.width bitmap.height page = .ok p) ∨
          ∃ count, Page.plan bitmap.width bitmap.height page = .error (.tooManyPages count)) ∧
        ∀ p, Page.plan bitmap.width bitmap.height page = .ok p →
          ∀ settings, ∃ d, Pdf.document bitmap p settings = .ok d) ∧
    (∀ (s : Session) (octets : List UInt8) (renderer : Render.Renderer),
      s.exportThrough (fun _ _ _ => .ok octets) renderer =
        (·, octets) <$> s.exportPdf renderer) ∧
    (∀ (config : Config) (steps : List Step) (encoder : Encoder) (renderer : Render.Renderer)
      (fault : Fault), ((start config).run steps).exportThrough encoder renderer = .error fault ↔
        ExportFails ((start config).run steps) encoder renderer fault) ∧
    ∀ (files : Files.Tree) (path : String) (config : Config),
      Command.configAt files path = .ok config →
      ∀ (steps : List Step) (encoder : Encoder) (renderer : Render.Renderer)
        (fault : Config.ConfigFault),
        ((start config).run steps).exportThrough encoder renderer ≠ .error (.config fault) := by
  have wellFormed (config : Config) (steps : List Step) : ((start config).run steps).WellFormed :=
    wellFormed_run (wellFormed_start config) steps
  refine ⟨?_, exportThrough_of_faultless, ?_, ?_⟩
  · intro settings page given bitmap
    have valid := Config.PageSettings.isValid_of_size given
    refine ⟨Page.plan_ok_or_tooMany bitmap.width_pos bitmap.height_pos valid, ?_⟩
    intro p planned settings
    exact Pdf.document_eq_ok settings planned
  · intro config steps encoder renderer fault
    exact (wellFormed config steps).exportThrough_eq_error_iff
  · intro files path config read steps encoder renderer fault failed
    obtain ⟨page, given⟩ := Command.size_of_configAt read
    have kept : ((start config).run steps).config = config :=
      (recorded_run steps (recorded_start config) (wellFormed_start config)).config_eq
    cases (wellFormed config steps).exportThrough_eq_error_iff.1 failed with
    | page hv missing =>
      rw [kept, given] at missing
      cases missing

/-- Pages of one and a half by half a millimetre, as a file asks for them: a thousand of them make a
document, and one more is too many. -/
theorem page_checks_agree_custom :
    let page : Page.Size Binary64 := ⟨Scalar.ofDecimal 15 1, Scalar.ofDecimal 5 1⟩
    let settings : Config.PageSettings :=
      ⟨.custom, some page.width, some page.height, Scalar.ofNat 2, 92⟩
    let config : Config := { Config.standard with page := settings }
    let file : Files.Node := .file (.octets (Text.toUtf8
      "[page]\nformat = \"custom\"\nwidth_mm = 1.5\nheight_mm = 0.5\n"))
    let s := (start config).run [.loadTemplate (fun _ => .ok "<p></p>") "ata.html" [], .generate]
    let high : Image.Bitmap := ⟨3, 1000, [], by decide, by decide⟩
    let higher : Image.Bitmap := ⟨3, 1001, [], by decide, by decide⟩
    let encoder : Encoder := fun _ _ _ => .error (.document "no room")
    let renderer : Render.Renderer := fun _ => .ok fun _ => .ok higher
    let many : Fault := .render (.plan (.tooManyPages 1001))
    settings.size = .ok page ∧
    (∃ p, Page.plan high.width high.height page = .ok p ∧ p.pageCount = 1000 ∧
      ∃ d, Pdf.document high p Pdf.Settings.standard = .ok d) ∧
    s.exportThrough encoder renderer = .error many ∧ ExportFails s encoder renderer many ∧
    Command.configAt (Table.ofList [("minuta.toml", file)]) "minuta.toml" = .ok config ∧
    ∀ fault, s.exportThrough encoder renderer ≠ .error (.config fault) := by
  intro page settings config file s high higher encoder renderer many
  obtain ⟨sizes, -, failures, fromFile⟩ := page_checks_agree
  have given : settings.size = .ok page := by decide +kernel
  have planned : Page.Plan.pageCount <$> Page.plan high.width high.height page = .ok 1000 := by
    decide +kernel
  obtain ⟨p, hp, count⟩ := map_eq_ok planned
  have read : Command.configAt (Table.ofList [("minuta.toml", file)]) "minuta.toml" = .ok config := by
    decide +kernel
  have failed : s.exportThrough encoder renderer = .error many := by
    decide +kernel
  refine ⟨given, ⟨p, hp, count, (sizes settings page given high).2 p hp _⟩, failed, ?_, read, ?_⟩
  · exact (failures config _ encoder renderer many).1 failed
  · intro fault
    exact fromFile _ _ config read _ encoder renderer fault

end Session

end Formulary
