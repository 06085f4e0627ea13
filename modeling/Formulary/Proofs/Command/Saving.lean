import Formulary.Proofs.Command.Stages
import Formulary.Proofs.Session.FileName

/-!
Where exported documents are saved. The file name of a document is made when it is exported, and the
directory is chosen apart from it; the document lands in that directory, under that name, as long as
the configured opening of file names leads to no other directory.
-/

namespace Formulary.Command

open Session Files Job Text Template

theorem on_changeFiles (p : Progress) (change : Tree → Stage Tree) :
    on p (changeFiles change) = match change p.world.files with
      | .ok files => (.ok (), { p with world := { p.world with files } })
      | .error failure => (.error failure, p) := by
  rw [changeFiles, on_bind, on_look]
  cases change p.world.files <;> rfl

/-- A document that is saved is written at its path, when the directory has been made. -/
theorem save_eq_ok {directory : String} {e : Exported} {octets : List UInt8} {p p' : Progress}
    (h : on p (save directory e octets) = (.ok (), p')) :
    ∃ files, p.world.files.makeDirectories directory = .ok files ∧
      files.write (inDirectory directory e.fileName) (.document e.document octets) =
        .ok p'.world.files := by
  unfold save at h
  rw [on_bind, on_changeFiles] at h
  cases made : p.world.files.makeDirectories directory with
  | error fault => rw [made] at h; cases h
  | ok files =>
    rw [made] at h
    refine ⟨files, rfl, ?_⟩
    change on _ (changeFiles _) = _ at h
    rw [on_changeFiles] at h
    dsimp only at h
    cases written : files.write (inDirectory directory e.fileName) (.document e.document octets) with
    | error fault => rw [written] at h; cases h
    | ok next => rw [written] at h; cases h; rfl

/-- The document lands in the directory. Its path there is one of the directory's own, and saving
it writes it under its name where that directory has been made, unless a device has the name. -/
structure LandsIn (directory : String) (e : Exported) : Prop where
  isChild : IsChild directory e.fileName
  saved : ∀ octets p p', on p (save directory e octets) = (.ok (), p') → ∃ files here,
    p.world.files.makeDirectories directory = .ok files ∧
    files.enter (Tree.origin directory) (parts directory) = .ok here ∧
    (p'.world.files =
        files.set (joined (here ++ [e.fileName])) (.file (.document e.document octets)) ∨
      ∃ d, files.at? (here ++ [e.fileName]) = some (.device d) ∧ p'.world.files = files)

theorem landsIn_of_isChild {directory : String} {e : Exported}
    (h : IsChild directory e.fileName) : LandsIn directory e := by
  refine ⟨h, fun octets p p' done => ?_⟩
  obtain ⟨files, made, written⟩ := save_eq_ok done
  obtain ⟨here, entered, eq⟩ := h.written _ _ _ written
  exact ⟨files, here, made, entered, eq⟩

/-- However a session came about, a document that is exported in it is named after the opening that
is configured and after a title: that of the file that was loaded last, or where that is blank the
configured one, or where that is blank too the title of last resort. The title is cleaned of white
space and path separators, so that the file name has only those that the opening has; and where the
opening has no slash, the document lands in whatever directory it is saved in. -/
theorem exports_land_in_directory (config : Config) (steps : List Step)
    (renderer : Render.Renderer) (e : Exported)
    (exported : ((start config).run steps).exportPdf renderer = .ok e) :
    (∃ fileName since title stem,
      Latest Deed.loadsUnder ((start config).deeds steps) fileName since ∧
      [titleOfFileName fileName, config.output.defaultTitle, Pdf.untitled].find?
        (fun t => !allBlank t) = some title ∧
      Pdf.IsStem title stem ∧
      e.fileName = config.output.opening ++ "-" ++ stem ++ ".pdf") ∧
    (∀ c, c = '/' ∨ c = '\\' →
      (c ∈ e.fileName.toList ↔ c ∈ config.output.opening.toList)) ∧
    ('/' ∉ config.output.opening.toList → ∀ directory, LandsIn directory e) := by
  obtain ⟨form, loaded, eq⟩ := fileName_of_exportPdf exported
  obtain ⟨fileName, since, latest, titled⟩ := titled_run config steps form loaded
  have kept : ((start config).run steps).config = config :=
    (recorded_run steps (recorded_start config) (wellFormed_start config)).config_eq
  rw [kept] at eq
  refine ⟨?_, fun c separator => eq ▸ Pdf.mem_fileName_iff separator, fun slash directory => ?_⟩
  · obtain ⟨title, first, stem⟩ := exists_title config.output form.title
    rw [titled] at first stem eq
    exact ⟨fileName, since, title, _, latest, first, stem, eq⟩
  · exact landsIn_of_isChild (eq ▸ Pdf.isChild_fileName slash directory _)

/-- A title with a separator and white space in it, behind an opening with neither. -/
theorem exports_land_in_directory_two_words :
    let steps : List Step := [.loadTemplate (fun _ => .ok "<p></p>") "atas/de_posse.docx" [],
      .generate]
    let bitmap : Image.Bitmap := ⟨3, 4, [], by decide, by decide⟩
    ∃ e, ((start .standard).run steps).exportPdf (fun _ => .ok fun _ => .ok bitmap) = .ok e ∧
      e.fileName = "Certidao-atas_de_posse.pdf" ∧
      (∃ fileName since title stem,
        Latest Deed.loadsUnder ((start .standard).deeds steps) fileName since ∧
        [titleOfFileName fileName, Config.standard.output.defaultTitle, Pdf.untitled].find?
          (fun t => !allBlank t) = some title ∧
        Pdf.IsStem title stem ∧ e.fileName = "Certidao" ++ "-" ++ stem ++ ".pdf") ∧
      '/' ∉ e.fileName.toList ∧ LandsIn "saida" e := by
  intro steps bitmap
  have named : Exported.fileName <$> ((start .standard).run steps).exportPdf
      (fun _ => .ok fun _ => .ok bitmap) = .ok "Certidao-atas_de_posse.pdf" := by
    decide +kernel
  obtain ⟨e, exported, name⟩ := map_eq_ok named
  obtain ⟨titled, separators, lands⟩ := exports_land_in_directory .standard steps _ e exported
  have slash : '/' ∉ Config.standard.output.opening.toList := by decide
  exact ⟨e, exported, name, titled, mt (separators '/' (.inl rfl)).1 slash, lands slash "saida"⟩

/-- An opening that climbs out of the directory takes the document along. -/
theorem opening_leads_out :
    let output : Config.OutputSettings := ⟨"../Certidao", "documento", "Documento"⟩
    let steps : List Step := [.loadTemplate (fun _ => .ok "<p></p>") "ata.html" [], .generate]
    let bitmap : Image.Bitmap := ⟨3, 4, [], by decide, by decide⟩
    let s := (start { Config.standard with output }).run steps
    let files : Tree := Table.ofList [("saida", .directory)]
    ∃ e, s.exportPdf (fun _ => .ok fun _ => .ok bitmap) = .ok e ∧
      e.fileName = "../Certidao-ata.html.pdf" ∧ '/' ∈ e.fileName.toList ∧
      files.locate "saida" = .ok (.present ["saida"] .directory) ∧
      files.locate (inDirectory "saida" e.fileName) = .ok (.absent ["Certidao-ata.html.pdf"]) ∧
      ¬ IsChild "saida" e.fileName := by
  intro output steps bitmap s files
  have named : Exported.fileName <$> s.exportPdf (fun _ => .ok fun _ => .ok bitmap) =
      .ok "../Certidao-ata.html.pdf" := by
    decide +kernel
  obtain ⟨e, exported, name⟩ := map_eq_ok named
  refine ⟨e, exported, name, ?_⟩
  rw [name]
  have led : files.locate (inDirectory "saida" "../Certidao-ata.html.pdf") =
      .ok (.absent ["Certidao-ata.html.pdf"]) := by
    decide +kernel
  refine ⟨by decide, by decide +kernel, led, fun child => ?_⟩
  obtain ⟨here, entered, place⟩ := child.located files _ led
  have there : files.enter (Tree.origin "saida") (parts "saida") = .ok ["saida"] := by
    decide +kernel
  cases there.symm.trans entered
  exact absurd (Tree.placeAt_eq_absent place.symm) (by decide)

end Formulary.Command
