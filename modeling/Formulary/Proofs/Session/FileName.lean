import Formulary.Proofs.Files.Directory
import Formulary.Proofs.Session.Provenance
import Formulary.Proofs.Text.Blank

/-!
The file names of exported documents. The title in a file name is cleaned and the opening is taken
as it is configured; so a document lands in the directory that it is saved in unless the opening has
a slash in it.
-/

namespace Formulary

open Text Files

/-! ## Names of documents -/

namespace Pdf

variable {title : String} {c : Char}

theorem not_unfit_of_mem (h : c ∈ (replaceChars isUnfitForFileName '_' title).toList) :
    isUnfitForFileName c = false := by
  rw [replaceChars, String.toList_ofList, List.mem_map] at h
  obtain ⟨d, -, rfl⟩ := h
  split
  · rfl
  · next fit => exact Bool.of_not_eq_true fit

theorem isUnfitForFileName_eq_false_iff :
    isUnfitForFileName c = false ↔ isBlank c = false ∧ c ≠ '/' ∧ c ≠ '\\' := by
  simp only [isUnfitForFileName, Bool.or_eq_false_iff, beq_eq_false_iff_ne, and_assoc]

/-- The part of a file name that a title makes: the characters of the trimmed title, with `_` for
each one that is unfit. There is something in it, and nothing that is unfit. -/
structure IsStem (title stem : String) : Prop where
  eq : stem.toList = (trim title).toList.map fun c =>
    if isBlank c ∨ c = '/' ∨ c = '\\' then '_' else c
  ne_empty : stem ≠ ""
  fit : ∀ c ∈ stem.toList, isBlank c = false ∧ c ≠ '/' ∧ c ≠ '\\'

theorem isStem_of_not_blank (h : allBlank title = false) :
    IsStem title (replaceChars isUnfitForFileName '_' (trim title)) := by
  have some : (trim title).toList ≠ [] := by
    rw [Ne, String.toList_eq_nil_iff, ← String.isEmpty_iff, isEmpty_trim, h]
    exact Bool.false_ne_true
  refine ⟨?_, ?_, fun c hc => isUnfitForFileName_eq_false_iff.1 (not_unfit_of_mem hc)⟩
  · rw [replaceChars, String.toList_ofList]
    simp only [isUnfitForFileName, Bool.or_eq_true, beq_iff_eq, or_assoc]
  · rw [Ne, ← String.toList_eq_nil_iff, replaceChars, String.toList_ofList, List.map_eq_nil_iff]
    exact some

theorem allBlank_untitled : allBlank untitled = false := by decide +kernel

/-- A blank title is as good as none. -/
theorem isStem_fileStem (title : String) :
    IsStem (if allBlank title then untitled else title) (fileStem title) := by
  unfold fileStem
  dsimp only
  rw [isEmpty_trim]
  cases h : allBlank title with
  | true =>
    have trimmed : trim untitled = untitled := by decide +kernel
    have stem := isStem_of_not_blank allBlank_untitled
    rw [trimmed] at stem
    exact stem
  | false => exact isStem_of_not_blank h

/-- The path separators in a file name are those of its opening. -/
theorem mem_fileName_iff {opening : String} (separator : c = '/' ∨ c = '\\') :
    c ∈ (fileName opening title).toList ↔ c ∈ opening.toList := by
  have stem : c ∉ (fileStem title).toList := by
    intro hc
    obtain ⟨-, slash, backslash⟩ := (isStem_fileStem title).fit c hc
    exact separator.elim slash backslash
  have dash : c ∉ "-".toList := by rcases separator with rfl | rfl <;> decide
  have ending : c ∉ ".pdf".toList := by rcases separator with rfl | rfl <;> decide
  simp only [fileName, String.toList_append, List.mem_append, stem, dash, ending, or_false]

/-- A file name is none of the names that lead to directories. -/
theorem fileName_named (opening title : String) :
    isFiller (fileName opening title) = false ∧ fileName opening title ≠ ".." := by
  have dash : '-' ∈ (fileName opening title).toList := by
    simp only [fileName, String.toList_append, List.mem_append]
    exact .inl (.inl (.inr (by decide)))
  have apart : ∀ name : String, '-' ∉ name.toList → fileName opening title ≠ name :=
    fun name none eq => none (eq ▸ dash)
  refine ⟨?_, apart ".." (by decide)⟩
  rw [isFiller, Bool.or_eq_false_iff, beq_eq_false_iff_ne, beq_eq_false_iff_ne]
  exact ⟨apart "" (by decide), apart "." (by decide)⟩

theorem isChild_fileName {opening : String} (slash : '/' ∉ opening.toList)
    (directory title : String) : IsChild directory (fileName opening title) := by
  obtain ⟨filler, up⟩ := fileName_named opening title
  exact isChild_of_no_slash directory (mt (mem_fileName_iff (.inl rfl)).1 slash) filler up

end Pdf

namespace Session

open Template

/-! ## Titles -/

/-- The title that a document goes by: the first of three that is not blank. -/
theorem exists_title (output : Config.OutputSettings) (title : String) :
    ∃ shown, [title, output.defaultTitle, Pdf.untitled].find? (fun t => !allBlank t) = some shown ∧
      Pdf.IsStem shown (Pdf.fileStem (exportTitle output title)) := by
  refine ⟨_, ?_, Pdf.isStem_fileStem (exportTitle output title)⟩
  unfold exportTitle
  cases given : allBlank title with
  | false => simp only [List.find?, given, Bool.not_false, Bool.false_eq_true, if_false]
  | true =>
    cases configured : allBlank output.defaultTitle with
    | false => simp [List.find?, given, configured]
    | true => simp [List.find?, given, configured, Pdf.allBlank_untitled]

/-- The file name that a template was loaded under. -/
def Deed.loadsUnder (d : Deed) : Option String :=
  match d.step with
  | .loadTemplate _ fileName _ => some fileName
  | _ => none

/-- The template is titled after the file that was loaded last. -/
def Titled (done : List Deed) (s : Session) : Prop :=
  ∀ form, s.template = some form → ∃ fileName since, Latest Deed.loadsUnder done fileName since ∧
    form.title = titleOfFileName fileName

variable {done : List Deed} {s next : Session}

theorem titled_of_moves {step : Step} (h : Titled done s) (moves : Moves s step next) :
    Titled (done ++ [⟨s, step⟩]) next := by
  have kept : Deed.loadsUnder ⟨s, step⟩ = none → next.template = s.template →
      Titled (done ++ [⟨s, step⟩]) next := by
    intro none same form hf
    obtain ⟨fileName, since, latest, title⟩ := h form (same ▸ hf)
    exact ⟨fileName, _, latest.of_none none, title⟩
  cases moves with
  | loadTemplate =>
    intro form hf
    rw [← Option.some.inj hf]
    exact ⟨_, [], .of_some rfl, rfl⟩
  | startOver =>
    intro form hf
    cases hf
  | _ => exact kept rfl rfl

theorem titled_run (config : Config) (steps : List Step) :
    Titled ((start config).deeds steps) ((start config).run steps) := by
  have fresh : Titled [] (start config) := nofun
  exact run_of_deeds titled_of_moves steps fresh

/-! ## Exports -/

theorem fileName_of_exportPdf {renderer : Render.Renderer} {e : Exported}
    (h : s.exportPdf renderer = .ok e) : ∃ form, s.template = some form ∧
      e.fileName =
        Pdf.fileName s.config.output.opening (exportTitle s.config.output form.title) := by
  obtain ⟨request, asked, h⟩ := bind_eq_ok h
  obtain ⟨_, -, asked⟩ := bind_eq_ok asked
  obtain ⟨form, hform, asked⟩ := bind_eq_ok asked
  obtain ⟨_, -, asked⟩ := bind_eq_ok asked
  obtain ⟨_, -, asked⟩ := bind_eq_ok asked
  cases asked
  obtain ⟨_, -, h⟩ := bind_eq_ok h
  obtain ⟨_, -, h⟩ := bind_eq_ok (mapError_eq_ok h)
  obtain ⟨_, -, h⟩ := bind_eq_ok h
  cases h
  exact ⟨form, requireTemplate_eq_ok hform, rfl⟩

end Session

end Formulary
