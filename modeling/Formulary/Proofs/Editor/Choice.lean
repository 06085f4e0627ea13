import Formulary.Editor.Basic
import Formulary.Proofs.Text.Blank

/-!
Which program edits. Of the command lines in the configuration and in the environment the first that
has been set is taken, and nothing else is looked at: where that one is blank, no program is found,
although a line behind it may name one.
-/

namespace Formulary.Editor

open Text

/-- The command lines that have been set, from the one that is asked first. -/
def commandLines (configured visual editor : Option String) : List String :=
  [configured, visual, editor].filterMap id

/-- The command line names the program by its first word, and its arguments by the others. -/
def Program.IsNamedBy (p : Program) (line : String) : Prop :=
  Worded line.toList (p.name :: p.arguments)

/-- The choice goes by the first line that is not blank. A program is chosen just in case there is
such a line, it is the one that this line names, and no line is tried that names none. -/
structure ByFirstNotBlank (lines : List String) (choice : Except EditorFault Program) : Prop where
  ok_iff : (∃ p, choice = .ok p) ↔ ∃ line ∈ lines, allBlank line = false
  named : ∀ p, choice = .ok p → ∃ before line behind, lines = before ++ line :: behind ∧
    (∀ blank ∈ before, allBlank blank = true) ∧ p.IsNamedBy line
  ne_noProgram : choice ≠ .error .noProgram

/-- Where the first line is blank, so are those behind it. -/
def NoneHidden (lines : List String) : Prop :=
  ∀ first behind, lines = first :: behind → allBlank first = true →
    ∀ line ∈ behind, allBlank line = true

variable {line : String} {p : Program}

/-- A line names a program just in case it is not blank. -/
theorem exists_isNamedBy_iff : (∃ p : Program, p.IsNamedBy line) ↔ allBlank line = false := by
  obtain ⟨ws, worded⟩ := exists_worded line.toList
  have blank := worded.eq_nil_iff
  rw [← allBlank_iff] at blank
  constructor
  · rintro ⟨p, named⟩
    rw [worded_iff.1 worded, ← worded_iff.1 named] at blank
    exact Bool.of_not_eq_true fun h => List.cons_ne_nil _ _ (blank.2 h)
  · intro h
    cases ws with
    | nil => exact absurd (h.symm.trans (blank.1 rfl)) Bool.false_ne_true
    | cons name arguments => exact ⟨⟨name, arguments⟩, worded⟩

theorem Program.IsNamedBy.not_blank (h : p.IsNamedBy line) : ¬ allBlank line = true := by
  rw [exists_isNamedBy_iff.1 ⟨p, h⟩]
  exact Bool.false_ne_true

theorem ofCommandLine_eq_ok_iff : Program.ofCommandLine line = .ok p ↔ p.IsNamedBy line := by
  rw [Program.IsNamedBy, worded_iff, Program.ofCommandLine]
  cases words line with
  | nil => exact iff_of_false nofun nofun
  | cons name arguments =>
    obtain ⟨name', arguments'⟩ := p
    simp only [Except.ok.injEq, Program.mk.injEq, List.cons.injEq]
    exact and_congr eq_comm eq_comm

variable {configured visual editor : Option String}

theorem choose_eq : Program.choose configured visual editor =
    match (commandLines configured visual editor).head? with
    | some line => if allBlank line then .error .noneConfigured else Program.ofCommandLine line
    | none => .error .noneConfigured := by
  have first : (configured <|> visual <|> editor) =
      (commandLines configured visual editor).head? := by
    cases configured <;> cases visual <;> cases editor <;> rfl
  rw [Program.choose, first]
  cases (commandLines configured visual editor).head? with
  | none => rfl
  | some line => cases h : allBlank line <;> simp [Option.filter, h]

theorem choose_eq_ok_iff : Program.choose configured visual editor = .ok p ↔
    ∃ line, (commandLines configured visual editor).head? = some line ∧ p.IsNamedBy line := by
  rw [choose_eq]
  cases (commandLines configured visual editor).head? with
  | none => exact iff_of_false nofun nofun
  | some line =>
    simp only [Option.some.injEq, exists_eq_left']
    split
    · next blank =>
      exact iff_of_false nofun fun named => named.not_blank blank
    · exact ofCommandLine_eq_ok_iff

theorem choose_eq_error_iff {fault : EditorFault} :
    Program.choose configured visual editor = .error fault ↔ fault = .noneConfigured ∧
      ∀ line, (commandLines configured visual editor).head? = some line →
        allBlank line = true := by
  rw [choose_eq]
  cases (commandLines configured visual editor).head? with
  | none => exact ⟨fun h => ⟨(Except.error.inj h).symm, nofun⟩, fun h => congrArg _ h.1.symm⟩
  | some line =>
    simp only [Option.some.injEq, forall_eq']
    split
    · next blank =>
      exact ⟨fun h => ⟨(Except.error.inj h).symm, blank⟩, fun h => congrArg _ h.1.symm⟩
    · next some =>
      obtain ⟨p, named⟩ := exists_isNamedBy_iff.2 (Bool.of_not_eq_true some)
      rw [ofCommandLine_eq_ok_iff.2 named]
      exact iff_of_false nofun fun h => some h.2

theorem noneHidden_of_byFirstNotBlank
    (rule : ByFirstNotBlank (commandLines configured visual editor)
      (Program.choose configured visual editor)) :
    NoneHidden (commandLines configured visual editor) := by
  intro first behind eq blank line mem
  refine Bool.of_not_eq_false fun some => ?_
  -- The line would have a program chosen, but the first line, which is blank, names none.
  obtain ⟨p, chosen⟩ := rule.ok_iff.2 ⟨line, eq ▸ List.mem_cons_of_mem _ mem, some⟩
  obtain ⟨line', head, named⟩ := choose_eq_ok_iff.1 chosen
  rw [eq] at head
  cases head
  exact named.not_blank blank

/-- Where no line is hidden, the first line is not blank if any is not. -/
theorem NoneHidden.head_not_blank {lines : List String} (h : NoneHidden lines)
    (mem : line ∈ lines) (some : allBlank line = false) :
    ∃ first behind, lines = first :: behind ∧ allBlank first = false := by
  obtain ⟨first, behind, eq⟩ := List.exists_cons_of_ne_nil (List.ne_nil_of_mem mem)
  refine ⟨first, behind, eq, Bool.of_not_eq_true fun blank => ?_⟩
  rw [eq] at mem
  rcases List.mem_cons.1 mem with rfl | mem
  · exact Bool.false_ne_true (some.symm.trans blank)
  · exact Bool.false_ne_true (some.symm.trans (h first behind eq blank line mem))

theorem byFirstNotBlank_of_noneHidden (h : NoneHidden (commandLines configured visual editor)) :
    ByFirstNotBlank (commandLines configured visual editor)
      (Program.choose configured visual editor) := by
  refine ⟨⟨?_, ?_⟩, fun p chosen => ?_, fun failed => ?_⟩
  · rintro ⟨p, chosen⟩
    obtain ⟨line, head, named⟩ := choose_eq_ok_iff.1 chosen
    exact ⟨line, List.mem_of_head? head, exists_isNamedBy_iff.1 ⟨p, named⟩⟩
  · rintro ⟨line, mem, some⟩
    obtain ⟨first, behind, eq, usable⟩ := h.head_not_blank mem some
    obtain ⟨p, named⟩ := exists_isNamedBy_iff.2 usable
    exact ⟨p, choose_eq_ok_iff.2 ⟨first, eq ▸ rfl, named⟩⟩
  · obtain ⟨line, head, named⟩ := choose_eq_ok_iff.1 chosen
    obtain ⟨behind, eq⟩ := List.head?_eq_some_iff.1 head
    exact ⟨[], line, behind, eq, nofun, named⟩
  · cases (choose_eq_error_iff.1 failed).1

/-- The program that is chosen is named by the first command line that has been set. Where there is
none, or that one is blank, nothing is configured, and this is the only fault. So the choice goes by
the first line that is not blank just in case no such line stands behind a blank one that is set. -/
theorem choice_by_first_set (configured visual editor : Option String) :
    (∀ p, Program.choose configured visual editor = .ok p ↔
      ∃ line, (commandLines configured visual editor).head? = some line ∧ p.IsNamedBy line) ∧
    (∀ fault, Program.choose configured visual editor = .error fault ↔
      fault = .noneConfigured ∧
        ∀ line, (commandLines configured visual editor).head? = some line →
          allBlank line = true) ∧
    (ByFirstNotBlank (commandLines configured visual editor)
        (Program.choose configured visual editor) ↔
      NoneHidden (commandLines configured visual editor)) :=
  ⟨fun _ => choose_eq_ok_iff, fun _ => choose_eq_error_iff, noneHidden_of_byFirstNotBlank,
    byFirstNotBlank_of_noneHidden⟩

/-- A blank line of the environment hides the editor behind it. -/
theorem blank_hides_editor :
    Program.choose none (some " ") (some "vi") = .error .noneConfigured ∧
    Program.choose none none (some "vi") = .ok ⟨"vi", []⟩ ∧
    ¬ ByFirstNotBlank (commandLines none (some " ") (some "vi"))
      (Program.choose none (some " ") (some "vi")) := by
  have failed : Program.choose none (some " ") (some "vi") = .error .noneConfigured := by
    decide +kernel
  refine ⟨failed, by decide +kernel, fun rule => ?_⟩
  obtain ⟨p, chosen⟩ := rule.ok_iff.2 ⟨"vi", by decide, by decide +kernel⟩
  cases failed.symm.trans chosen

end Formulary.Editor
