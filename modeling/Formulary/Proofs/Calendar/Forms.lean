import Formulary.Proofs.Calendar.Days
import Formulary.Proofs.Calendar.Written
import Mathlib.Data.List.Nodup

/-!
The written forms of a day tell the day. Day, month and year stand apart in both of them: figures end
at the next stroke or blank, the name of a month ends at a blank, and a sign ends where the figures of
the year begin.
-/

namespace Formulary.Calendar

open Text

variable {d e : Date} {year year' : Int} {month month' : Nat}

/-! ## Years -/

/-- A sign ends where the figures behind it begin. -/
theorem signed_inj {sign sign' figures figures' : List Char}
    (same : sign ++ figures = sign' ++ figures')
    (front : ∀ c ∈ sign ++ sign', isDigit c = false)
    (all : ∀ c ∈ figures ++ figures', isDigit c = true) : sign = sign' ∧ figures = figures' :=
  append_inj_of_run (p := fun c => !isDigit c) same
    (fun c h => by simp [front c (List.mem_append_left _ h)])
    (fun c h => by simp [all c (List.mem_append_left _ (List.mem_of_mem_head? h))])
    (fun c h => by simp [front c (List.mem_append_right _ h)])
    (fun c h => by simp [all c (List.mem_append_right _ (List.mem_of_mem_head? h))])

theorem yearFigures_inj (same : yearFigures year = yearFigures year') : year = year' := by
  obtain ⟨sign, figures⟩ := signed_inj same
    (by split_ifs <;> simp <;> decide)
    (fun c h => (List.mem_append.1 h).elim isDigit_of_mem_padded isDigit_of_mem_padded)
  have size := padded_inj figures
  split_ifs at sign <;> grind

/-! ## Months -/

theorem monthNames_nodup : monthNames.Nodup := by decide +kernel

theorem monthName_eq_getElem (first : 1 ≤ month) (last : month ≤ 12) :
    ∃ named : month - 1 < monthNames.length,
      monthNames.getD (month - 1) "" = monthNames[month - 1] := by
  have named : month - 1 < monthNames.length := by
    change month - 1 < 12
    omega
  refine ⟨named, ?_⟩
  rw [List.getD_eq_getElem?_getD, List.getElem?_eq_getElem named, Option.getD_some]

theorem ne_blank_of_mem_monthName (first : 1 ≤ month) (last : month ≤ 12) :
    ∀ c ∈ (monthNames.getD (month - 1) "").toList, (c != ' ') = true := by
  have all : (monthNames.all fun name => name.toList.all (· != ' ')) = true := by decide +kernel
  obtain ⟨named, eq⟩ := monthName_eq_getElem first last
  rw [eq]
  exact List.all_eq_true.1 (List.all_eq_true.1 all _ (List.getElem_mem named))

theorem monthName_inj (first : 1 ≤ month) (last : month ≤ 12) (first' : 1 ≤ month')
    (last' : month' ≤ 12)
    (same : monthNames.getD (month - 1) "" = monthNames.getD (month' - 1) "") : month = month' := by
  obtain ⟨named, eq⟩ := monthName_eq_getElem first last
  obtain ⟨named', eq'⟩ := monthName_eq_getElem first' last'
  rw [eq, eq', monthNames_nodup.getElem_inj_iff] at same
  omega

/-! ## Days -/

/-- The short form tells the day, -/
theorem eq_of_short_eq (same : d.short = e.short) : d = e := by
  have chars := congrArg String.toList same
  rw [toList_short, toList_short] at chars
  obtain ⟨day, behind⟩ := append_inj_of_run (p := isDigit) chars
    (fun _ => isDigit_of_mem_padded) (by simp; decide)
    (fun _ => isDigit_of_mem_padded) (by simp; decide)
  obtain ⟨month, behind⟩ := append_inj_of_run (p := isDigit) (List.cons.inj behind).2
    (fun _ => isDigit_of_mem_padded) (by simp; decide)
    (fun _ => isDigit_of_mem_padded) (by simp; decide)
  have year := yearFigures_inj (List.cons.inj behind).2
  have month := padded_inj month
  have day := padded_inj day
  cases d
  cases e
  simp_all

/-- and so does the long one, in which the year may have any number of figures. -/
theorem eq_of_long_eq (hd : d.IsReal) (he : e.IsReal) (same : d.long = e.long) : d = e := by
  obtain ⟨first, last, -⟩ := hd
  obtain ⟨first', last', -⟩ := he
  have chars := congrArg String.toList same
  rw [toList_long, toList_long] at chars
  obtain ⟨day, behind⟩ := append_inj_of_run (p := isDigit) chars
    (fun _ => isDigit_of_mem_numeral) (by simp; decide)
    (fun _ => isDigit_of_mem_numeral) (by simp; decide)
  simp only [List.cons.injEq, true_and] at behind
  obtain ⟨month, behind⟩ := append_inj_of_run (p := (· != ' ')) behind
    (ne_blank_of_mem_monthName first last) (by simp)
    (ne_blank_of_mem_monthName first' last') (by simp)
  simp only [List.cons.injEq, true_and] at behind
  obtain ⟨sign, figures⟩ := signed_inj behind
    (by split_ifs <;> simp <;> decide)
    (fun c h => (List.mem_append.1 h).elim isDigit_of_mem_numeral isDigit_of_mem_numeral)
  have size := numeral_inj figures
  have year : d.year = e.year := by split_ifs at sign <;> grind
  have month := monthName_inj first last first' last' (String.toList_inj.1 month)
  have day := numeral_inj day
  cases d
  cases e
  simp_all

/-- Each of the two forms stands for a single day, in whatever year: before the year 0, of four
figures or of more. So both tell the same day where they are printed side by side. -/
theorem forms_identify (hd : d.IsReal) (he : e.IsReal) :
    (d.short = e.short ↔ d = e) ∧ (d.long = e.long ↔ d = e) :=
  ⟨⟨eq_of_short_eq, congrArg Date.short⟩, ⟨eq_of_long_eq hd he, congrArg Date.long⟩⟩

/-- The same day of the year before and after the year 0. -/
theorem forms_identify_negative :
    let d : Date := ⟨-44, 3, 15⟩
    let e : Date := ⟨44, 3, 15⟩
    d.IsReal ∧ e.IsReal ∧ d.short ≠ e.short ∧ d.long ≠ e.long := by
  intro d e
  have hd : d.IsReal := by decide
  have he : e.IsReal := by decide
  obtain ⟨short, long⟩ := forms_identify hd he
  have apart : d ≠ e := by decide
  exact ⟨hd, he, fun same => apart (short.1 same), fun same => apart (long.1 same)⟩

end Formulary.Calendar
