import Formulary.Proofs.Table
import Formulary.Template.Basic
import Mathlib.Data.List.Induction

/-!
What a reading of a template finds: the names of its tokens, each once, but for tokens without a
name, which are its issues.
-/

namespace Formulary.Template

/-! ## Names, each once -/

/-- Adding names in turn, where they are new, adds each once. -/
theorem nodup_foldl_add (names : List String) {seen : List String} (h : seen.Nodup) :
    (names.foldl (fun seen name => if name ∈ seen then seen else seen ++ [name]) seen).Nodup := by
  induction names generalizing seen with
  | nil => exact h
  | cons name rest ih =>
    rw [List.foldl_cons]
    split
    · exact ih h
    · next new =>
      refine ih (List.nodup_append.2 ⟨h, by simp, fun a ha b hb he => ?_⟩)
      rw [he, List.mem_singleton.1 hb] at ha
      exact new ha

theorem mem_foldl_add (names : List String) {seen : List String} {name : String} :
    name ∈ names.foldl (fun seen name => if name ∈ seen then seen else seen ++ [name]) seen ↔
      name ∈ seen ∨ name ∈ names := by
  induction names generalizing seen with
  | nil => simp
  | cons first rest ih =>
    rw [List.foldl_cons, ih, List.mem_cons, ← or_assoc]
    refine or_congr_left ?_
    split
    · next known => exact ⟨.inl, fun h => h.elim id fun he => he ▸ known⟩
    · rw [List.mem_append, List.mem_singleton]

theorem nodup_distinct (names : List String) : (distinct names).Nodup :=
  nodup_foldl_add names List.nodup_nil

theorem mem_distinct {names : List String} {name : String} :
    name ∈ distinct names ↔ name ∈ names := by
  unfold distinct
  rw [mem_foldl_add]
  simp

/-- Names that are added in turn may as well be added each once. -/
theorem foldl_add_distinct (names seen : List String) :
    (distinct names).foldl (fun seen name => if name ∈ seen then seen else seen ++ [name]) seen =
      names.foldl (fun seen name => if name ∈ seen then seen else seen ++ [name]) seen := by
  induction names using List.reverseRecOn with
  | nil => rfl
  | append_singleton names last ih =>
    simp only [distinct, List.foldl_append, List.foldl_cons, List.foldl_nil]
    rw [← distinct, ← ih]
    by_cases known : last ∈ names
    · have known' := mem_distinct.2 known
      rw [if_pos known', if_pos ((mem_foldl_add (distinct names)).2 (.inr known'))]
    · rw [if_neg (fun h => known (mem_distinct.1 h)), List.foldl_append, List.foldl_cons,
        List.foldl_nil]

theorem distinct_append (names names' : List String) :
    distinct (names ++ names') = distinct (distinct names ++ distinct names') := by
  rw [distinct, distinct, List.foldl_append, List.foldl_append, foldl_add_distinct,
    foldl_add_distinct]

/-- Behind the names that are there come the new ones, each once. -/
theorem foldl_add_eq (names seen : List String) :
    names.foldl (fun seen name => if name ∈ seen then seen else seen ++ [name]) seen =
      seen ++ (names.filter (· ∉ seen)).eraseDups := by
  induction names generalizing seen with
  | nil => simp
  | cons name rest ih =>
    rw [List.foldl_cons]
    by_cases known : name ∈ seen
    · rw [if_pos known, ih, List.filter_cons_of_neg (by simpa using known)]
    · have new : rest.filter (· ∉ seen ++ [name]) =
          (rest.filter (· ∉ seen)).filter fun other => !other == name := by
        rw [List.filter_filter]
        refine List.filter_congr fun other _ => ?_
        simp [not_or, and_comm, beq_eq_decide]
      rw [if_neg known, ih, List.filter_cons_of_pos (by simpa using known), List.eraseDups_cons,
        new, List.append_assoc, List.singleton_append]

theorem distinct_eq_eraseDups (names : List String) : distinct names = names.eraseDups := by
  rw [distinct, foldl_add_eq, List.nil_append, List.filter_eq_self.2 (by simp)]

/-! ## Readings -/

theorem nodup_scan_names (html : String) : (scan html).names.Nodup := nodup_distinct _

/-- Every token with a name gives it to the reading. -/
theorem name_mem_scan {html : String} {t : Token} (ht : t ∈ tokens html)
    (hn : t.isNameless = false) : t.name ∈ (scan html).names := by
  refine mem_distinct.2 (List.mem_map.2 ⟨t, List.mem_filter.2 ⟨ht, ?_⟩, rfl⟩)
  rw [hn]
  rfl

/-- Without issues every token has a name. -/
theorem isNameless_eq_false {html : String} (h : (scan html).issues = []) {t : Token}
    (ht : t ∈ tokens html) : t.isNameless = false := by
  have none : (tokens html).filter Token.isNameless = [] := List.map_eq_nil_iff.1 h
  have := List.filter_eq_nil_iff.1 none t ht
  simpa using this

/-- Values for the names of a text without issues are values for its tokens. -/
theorem exists_value_of_covers {html : String} {values : Values} (issues : (scan html).issues = [])
    (covers : ∀ name ∈ (scan html).names, name ∈ values.keys) {t : Token} (ht : t ∈ tokens html) :
    ∃ value, values.get? t.name = some value :=
  Table.mem_keys_iff.1 (covers t.name (name_mem_scan ht (isNameless_eq_false issues ht)))

theorem exists_value_of_mem_tokens {html : String} {values : Values}
    (issues : (scan html).issues = []) (keys : (scan html).names <+: values.keys) {t : Token}
    (ht : t ∈ tokens html) : ∃ value, values.get? t.name = some value :=
  exists_value_of_covers issues (fun _ named => keys.subset named) ht

theorem entryKeys_blank (names : List String) : entryKeys (names.map (·, "")) = names := by
  simp [entryKeys, Function.comp_def]

/-- The keys of blank values are the names. -/
theorem keys_blankValues {names : List String} (h : names.Nodup) :
    (blankValues names).keys = names := by
  rw [← entryKeys_blank names] at h
  exact (Table.keys_ofList h).trans (entryKeys_blank names)

theorem get?_blankValues {names : List String} (h : names.Nodup) {name : String}
    (hn : name ∈ names) : (blankValues names).get? name = some "" := by
  rw [← entryKeys_blank names] at h
  have found := (Table.findEntry_eq_some_iff h).2 (List.mem_map.2 ⟨name, hn, rfl⟩)
  rw [blankValues, Table.ofList, Table.get?_setAll_of_nodup Table.empty h, found, Option.some_or]

end Formulary.Template
