import Formulary.Proofs.Overlay
import Formulary.Proofs.Session.Reachable
import Formulary.Sample.KeyStream

/-!
Values invented for some names and then for more. The source goes on where the first names left it,
however many words each of them took, so the values are those of all names drawn in turn; and what
is drawn for names behind others does not reach those.
-/

namespace Formulary.Sample

open Template

variable {σ : Type} [WordSource σ]

theorem autofill_append (rules : List (Rule σ)) (names more : List String) :
    autofill rules (names ++ more) = (do
      let first ← autofill rules names
      let second ← autofill rules more
      pure (first.merge second)) := by
  simp only [autofill, List.mapM_append, bind_assoc, pure_bind, Table.ofList_append]

theorem keys_autofill_eq_eraseDups (rules : List (Rule σ)) (names : List String) (s : σ) :
    ((autofill rules names).run s).1.keys = names.eraseDups := by
  have drawn := Session.entryKeys_mapM (invent rules) names s
  conv_rhs => rw [← drawn]
  exact Table.keys_ofList_eq_eraseDups _

theorem get?_autofill_of_not_mem (rules : List (Rule σ)) {names : List String} {name : String}
    (absent : name ∉ names) (s : σ) : ((autofill rules names).run s).1.get? name = none := by
  rw [← List.mem_eraseDups, ← keys_autofill_eq_eraseDups rules names s] at absent
  exact Option.eq_none_iff_forall_not_mem.2 fun value held =>
    absent (Table.mem_keys_iff.2 ⟨value, held⟩)

/-- To invent values for names and more names is to invent them for the names, then for the others
from where the source was left, and to lay these over those. So more names do not change the values
of any that are not among them, and of a template's variables, which are distinct, the earlier ones
keep their values and their places. The names that have values are those of the list, each once in
order of first arrival. -/
theorem autofill_in_turn (rules : List (Rule σ)) (names more : List String) (s : σ) :
    let first := (autofill rules names).run s
    let second := (autofill rules more).run first.2
    let both := (autofill rules (names ++ more)).run s
    both = (first.1.merge second.1, second.2) ∧
    (∀ name, name ∉ more → both.1.get? name = first.1.get? name) ∧
    ((names ++ more).Nodup → both.1.entries = first.1.entries ++ second.1.entries) ∧
    both.1.keys = (names ++ more).eraseDups := by
  intro first second both
  have whole : both = (first.1.merge second.1, second.2) := by
    change (autofill rules (names ++ more)).run s = _
    rw [autofill_append]
    rfl
  have keys (names : List String) (s : σ) (distinct : names.Nodup) :
      ((autofill rules names).run s).1.keys = names := Session.keys_autofill distinct s
  refine ⟨whole, fun name absent => ?_, fun distinct => ?_,
    keys_autofill_eq_eraseDups rules (names ++ more) s⟩
  · rw [whole, Table.get?_merge, get?_autofill_of_not_mem rules absent, Option.none_or]
  · have apart := List.nodup_append.1 distinct
    rw [whole, Table.merge, Table.entries_setAll]
    change (first.1.keys ++ second.1.keys).Nodup
    rw [keys names s apart.1, keys more first.2 apart.2.1]
    exact distinct

/-- Two variables of a template, and then three more names, one of them twice. -/
theorem autofill_in_turn_more_names :
    let rules : List (Rule WordCycle) := standardRules (.on ⟨2026, 3, 1⟩)
    let source : WordCycle := ⟨[5, 0x9000000000000000, 0xffffffffffffffff, 77], 0⟩
    let names := ["nome_pai", "folha"]
    let more := ["xyz", "hora", "xyz"]
    let both := (autofill rules (names ++ more)).run source
    both.1.keys = ["nome_pai", "folha", "xyz", "hora"] ∧
      both.1.get? "folha" = ((autofill rules names).run source).1.get? "folha" ∧
      ((autofill rules (names ++ ["hora"])).run source).1.entries =
        ((autofill rules names).run source).1.entries ++
          ((autofill rules ["hora"]).run ((autofill rules names).run source).2).1.entries := by
  intro rules source names more both
  obtain ⟨-, kept, -, keys⟩ := autofill_in_turn rules names more source
  obtain ⟨-, -, entries, -⟩ := autofill_in_turn rules names ["hora"] source
  exact ⟨keys.trans (by decide), kept "folha" (by decide), entries (by decide)⟩

end Formulary.Sample
