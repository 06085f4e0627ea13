import Formulary.Json.Reader
import Formulary.Proofs.Table

/-!
The keys of every object in a JSON text are distinct, at any depth: a member whose key has been read
before is written over the earlier one.
-/

namespace Formulary.Json

/-- The keys of the members are distinct in each object of the value. -/
inductive Value.Distinct : Value → Prop
  | null : Distinct .null
  | bool (b : Bool) : Distinct (.bool b)
  | number (n : Numeric) : Distinct (.number n)
  | string (s : String) : Distinct (.string s)
  | array {elements : List Value} : (∀ v ∈ elements, v.Distinct) → Distinct (.array elements)
  | object {members : List (String × Value)} : (entryKeys members).Nodup →
      (∀ e ∈ members, e.2.Distinct) → Distinct (.object members)

variable {fuel depth : Nat} {s rest : List Char} {entries : List (String × Value)}

theorem Value.Distinct.members (h : (Value.object entries).Distinct) :
    (entryKeys entries).Nodup ∧ ∀ e ∈ entries, e.2.Distinct := by
  cases h with
  | object nodup values => exact ⟨nodup, values⟩

/-- A member that is written keeps the keys of an object distinct. -/
theorem Value.Distinct.set (h : (Value.object entries).Distinct) (key : String) {v : Value}
    (hv : v.Distinct) : (Value.object (setEntry key v entries)).Distinct := by
  obtain ⟨nodup, values⟩ := h.members
  refine .object (nodup_entryKeys_setEntry key v nodup) fun e he => ?_
  rcases Table.mem_setEntry he with rfl | he
  · exact hv
  · exact values e he

/-- What the readers of values, of elements and of members give with so much fuel. -/
structure ReadsDistinct (fuel : Nat) : Prop where
  value {depth s v rest} : readValue fuel depth s = some (v, rest) → v.Distinct
  elements {depth s vs rest} : readElements fuel depth s = some (vs, rest) → ∀ v ∈ vs, v.Distinct
  members {depth before s members rest} :
    readMembers fuel depth before s = some (members, rest) →
      (Value.object before).Distinct → (Value.object members).Distinct

theorem distinct_of_readValue (ih : ReadsDistinct fuel) {v : Value}
    (h : readValue (fuel + 1) depth s = some (v, rest)) : v.Distinct := by
  cases s with
  | nil => cases h
  | cons c s =>
    rw [readValue.eq_def] at h
    dsimp only at h
    split at h
    · split at h
      · cases h
        exact .null
      · cases h
    · split at h
      · cases h
        exact .bool true
      · cases h
    · split at h
      · cases h
        exact .bool false
      · cases h
    · obtain ⟨_, _, h⟩ := Option.bind_eq_some_iff.1 h
      cases h
      exact .string _
    · split at h
      · cases h
      · split at h
        · cases h
          exact .array (by simp)
        · obtain ⟨_, read, h⟩ := Option.bind_eq_some_iff.1 h
          cases h
          exact .array (ih.elements read)
    · split at h
      · cases h
      · have none : (Value.object []).Distinct := .object List.nodup_nil (by simp)
        split at h
        · cases h
          exact none
        · obtain ⟨_, read, h⟩ := Option.bind_eq_some_iff.1 h
          cases h
          exact ih.members read none
    · obtain ⟨_, _, h⟩ := Option.bind_eq_some_iff.1 h
      cases h
      exact .number _

theorem distinct_of_readElements (ih : ReadsDistinct fuel) {vs : List Value}
    (h : readElements (fuel + 1) depth s = some (vs, rest)) : ∀ v ∈ vs, v.Distinct := by
  unfold readElements at h
  obtain ⟨⟨v, _⟩, read, h⟩ := Option.bind_eq_some_iff.1 h
  have first := ih.value read
  dsimp only at h
  split at h
  · cases h
    simpa using first
  · obtain ⟨_, later, h⟩ := Option.bind_eq_some_iff.1 h
    cases h
    exact List.forall_mem_cons.2 ⟨first, ih.elements later⟩
  · cases h

theorem distinct_of_readMembers (ih : ReadsDistinct fuel) {before members : List (String × Value)}
    (h : readMembers (fuel + 1) depth before s = some (members, rest))
    (distinct : (Value.object before).Distinct) : (Value.object members).Distinct := by
  unfold readMembers at h
  split at h
  · obtain ⟨⟨key, _⟩, _, h⟩ := Option.bind_eq_some_iff.1 h
    dsimp only at h
    split at h
    · obtain ⟨⟨v, _⟩, read, h⟩ := Option.bind_eq_some_iff.1 h
      have written := distinct.set (String.ofList key) (ih.value read)
      dsimp only at h
      split at h
      · cases h
        exact written
      · exact ih.members h written
      · cases h
    · cases h
  · cases h

theorem readsDistinct (fuel : Nat) : ReadsDistinct fuel := by
  induction fuel with
  | zero => exact ⟨nofun, nofun, nofun⟩
  | succ fuel ih =>
    exact ⟨distinct_of_readValue ih, distinct_of_readElements ih, distinct_of_readMembers ih⟩

theorem distinct_of_parse {text : String} {v : Value} (h : parse text = some v) : v.Distinct := by
  unfold parse at h
  dsimp only at h
  split at h
  · next read =>
    split at h
    · cases h
      exact (readsDistinct _).value read
    · cases h
  · cases h

end Formulary.Json
