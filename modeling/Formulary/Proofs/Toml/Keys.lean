import Formulary.Toml.Tagged

/-!
The keys of a TOML table are distinct, however the sections of the text are put together: a value is
written where there is none yet, and what a header adds to stays at one key.
-/

namespace Formulary.Toml

/-- The keys of the table are distinct. -/
def Body.Distinct (b : Body) : Prop := (entryKeys b.entries).Nodup

/-- What is made of a table has distinct keys if the table has. -/
def Keeps (f : Body → Option Body) : Prop := ∀ b b', f b = some b' → b.Distinct → b'.Distinct

/-- A change further down is a write at the first key of the path. -/
theorem change_cons {dotted : Bool} {f : Body → Option Body} {k : String} {path : List String}
    {b b' : Body} (h : Body.change dotted f (k :: path) b = some b') :
    ∃ node, b' = ⟨b.implied, b.dotted, setEntry k node b.entries⟩ := by
  rw [Body.change] at h
  split at h
  · obtain ⟨node, _, h⟩ := Option.bind_eq_some_iff.1 h
    exact ⟨node, (Option.some.inj h).symm⟩
  · cases h
  · split at h
    · cases h
    · obtain ⟨node, _, h⟩ := Option.bind_eq_some_iff.1 h
      exact ⟨node, (Option.some.inj h).symm⟩
  · cases h
  · obtain ⟨body, _, h⟩ := Option.bind_eq_some_iff.1 h
    exact ⟨_, (Option.some.inj h).symm⟩

theorem keeps_change {f : Body → Option Body} (hf : Keeps f) (dotted : Bool) (path : List String) :
    Keeps (Body.change dotted f path) := by
  intro b b' h distinct
  cases path with
  | nil => exact hf b b' h distinct
  | cons k path =>
    obtain ⟨node, rfl⟩ := change_cons h
    exact nodup_entryKeys_setEntry k node distinct

theorem keeps_write (isPart : Bool) (k : String) (v : Value) : Keeps (Body.write isPart k v) := by
  intro b b' h distinct
  unfold Body.write at h
  split at h
  · cases h
  · split at h
    · cases h
    · cases h
      exact nodup_entryKeys_setEntry k _ distinct

theorem keeps_add (p : Pair) : Keeps (Body.add · p) := by
  intro b b' h distinct
  unfold Body.add at h
  split at h
  · cases h
  · exact keeps_change (keeps_write _ _ _) true _ b b' h distinct

theorem keeps_foldlM {α : Type} {f : Body → α → Option Body} (hf : ∀ a, Keeps (f · a))
    (xs : List α) : Keeps fun b => xs.foldlM f b := by
  intro b b' h distinct
  induction xs generalizing b with
  | nil => cases h; exact distinct
  | cons x rest ih =>
    simp only [List.foldlM_cons] at h
    obtain ⟨next, hnext, h⟩ := Option.bind_eq_some_iff.1 h
    exact ih next h (hf x b next hnext distinct)

/-- A key that is taken out is new where it is put back. -/
theorem nodup_otherEntries {k : String} {entries : List (String × Node)} (node : Node)
    (h : (entryKeys entries).Nodup) :
    (entryKeys (otherEntries k entries ++ [(k, node)])).Nodup := by
  have others : (entryKeys (otherEntries k entries)).Nodup := h.sublist (List.filter_sublist.map _)
  have new : k ∉ entryKeys (otherEntries k entries) := by
    simp [entryKeys, otherEntries]
  rw [entryKeys, List.map_append]
  refine List.nodup_append.2 ⟨others, by simp, fun a ha b hb he => ?_⟩
  rw [he, List.mem_singleton.1 hb] at ha
  exact new ha

theorem keeps_addSection (h : Header) (pairs : List Pair) : Keeps (Body.addSection · h pairs) := by
  intro root root' hroot distinct
  unfold Body.addSection at hroot
  cases h with
  | table path =>
    dsimp only at hroot
    split at hroot
    · cases hroot
    · refine keeps_change (fun b b' hb distinct => ?_) false _ root root' hroot distinct
      rw [if_neg Bool.false_ne_true] at hb
      split at hb
      · obtain ⟨_, _, hb⟩ := Option.bind_eq_some_iff.1 hb
        obtain ⟨body, _, hb⟩ := Option.bind_eq_some_iff.1 hb
        cases hb
        exact nodup_otherEntries _ distinct
      · obtain ⟨_, _, hb⟩ := Option.bind_eq_some_iff.1 hb
        obtain ⟨body, _, hb⟩ := Option.bind_eq_some_iff.1 hb
        cases hb
        exact nodup_otherEntries _ distinct
      · cases hb
  | element path =>
    dsimp only at hroot
    split at hroot
    · cases hroot
    · refine keeps_change (fun b b' hb distinct => ?_) false _ root root' hroot distinct
      rw [if_pos rfl] at hb
      split at hb
      · obtain ⟨_, _, hb⟩ := Option.bind_eq_some_iff.1 hb
        obtain ⟨body, _, hb⟩ := Option.bind_eq_some_iff.1 hb
        cases hb
        exact nodup_entryKeys_setEntry _ _ distinct
      · obtain ⟨_, _, hb⟩ := Option.bind_eq_some_iff.1 hb
        obtain ⟨body, _, hb⟩ := Option.bind_eq_some_iff.1 hb
        cases hb
        exact nodup_entryKeys_setEntry _ _ distinct
      · cases hb

theorem entryKeys_finishEntries (entries : List (String × Node)) :
    entryKeys (finishEntries entries) = entryKeys entries := by
  induction entries with
  | nil => simp [finishEntries]; rfl
  | cons e rest ih =>
    obtain ⟨k, node⟩ := e
    rw [finishEntries]
    exact congrArg (k :: ·) ih

theorem nodup_document {pairs : List Pair} {sections : List (Header × List Pair)}
    {entries : List (String × Value)} (h : document pairs sections = some entries) :
    (entryKeys entries).Nodup := by
  obtain ⟨first, hfirst, h⟩ := Option.bind_eq_some_iff.1 h
  obtain ⟨root, hroot, h⟩ := Option.bind_eq_some_iff.1 h
  cases h
  rw [entryKeys_finishEntries]
  have written : first.Distinct := keeps_foldlM keeps_add pairs _ first hfirst List.nodup_nil
  exact keeps_foldlM (fun s => keeps_addSection s.1 s.2) sections first root hroot written

theorem entryKeys_untaggedEntries {entries entries' : List (String × Value)}
    (h : untaggedEntries? entries = some entries') : entryKeys entries' = entryKeys entries := by
  induction entries generalizing entries' with
  | nil => rw [untaggedEntries?] at h; cases h; rfl
  | cons e rest ih =>
    obtain ⟨key, v⟩ := e
    rw [untaggedEntries?] at h
    obtain ⟨v', _, h⟩ := Option.bind_eq_some_iff.1 h
    obtain ⟨rest', hrest, h⟩ := Option.bind_eq_some_iff.1 h
    cases h
    exact congrArg (key :: ·) (ih hrest)

/-- The keys of a TOML text are distinct. -/
theorem nodup_parseTagged {text : String} {entries : List (String × Value)}
    (h : parseTagged text = some entries) : (entryKeys entries).Nodup := by
  obtain ⟨written, hwritten, h⟩ := Option.bind_eq_some_iff.1 h
  rw [entryKeys_untaggedEntries h]
  obtain ⟨⟨pairs, sections⟩, _, hwritten⟩ := Option.bind_eq_some_iff.1 hwritten
  exact nodup_document hwritten

end Formulary.Toml
