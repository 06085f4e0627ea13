import Formulary.Files.Tree
import Formulary.Proofs.Outcome

/-!
Names in directories. The path of a name in a directory has the parts of the directory and then the
name, as long as there is no slash in the name; so it leads to what the directory itself holds under
that name, whatever the tree is and wherever the directory lies.
-/

namespace Formulary

namespace Text

variable {α : Type} [DecidableEq α] {mark : α}

theorem cutAt_ne_nil (s : List α) : cutAt mark s ≠ [] := by
  cases s with
  | nil => exact List.cons_ne_nil _ _
  | cons a s =>
    unfold cutAt
    split
    · exact List.cons_ne_nil _ _
    · split <;> exact List.cons_ne_nil _ _

theorem cutAt_cons_mark (s : List α) : cutAt mark (mark :: s) = [] :: cutAt mark s := by
  rw [cutAt]
  split
  · next none => exact absurd none (cutAt_ne_nil s)
  · next some => rw [if_pos rfl, some]

theorem cutAt_append_mark (s rest : List α) :
    cutAt mark (s ++ mark :: rest) = cutAt mark s ++ cutAt mark rest := by
  induction s with
  | nil => exact cutAt_cons_mark rest
  | cons a s ih =>
    obtain ⟨first, more, cut⟩ := List.exists_cons_of_ne_nil (@cutAt_ne_nil _ _ mark s)
    rw [List.cons_append, cutAt, ih, cutAt, cut]
    dsimp only [List.cons_append]
    split <;> rfl

theorem cutAt_of_not_mem {s : List α} (h : mark ∉ s) : cutAt mark s = [s] := by
  induction s with
  | nil => rfl
  | cons a s ih =>
    rw [List.mem_cons, not_or] at h
    rw [cutAt, ih h.2]
    exact if_neg (Ne.symm h.1)

end Text

namespace Files

open Text

/-! ## Parts of a path -/

theorem startsWith_slash_iff (path : String) :
    path.startsWith "/" = true ↔ ∃ rest, path.toList = '/' :: rest := by
  rw [String.startsWith_string_iff]
  exact ⟨fun ⟨rest, eq⟩ => ⟨rest, eq.symm⟩, fun ⟨rest, eq⟩ => ⟨rest, eq.symm⟩⟩

theorem endsWith_slash_iff (path : String) :
    path.endsWith "/" = true ↔ ∃ front, path.toList = front ++ ['/'] := by
  rw [String.endsWith_eq_endsWith_toSlice, String.Slice.endsWith_string_iff, String.copy_toSlice]
  exact ⟨fun ⟨front, eq⟩ => ⟨front, eq.symm⟩, fun ⟨front, eq⟩ => ⟨front, eq.symm⟩⟩

theorem parts_of_no_slash {name : String} (h : '/' ∉ name.toList) : parts name = [name] := by
  rw [parts, cutAt_of_not_mem h, List.map_singleton, String.ofList_toList]

/-- A name behind a slash is the last part. -/
theorem parts_of_slash {path name : String} {front : List Char} (h : '/' ∉ name.toList)
    (eq : path.toList = front ++ '/' :: name.toList) :
    parts path = (cutAt '/' front).map String.ofList ++ [name] := by
  rw [parts, eq, cutAt_append_mark, List.map_append, cutAt_of_not_mem h, List.map_singleton,
    String.ofList_toList]

theorem not_startsWith_slash {name : String} (h : '/' ∉ name.toList) :
    ¬ name.startsWith "/" = true := by
  rw [startsWith_slash_iff]
  rintro ⟨rest, eq⟩
  exact h (eq ▸ List.mem_cons_self)

/-- A path that goes on behind its first characters starts where these do. -/
theorem origin_of_append {path : String} (h : path ≠ "") (rest : String) :
    Tree.origin (path ++ rest) = Tree.origin path := by
  have same : (path ++ rest).startsWith "/" = path.startsWith "/" := by
    rw [Bool.eq_iff_iff, startsWith_slash_iff, startsWith_slash_iff, String.toList_append]
    obtain ⟨c, s, eq⟩ := List.exists_cons_of_ne_nil (mt String.toList_eq_nil_iff.1 h)
    simp only [eq, List.cons_append, List.cons.injEq, exists_and_left, exists_eq']
  unfold Tree.origin
  rw [same]

/-! ## Walking -/

namespace Tree

variable {t : Tree} {here : List String} {directory name : String}

/-- What stands behind some parts is found from the directory that these lead to. -/
theorem walk_append (t : Tree) (here : List String) (front : List String) {rest : List String}
    (h : rest ≠ []) :
    t.walk here (front ++ rest) = t.enter here front >>= fun there => t.walk there rest := by
  induction front generalizing here with
  | nil => rfl
  | cons part front ih =>
    rw [List.cons_append]
    unfold enter at ih ⊢
    rw [walk, walk]
    split
    · exact ih here
    · split
      · exact ih (above here)
      · split
        · rfl
        · dsimp only
          -- With `rest` still to come, the walk does not end at this part.
          have more : (front ++ rest).isEmpty = false := by
            rw [List.isEmpty_eq_false_iff]
            exact fun none => h (List.append_eq_nil_iff.1 none).2
          split
          · exact ih _
          · next node other stands =>
            rw [more]
            cases front with
            | cons => rfl
            | nil => cases node <;> first | rfl | contradiction
          · rw [more]
            cases front <;> rfl

/-- An empty part at the end, as a slash at the end makes it, leads no further. -/
theorem enter_append_empty (t : Tree) (here front : List String) :
    t.enter here (front ++ [""]) = t.enter here front := by
  rw [enter, walk_append t here front (List.cons_ne_nil _ _), bind_assoc]
  exact bind_pure _

/-- A name in a directory is looked for in that directory, and nowhere else. -/
theorem walk_inDirectory (t : Tree) (directory : String) (h : '/' ∉ name.toList) :
    t.walk (origin (inDirectory directory name)) (parts (inDirectory directory name)) =
      t.enter (origin directory) (parts directory) >>= fun here => t.walk here [name] := by
  have further : [name] ≠ [] := List.cons_ne_nil _ _
  unfold inDirectory
  by_cases empty : directory = ""
  · subst empty
    rw [if_pos (.inr rfl), parts_of_no_slash h, origin, if_neg (not_startsWith_slash h)]
    rfl
  · have named : ¬ (name.startsWith "/" = true ∨ directory.isEmpty = true) := by
      rw [String.isEmpty_iff]
      exact not_or.2 ⟨not_startsWith_slash h, empty⟩
    rw [if_neg named]
    split
    · next slash =>
      -- The slash is there already, and makes an empty last part of the directory.
      obtain ⟨front, eq⟩ := (endsWith_slash_iff directory).1 slash
      have whole : parts directory = (cutAt '/' front).map String.ofList ++ [""] :=
        parts_of_slash List.not_mem_nil eq
      rw [origin_of_append empty, whole, enter_append_empty, ← walk_append t _ _ further]
      rw [parts_of_slash h (by rw [String.toList_append, eq, List.append_assoc]; rfl)]
    · have whole :
          (directory ++ ("/" ++ name)).toList = directory.toList ++ '/' :: name.toList := by
        simp only [String.toList_append]
        rfl
      rw [String.append_assoc, origin_of_append empty, parts_of_slash h whole]
      exact walk_append t _ _ further

/-- The place of a path of plain parts, with what stands there. -/
def placeAt (t : Tree) (path : List String) : Place :=
  match t.at? path with
  | some node => .present path node
  | none => .absent path

theorem placeAt_eq_present {path there : List String} {node : Node}
    (h : t.placeAt path = .present there node) : there = path ∧ t.at? path = some node := by
  unfold placeAt at h
  split at h
  · next stands => cases h; exact ⟨rfl, stands⟩
  · cases h

theorem placeAt_eq_absent {path there : List String} (h : t.placeAt path = .absent there) :
    there = path := by
  unfold placeAt at h
  split at h <;> cases h
  rfl

/-- A name that is none of the marks for directories stands for itself. -/
theorem place_of_walk_name {place : Place} (filler : isFiller name = false) (up : name ≠ "..")
    (h : t.walk here [name] = .ok place) : place = t.placeAt (here ++ [name]) := by
  rw [walk, filler, if_neg Bool.false_ne_true, if_neg up] at h
  unfold placeAt
  split at h
  · cases h
  · dsimp only at h
    split at h
    · next stands => cases h; rw [stands]
    · next node _ stands => cases h; rw [stands]
    · next stands => cases h; rw [stands]

end Tree

/-! ## Children of a directory -/

/-- The path of the name in the directory is one of the directory's own. Where it leads anywhere, it
leads to what the directory holds under the name, and what is written at it is written there; only a
device that has the name stays what it is. -/
structure IsChild (directory name : String) : Prop where
  located : ∀ (t : Tree) (place : Place), t.locate (inDirectory directory name) = .ok place →
    ∃ here, t.enter (Tree.origin directory) (parts directory) = .ok here ∧
      place = t.placeAt (here ++ [name])
  written : ∀ (t next : Tree) (content : Content),
    t.write (inDirectory directory name) content = .ok next →
    ∃ here, t.enter (Tree.origin directory) (parts directory) = .ok here ∧
      (next = t.set (joined (here ++ [name])) (.file content) ∨
        ∃ d, t.at? (here ++ [name]) = some (.device d) ∧ next = t)

variable {directory name : String} {t next : Tree} {path : String} {content : Content}

theorem device?_eq_some {d : Device} (h : t.device? path = some d) :
    ∃ place, t.locate path = .ok (.present place (.device d)) := by
  unfold Tree.device? at h
  split at h
  · next place _ found =>
    cases h
    exact ⟨place, found⟩
  · cases h

theorem locateForWriting_eq_ok {here : List String} (h : t.locateForWriting path = .ok here) :
    ∃ place, t.locate path = .ok place ∧
      (place = .absent here ∨ ∃ node, place = .present here node) := by
  obtain ⟨_, checked, h⟩ := bind_eq_ok h
  unfold Tree.locate
  rw [bind_of_ok checked]
  dsimp only at h
  split at h
  · obtain ⟨_, -, h⟩ := bind_eq_ok h
    cases h
  · obtain ⟨place, walked, h⟩ := bind_eq_ok h
    refine ⟨place, walked, ?_⟩
    cases place with
    | present there node => cases node <;> cases h <;> exact .inr ⟨_, rfl⟩
    | absent there => cases h; exact .inl rfl

/-- What is written goes to the place that the path leads to, unless a device stands there. -/
theorem write_eq_ok (h : t.write path content = .ok next) :
    ∃ place, t.locate path = .ok place ∧
      ((∃ here d, place = .present here (.device d) ∧ next = t) ∨
        ∃ here, (place = .absent here ∨ ∃ node, place = .present here node) ∧
          next = t.set (joined here) (.file content)) := by
  unfold Tree.write at h
  split at h
  · next d found =>
    obtain ⟨here, located⟩ := device?_eq_some found
    refine ⟨_, located, .inl ⟨here, d, rfl, ?_⟩⟩
    cases fault : d.writeFault? content.bytes with
    | none => rw [fault] at h; cases h; rfl
    | some fault' => rw [fault] at h; cases h
  · obtain ⟨here, located, h⟩ := bind_eq_ok h
    cases h
    obtain ⟨place, located, which⟩ := locateForWriting_eq_ok located
    exact ⟨place, located, .inr ⟨here, which, rfl⟩⟩

theorem isChild_of_no_slash (directory : String) (slash : '/' ∉ name.toList)
    (filler : isFiller name = false) (up : name ≠ "..") : IsChild directory name := by
  have located : ∀ (t : Tree) (place : Place),
      t.locate (inDirectory directory name) = .ok place →
      ∃ here, t.enter (Tree.origin directory) (parts directory) = .ok here ∧
        place = t.placeAt (here ++ [name]) := by
    intro t place h
    obtain ⟨_, -, h⟩ := bind_eq_ok h
    rw [Tree.walk_inDirectory t directory slash] at h
    obtain ⟨here, entered, h⟩ := bind_eq_ok h
    exact ⟨here, entered, Tree.place_of_walk_name filler up h⟩
  refine ⟨located, fun t next content h => ?_⟩
  obtain ⟨place, found, h⟩ := write_eq_ok h
  obtain ⟨here, entered, eq⟩ := located t place found
  refine ⟨here, entered, ?_⟩
  rcases h with ⟨there, d, rfl, rfl⟩ | ⟨there, rfl | ⟨node, rfl⟩, rfl⟩
  · exact .inr ⟨d, (Tree.placeAt_eq_present eq.symm).2, rfl⟩
  · rw [Tree.placeAt_eq_absent eq.symm]
    exact .inl rfl
  · rw [(Tree.placeAt_eq_present eq.symm).1]
    exact .inl rfl

end Files

end Formulary
