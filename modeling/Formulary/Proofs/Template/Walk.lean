import Formulary.Proofs.Template.Cut
import Formulary.Proofs.Template.Slices
import Mathlib.Logic.Function.Iterate

/-!
How a walk goes on, and how it ends. A step may leave the octet that it reads for the next one. It
does so only to give a single brace up, and the next step goes on; so what is to come grows less
from step to step, and no position has more than two steps, among however many calls the walk is
divided. At the end of the text a walk stands still, with every line counted.
-/

namespace Formulary.Template

/-- What a phase with a single brace comes to where no second one follows. -/
inductive Phase.GivesUp : Phase → Phase → Prop
  | opening {brace : Nat} : GivesUp (.opening brace) .outside
  | closing {start content brace line : Nat} :
      GivesUp (.closing start content brace line) (.inside start content line)

namespace Scanner

variable {bytes : ByteArray} {text : String} {s s' s'' : Scanner} {t : Option Token}
  {l l' : List Scanner} {k : Nat}

/-! ## One step -/

/-- The step leaves the octet that it reads for the next one. -/
structure Stays (s s' : Scanner) (t : Option Token) : Prop where
  givesUp : s.phase.GivesUp s'.phase
  pos_eq : s'.pos = s.pos
  line_eq : s'.line = s.line
  silent : t = none

theorem read_cases (bytes : ByteArray) (s : Scanner) (b : UInt8) :
    s.pos < (s.read bytes b).1.pos ∨ s.Stays (s.read bytes b).1 (s.read bytes b).2 := by
  unfold read
  cases hp : s.phase with
  | outside =>
    left
    dsimp only
    split
    · exact Nat.lt_succ_self _
    · split <;> exact Nat.lt_succ_self _
  | opening brace =>
    dsimp only
    split
    · exact .inl (Nat.lt_succ_self _)
    · exact .inr ⟨hp ▸ .opening, rfl, rfl, rfl⟩
  | inside start content line =>
    left
    dsimp only
    split
    · exact Nat.lt_succ_self _
    · split
      · exact Nat.lt_add_of_pos_right Nat.two_pos
      · split <;> exact Nat.lt_succ_self _
  | closing start content brace line =>
    dsimp only
    split
    · exact .inl (Nat.lt_succ_self _)
    · exact .inr ⟨hp ▸ .closing, rfl, rfl, rfl⟩

theorem step_cases (h : s.step bytes = some (s', t)) : s.pos < s'.pos ∨ s.Stays s' t := by
  obtain ⟨b, -, read⟩ := Option.map_eq_some_iff.1 h
  have cases := read_cases bytes s b
  rwa [read] at cases

theorem pos_lt_size_of_step (h : s.step bytes = some (s', t)) : s.pos < bytes.size := by
  obtain ⟨b, found, -⟩ := Option.map_eq_some_iff.1 h
  exact (getElem_of_getElem? found).1

theorem mayStay_of_givesUp (h : s.phase.GivesUp s'.phase) :
    s.mayStay = true ∧ s'.mayStay = false := by
  unfold mayStay
  generalize s.phase = before at h
  generalize s'.phase = behind at h
  cases h <;> exact ⟨rfl, rfl⟩

/-- Behind a step that stays there is another one, and it goes on. -/
theorem Stays.goes_on (stays : s.Stays s' t) (h : s.step bytes = some (s', t)) :
    ∃ s'' t', s'.step bytes = some (s'', t') ∧ s'.pos < s''.pos := by
  obtain ⟨b, found, -⟩ := Option.map_eq_some_iff.1 h
  rw [← stays.pos_eq] at found
  have next : s'.step bytes = some (s'.read bytes b) := congrArg (Option.map _) found
  refine ⟨_, _, next, ?_⟩
  rcases read_cases bytes s' b with on | again
  · exact on
  · have cannot := (mayStay_of_givesUp stays.givesUp).2
    rw [(mayStay_of_givesUp again.givesUp).1] at cannot
    cases cannot

/-- What is to come: how many octets, and then whether the next step may stay. -/
def ahead (bytes : ByteArray) (s : Scanner) : Nat × Bool := (bytes.size - s.pos, s.mayStay)

theorem ahead_step_lt (h : s.step bytes = some (s', t)) :
    Prod.Lex (· < ·) (· < ·) (s'.ahead bytes) (s.ahead bytes) := by
  have inText := pos_lt_size_of_step h
  rcases step_cases h with on | stays
  · exact .left _ _ (by omega)
  · obtain ⟨could, cannot⟩ := mayStay_of_givesUp stays.givesUp
    rw [ahead, ahead, stays.pos_eq, could, cannot]
    exact .right _ Bool.false_lt_true

/-- At one position there are but two things that may be left. -/
theorem rank_eq_or (bytes : ByteArray) (s : Scanner) :
    s.rank bytes = 2 * (bytes.size - s.pos) ∨ s.rank bytes = 2 * (bytes.size - s.pos) + 1 := by
  unfold rank
  cases s.mayStay
  · exact .inl rfl
  · exact .inr rfl

/-! ## Steps in a row -/

/-- From `s` the walk comes to the last scanner by steps that begin in the listed ones, in turn. -/
inductive Walks (bytes : ByteArray) (s : Scanner) : List Scanner → Scanner → Prop
  | nil : Walks bytes s [] s
  | snoc {l : List Scanner} {s' s'' : Scanner} {t : Option Token} : Walks bytes s l s' →
      s'.step bytes = some (s'', t) → Walks bytes s (l ++ [s']) s''

namespace Walks

theorem single (h : s.step bytes = some (s', t)) : Walks bytes s [s] s' := .snoc .nil h

theorem trans (h : Walks bytes s l s') (h' : Walks bytes s' l' s'') :
    Walks bytes s (l ++ l') s'' := by
  induction h' with
  | nil => rwa [List.append_nil]
  | snoc _ step ih =>
    rw [← List.append_assoc]
    exact .snoc ih step

/-- Every step takes something of what is left, -/
theorem length_add_rank_le (h : Walks bytes s l s') : l.length + s'.rank bytes ≤ s.rank bytes := by
  induction h with
  | nil => exact Nat.le_of_eq (Nat.zero_add _)
  | snoc _ step ih =>
    have less := rank_step_lt step
    rw [List.length_append, List.length_singleton]
    omega

/-- so that no two steps begin with as much left. -/
theorem rank_sorted (h : Walks bytes s l s') :
    (l ++ [s']).Pairwise fun a b => b.rank bytes < a.rank bytes := by
  induction h with
  | nil => exact List.pairwise_singleton _ _
  | snoc _ step ih =>
    refine List.pairwise_append.2 ⟨ih, List.pairwise_singleton _ _, fun a ha b hb => ?_⟩
    obtain rfl := List.mem_singleton.1 hb
    have less := rank_step_lt step
    rcases List.mem_append.1 ha with earlier | last
    · have more := (List.pairwise_append.1 ih).2.2 a earlier _ List.mem_cons_self
      omega
    · rwa [List.mem_singleton.1 last]

theorem length_filter_pos_le (h : Walks bytes s l s') (p : Nat) :
    (l.filter (·.pos = p)).length ≤ 2 := by
  have sorted := (List.pairwise_append.1 h.rank_sorted).1.filter (·.pos = p)
  have here : ∀ a ∈ l.filter (·.pos = p), a.pos = p := fun a ha => by
    simpa using (List.mem_filter.1 ha).2
  generalize l.filter (·.pos = p) = steps at sorted here
  match steps with
  | [] => exact Nat.zero_le 2
  | [_] => exact Nat.le_succ 1
  | [_, _] => exact Nat.le_refl 2
  | a :: b :: c :: _ =>
    simp only [List.pairwise_cons, List.forall_mem_cons] at sorted here
    obtain ⟨ha, hb, hc, -⟩ := here
    obtain ⟨⟨ab, -⟩, ⟨bc, -⟩, -⟩ := sorted
    have rankA := rank_eq_or bytes a
    have rankB := rank_eq_or bytes b
    have rankC := rank_eq_or bytes c
    rw [ha] at rankA
    rw [hb] at rankB
    rw [hc] at rankC
    omega

/-- The walk is the one that is counted out step by step. -/
theorem reached (h : Walks text.toByteArray start l s) : s.Reached text := by
  refine ⟨l.length, ?_⟩
  induction h with
  | nil => rfl
  | snoc _ step ih =>
    rw [List.length_append, List.length_singleton, after?, ih]
    exact Option.bind_eq_some_iff.2 ⟨_, rfl, Option.bind_eq_some_iff.2 ⟨_, step, rfl⟩⟩

end Walks

/-! ## Calls -/

/-- The scanners in which the steps of a call begin. -/
def visited (bytes : ByteArray) (s : Scanner) : List Scanner :=
  match _h : s.step bytes with
  | none => []
  | some (_, some _) => [s]
  | some (s', none) => s :: s'.visited bytes
termination_by s.rank bytes
decreasing_by exact rank_step_lt ‹_›

/-- The walk over a text after so many calls. -/
def called (bytes : ByteArray) (k : Nat) : Scanner := (fun s => (s.next bytes).2)^[k] start

/-- The scanners in which the steps of the first `k` calls begin. -/
def visitedBy (bytes : ByteArray) (k : Nat) : List Scanner :=
  (List.range k).flatMap fun j => (called bytes j).visited bytes

theorem next_of_ended (h : s.step bytes = none) : s.next bytes = (none, s) := by
  rw [next]
  split
  · rfl
  · next goesOn => cases h.symm.trans goesOn
  · next goesOn => cases h.symm.trans goesOn

theorem next_of_step {r : Scanner × Option Token} (h : s.step bytes = some r) :
    s.next bytes = match r with
      | (s', some t) => (some t, s')
      | (s', none) => s'.next bytes := by
  rw [next]
  split
  · next ended => cases h.symm.trans ended
  · next found => cases h.symm.trans found; rfl
  · next goesOn => cases h.symm.trans goesOn; rfl

theorem walks_next (bytes : ByteArray) (s : Scanner) :
    Walks bytes s (s.visited bytes) (s.next bytes).2 := by
  fun_induction visited bytes s with
  | case1 s ended =>
    rw [next_of_ended ended]
    exact .nil
  | case2 s s' t found =>
    rw [next_of_step found]
    exact .single found
  | case3 s s' goesOn ih =>
    rw [next_of_step goesOn]
    exact (Walks.single goesOn).trans ih

theorem called_succ (bytes : ByteArray) (k : Nat) :
    called bytes (k + 1) = ((called bytes k).next bytes).2 :=
  Function.iterate_succ_apply' _ k start

/-- The calls go on where the one before has stopped: their steps, call by call, are those of one
walk. -/
theorem walks_called (bytes : ByteArray) (k : Nat) :
    Walks bytes start (visitedBy bytes k) (called bytes k) := by
  induction k with
  | zero => exact .nil
  | succ k ih =>
    have more : visitedBy bytes (k + 1) =
        visitedBy bytes k ++ (called bytes k).visited bytes := by
      simp [visitedBy, List.range_succ]
    rw [more, called_succ]
    exact ih.trans (walks_next bytes _)

/-! ## The end -/

/-- A call that finds nothing leaves the walk at the end of the text. -/
theorem step_of_next_eq_none (h : (s.next bytes).1 = none) : (s.next bytes).2.step bytes = none := by
  fun_induction next bytes s with
  | case1 s ended => exact ended
  | case2 s s' t found => cases h
  | case3 s s' goesOn ih => exact ih h

/-- Calls give the placeholders in turn, and then nothing. -/
theorem next_iterate (s : Scanner) (k : Nat) :
    (((fun s => (s.next bytes).2)^[k] s).next bytes).1 = (s.tokens bytes)[k]? := by
  induction k generalizing s with
  | zero =>
    rw [tokens]
    split
    · next none => exact none
    · next t found => exact found
  | succ k ih =>
    rw [Function.iterate_succ_apply, ih, tokens.eq_def bytes s]
    split
    · next none =>
      rw [tokens, next_of_ended (step_of_next_eq_none none)]
      rfl
    · rfl

theorem next_called (text : String) (k : Nat) :
    ((called text.toByteArray k).next text.toByteArray).1 = (Template.tokens text)[k]? :=
  next_iterate start k

theorem Bounded.line_of_ended (h : s.Bounded text) (ended : s.step text.toByteArray = none) :
    s.line = 1 + newlines text := by
  have atEnd := size_le_of_step_eq_none ended
  rw [h.sound.line, lineAt, List.take_of_length_le (by simpa using atEnd), newlines]

/-- Once a call has found nothing, the walk stands still. -/
theorem called_of_ended {j : Nat} (h : ((called bytes k).next bytes).1 = none) (le : k ≤ j) :
    ((called bytes j).next bytes).1 = none ∧ called bytes (j + 1) = called bytes (k + 1) := by
  induction j, le using Nat.le_induction with
  | base => exact ⟨h, rfl⟩
  | succ j le ih =>
    have ended := next_of_ended (step_of_next_eq_none ih.1)
    rw [← called_succ] at ended
    refine ⟨congrArg Prod.fst ended, Eq.trans ?_ ih.2⟩
    rw [called_succ, ended]

/-- A walk over a text comes to its end. No step goes back; one that stays gives a brace up, and
there is another one behind it, which goes on; so the octets to come, and behind them whether a step
may stay, grow less by every step. No walk has more steps than twice the octets of the text, nor
more than two at one position, and the steps of any number of calls make up a walk. The calls give
the tokens in turn; once one has found nothing, none does, and nothing changes any more, with every
line of the text counted. -/
theorem walk_ends (text : String) :
    let bytes := text.toByteArray
    (∀ (s s' : Scanner) (t : Option Token), s.step bytes = some (s', t) →
      s.pos ≤ s'.pos ∧ Prod.Lex (· < ·) (· < ·) (s'.ahead bytes) (s.ahead bytes) ∧
      (s'.pos = s.pos → s.Stays s' t ∧
        ∃ s'' t', s'.step bytes = some (s'', t') ∧ s'.pos < s''.pos)) ∧
    (∀ l s, Walks bytes start l s → l.length ≤ 2 * bytes.size ∧
      ∀ p, (l.filter (·.pos = p)).length ≤ 2) ∧
    (∀ k, Walks bytes start (visitedBy bytes k) (called bytes k) ∧
      ((called bytes k).next bytes).1 = (Template.tokens text)[k]?) ∧
    ∀ k, ((called bytes k).next bytes).1 = none → ∀ j, k ≤ j →
      ((called bytes j).next bytes).1 = none ∧ called bytes (j + 1) = called bytes (k + 1) ∧
      (called bytes (j + 1)).line = 1 + newlines text := by
  intro bytes
  refine ⟨fun s s' t step => ?_, fun l s walk => ⟨?_, walk.length_filter_pos_le⟩,
    fun k => ⟨walks_called bytes k, next_called text k⟩, fun k none j le => ?_⟩
  · refine ⟨?_, ahead_step_lt step, fun same => ?_⟩
    · exact (step_cases step).elim Nat.le_of_lt fun stays => Nat.le_of_eq stays.pos_eq.symm
    · have stays := (step_cases step).resolve_left (Nat.not_lt.2 (Nat.le_of_eq same))
      exact ⟨stays, stays.goes_on step⟩
  · have steps := walk.length_add_rank_le
    change _ ≤ 2 * (bytes.size - 0) + 0 at steps
    omega
  · obtain ⟨none, same⟩ := called_of_ended none le
    refine ⟨none, same, (bounded_of_reached (walks_called bytes (j + 1)).reached).line_of_ended ?_⟩
    rw [called_succ]
    exact step_of_next_eq_none none

/-- A brace that no other follows, at the end of a line, and one within a name: the walk has two
steps behind each of them. -/
theorem walk_ends_two_braces :
    let text := "\x7b\n\x7b\x7bb\x7dc\x7d\x7d"
    let bytes := text.toByteArray
    let s : Scanner := ⟨6, .closing 2 4 5 2, 2⟩
    let s' : Scanner := ⟨6, .inside 2 4 2, 2⟩
    s.step bytes = some (s', none) ∧ s.Stays s' none ∧
    (∃ s'' t, s'.step bytes = some (s'', t) ∧ 6 < s''.pos) ∧
    Walks bytes start (visitedBy bytes 2) (called bytes 2) ∧
    (visitedBy bytes 2).length = 11 ∧ 11 ≤ 2 * bytes.size ∧
    (visitedBy bytes 2).filter (·.pos = 6) = [s, s'] ∧
    (visitedBy bytes 2).filter (·.pos = 1) = [⟨1, .opening 0, 1⟩, ⟨1, .outside, 1⟩] ∧
    ((called bytes 1).next bytes).1 = none ∧ ((called bytes 9).next bytes).1 = none ∧
    (called bytes 10).line = 2 := by
  intro text bytes s s'
  obtain ⟨steps, walks, calls, ending⟩ := walk_ends text
  have step : s.step bytes = some (s', none) := by decide +kernel
  obtain ⟨stays, on⟩ := (steps s s' none step).2.2 rfl
  obtain ⟨walk, -⟩ := calls 2
  have length : (visitedBy bytes 2).length = 11 := by decide +kernel
  have none : ((called bytes 1).next bytes).1 = none := by decide +kernel
  obtain ⟨still, -, line⟩ := ending 1 none 9 (by decide)
  have lines : newlines text = 1 := by decide +kernel
  exact ⟨step, stays, on, walk, length, length ▸ (walks _ _ walk).1, by decide +kernel,
    by decide +kernel, none, still, line.trans (by rw [lines])⟩

end Scanner

end Formulary.Template
