import Formulary.Proofs.Text.Reader
import Formulary.Sample.Draw

/-!
What draws give, whatever words the source has. A number below a bound stays below it, also where a
second word carries the first share over; so a pool is never left, and digits are digits.
-/

namespace Formulary.Sample.Draw

variable {σ α β : Type}

/-- From every state of the source, the draw gives a value of this kind. -/
def Always (d : Draw σ α) (P : α → Prop) : Prop := ∀ s, P (d.run s).1

section

variable {d : Draw σ α} {f : α → Draw σ β} {P : α → Prop} {Q : β → Prop} {a : α}

theorem always_pure (h : P a) : Always (pure a : Draw σ α) P := fun _ => h

theorem Always.bind (h : d.Always P) (next : ∀ a, P a → (f a).Always Q) : (d >>= f).Always Q :=
  fun s => next _ (h s) _

theorem Always.map {g : α → β} (h : d.Always P) (next : ∀ a, P a → Q (g a)) :
    (g <$> d).Always Q := fun s => next _ (h s)

theorem Always.imp {R : α → Prop} (h : d.Always P) (weaker : ∀ a, P a → R a) : d.Always R :=
  fun s => weaker _ (h s)

theorem Always.ite {c : Prop} [Decidable c] {e : Draw σ α} (yes : c → d.Always P)
    (no : ¬ c → e.Always P) : (if c then d else e).Always P := by
  split
  · next h => exact yes h
  · next h => exact no h

theorem always_true (d : Draw σ α) : d.Always fun _ => True := fun _ => trivial

end

/-! ## Numbers -/

/-- The product of a word and the bound leaves so little behind the last share that nothing is
carried over from there. -/
theorem share_succ_lt {base n word : Nat} (lt : word < base) (pos : 0 < n) (le : n ≤ base)
    (rest : base - n < word * n % base) : word * n / base + 1 < n := by
  by_contra full
  have below : word * n / base < n :=
    Nat.div_lt_of_lt_mul (Nat.mul_lt_mul_of_pos_right lt pos)
  have last : word * n / base = n - 1 := by omega
  have product := Nat.div_add_mod (word * n) base
  rw [last] at product
  have most : word * n + n ≤ base * n := by
    rw [← Nat.succ_mul]
    exact Nat.mul_le_mul_right n lt
  have shares : base * n = base * (n - 1) + base := by
    rw [← Nat.mul_succ, Nat.succ_eq_add_one, Nat.sub_add_cancel pos]
  omega

theorem always_shareOf {base n : Nat} {word : Draw σ Nat} (words : word.Always (· < base))
    (pos : 0 < n) (le : n ≤ base) : (shareOf base word n).Always (· < n) := by
  refine words.bind fun w hw => .ite (fun rest => ?_) fun _ => ?_
  · refine words.bind fun _ _ => always_pure ?_
    have below := share_succ_lt hw pos le rest
    split <;> omega
  · exact always_pure (Nat.div_lt_of_lt_mul (Nat.mul_lt_mul_of_pos_right hw pos))

variable [WordSource σ]

theorem always_word32 : (word32 : Draw σ Nat).Always (· < UInt32.size) :=
  fun s => (WordSource.next32 s).1.toNat_lt_size

theorem always_word64 : (word64 : Draw σ Nat).Always (· < UInt64.size) :=
  fun s => (WordSource.next64 s).1.toNat_lt_size

theorem always_below {n : Nat} (pos : 0 < n) (le : n ≤ UInt32.size) :
    (below n : Draw σ Nat).Always (· < n) := always_shareOf always_word32 pos le

theorem always_below64 {n : Nat} (pos : 0 < n) (le : n ≤ UInt64.size) :
    (below64 n : Draw σ Nat).Always (· < n) := always_shareOf always_word64 pos le

theorem always_between {lo hi : Nat} (lt : lo < hi) (le : hi ≤ UInt32.size) :
    (between lo hi : Draw σ Nat).Always fun n => lo ≤ n ∧ n < hi := by
  refine (always_below (Nat.sub_pos_of_lt lt) (by omega)).map fun n hn => ?_
  omega

/-! ## Texts -/

/-- What is drawn from a pool is one of its texts, and never what would stand in for them. -/
theorem always_oneOf {pool : List String} (size : 0 < pool.length ∧ pool.length ≤ UInt32.size) :
    (oneOf pool : Draw σ String).Always (· ∈ pool) := by
  refine (always_below size.1 size.2).map fun i hi => ?_
  rw [List.getD_eq_getElem?_getD, List.getElem?_eq_getElem hi]
  exact List.getElem_mem hi

theorem always_digits (n : Nat) : (digits n : Draw σ (List Char)).Always fun ds =>
    ds.length = n ∧ ∀ c ∈ ds, Text.isDigit c = true := by
  have digit : ∀ d < 10, Text.isDigit (Nat.digitChar d) = true := by decide
  induction n with
  | zero => exact always_pure ⟨rfl, by simp⟩
  | succ n ih =>
    refine (always_below (by decide) (by decide)).bind fun d hd => ih.bind fun ds hds => ?_
    exact always_pure ⟨congrArg (· + 1) hds.1, List.forall_mem_cons.2 ⟨digit d hd, hds.2⟩⟩

theorem always_alphanumericIndex (patience : Nat) :
    (alphanumericIndex patience : Draw σ Nat).Always (· < alphanumerics.length) := by
  induction patience with
  | zero => exact always_pure (by decide)
  | succ patience ih =>
    exact (always_true _).bind fun _ _ => .ite (fun fit => always_pure fit) fun _ => ih

theorem always_alphanumeric :
    (alphanumeric : Draw σ Char).Always fun c => c.isAlphanum = true := by
  have all : alphanumerics.all Char.isAlphanum = true := by decide
  refine (always_true _).bind fun _ _ => (always_alphanumericIndex _).bind fun i hi => ?_
  refine always_pure (List.all_eq_true.1 all _ ?_)
  rw [List.getD_eq_getElem?_getD, List.getElem?_eq_getElem hi]
  exact List.getElem_mem hi

theorem always_alphanumericText (n : Nat) :
    (alphanumericText n : Draw σ (List Char)).Always fun cs =>
      cs.length = n ∧ ∀ c ∈ cs, c.isAlphanum = true := by
  induction n with
  | zero => exact always_pure ⟨rfl, by simp⟩
  | succ n ih =>
    refine always_alphanumeric.bind fun c hc => ih.bind fun cs hcs => ?_
    exact always_pure ⟨congrArg (· + 1) hcs.1, List.forall_mem_cons.2 ⟨hc, hcs.2⟩⟩

end Formulary.Sample.Draw
