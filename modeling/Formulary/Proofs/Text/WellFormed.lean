import Formulary.Text.Utf8

/-!
Well-formed UTF-8, said without a reader: a character is the shortest sequence of octets with its
number in it, which is no surrogate and at most 10FFFF. Such sequences are the forms of characters,
and octets are well formed where they are the form of a text.
-/

namespace Formulary.Text

/-! ## Well-formed octets -/

/-- An octet behind the first one of a sequence; it has six bits of a number in it. -/
def IsTail (b : UInt8) : Prop := 0x80 ≤ b.toNat ∧ b.toNat < 0xC0

/-- The octets are a sequence with the number `v` in it: the first octet tells by its upper bits how
many they are, and with what is left of it the number begins. -/
inductive Carries : List UInt8 → Nat → Prop
  | one {a : UInt8} {v : Nat} : a.toNat < 0x80 → v = a.toNat → Carries [a] v
  | two {a b : UInt8} {v : Nat} : 0xC0 ≤ a.toNat → a.toNat < 0xE0 → IsTail b →
      v = (a.toNat - 0xC0) * 64 + (b.toNat - 0x80) → Carries [a, b] v
  | three {a b c : UInt8} {v : Nat} : 0xE0 ≤ a.toNat → a.toNat < 0xF0 → IsTail b → IsTail c →
      v = ((a.toNat - 0xE0) * 64 + (b.toNat - 0x80)) * 64 + (c.toNat - 0x80) → Carries [a, b, c] v
  | four {a b c d : UInt8} {v : Nat} : 0xF0 ≤ a.toNat → a.toNat < 0xF8 → IsTail b → IsTail c →
      IsTail d → v = (((a.toNat - 0xF0) * 64 + (b.toNat - 0x80)) * 64 + (c.toNat - 0x80)) * 64 +
        (d.toNat - 0x80) → Carries [a, b, c, d] v

/-- The octets are one character: the shortest sequence with its number in it, which is at most
10FFFF and that of no surrogate. -/
structure IsCharacter (octets : List UInt8) (v : Nat) : Prop where
  carries : Carries octets v
  shortest : ∀ other, Carries other v → octets.length ≤ other.length
  noSurrogate : v < 0xD800 ∨ 0xDFFF < v
  le : v ≤ 0x10FFFF

/-- The octets are characters, one behind the other. -/
inductive WellFormed : List UInt8 → Prop
  | nil : WellFormed []
  | cons {octets rest : List UInt8} {v : Nat} : IsCharacter octets v → WellFormed rest →
      WellFormed (octets ++ rest)

theorem WellFormed.append {front back : List UInt8} (h : WellFormed front) (h' : WellFormed back) :
    WellFormed (front ++ back) := by
  induction h with
  | nil => exact h'
  | cons here _ ih =>
    rw [List.append_assoc]
    exact .cons here ih

theorem IsCharacter.wellFormed {octets : List UInt8} {v : Nat} (h : IsCharacter octets v) :
    WellFormed octets := by
  have formed := WellFormed.cons h .nil
  rwa [List.append_nil] at formed

section

variable {v n : Nat} {octets : List UInt8}

/-- How many numbers so many octets have room for. -/
def room : Nat → Nat
  | 0 => 0
  | 1 => 0x80
  | 2 => 0x800
  | 3 => 0x10000
  | _ => 0x200000

theorem room_le_succ : ∀ n, room n ≤ room (n + 1)
  | 0 | 1 | 2 | 3 => by decide
  | _ + 4 => Nat.le_refl _

theorem room_mono {m : Nat} (h : m ≤ n) : room m ≤ room n := by
  induction h with
  | refl => exact Nat.le_refl _
  | step _ ih => exact Nat.le_trans ih (room_le_succ _)

theorem Carries.lt_room (h : Carries octets v) : v < room octets.length := by
  cases h <;> simp only [List.length_cons, List.length_nil, Nat.reduceAdd, room, IsTail] at * <;>
    omega

theorem Carries.length_le (h : Carries octets v) : octets.length ≤ 4 := by
  cases h <;> simp

/-- Sequences of one length are settled by the number. -/
theorem Carries.unique {octets' : List UInt8} (h : Carries octets v) (h' : Carries octets' v)
    (length : octets.length = octets'.length) : octets = octets' := by
  cases h <;> cases h' <;> simp at length
  all_goals
    simp only [List.cons.injEq, ← UInt8.toNat_inj, and_true, IsTail] at *
    omega

/-! The octets that the form of a character is made of. -/

theorem isTail_ofNat (n : Nat) : IsTail (.ofNat (n % 64 + 0x80)) := by
  simp only [IsTail, UInt8.toNat_ofNat', Nat.reducePow]
  omega

theorem carries_one (hv : v < 0x80) : Carries [.ofNat v] v := by
  refine .one ?_ ?_ <;> simp only [UInt8.toNat_ofNat', Nat.reducePow] <;> omega

theorem carries_two (hv : v < 0x800) :
    Carries [.ofNat (v / 64 % 32 + 0xC0), .ofNat (v % 64 + 0x80)] v := by
  refine .two ?_ ?_ (isTail_ofNat v) ?_ <;>
    simp only [UInt8.toNat_ofNat', Nat.reducePow] <;> omega

theorem carries_three (hv : v < 0x10000) : Carries [.ofNat (v / 4096 % 16 + 0xE0),
    .ofNat (v / 64 % 64 + 0x80), .ofNat (v % 64 + 0x80)] v := by
  refine .three ?_ ?_ (isTail_ofNat (v / 64)) (isTail_ofNat v) ?_ <;>
    simp only [UInt8.toNat_ofNat', Nat.reducePow] <;> omega

theorem carries_four (hv : v < 0x200000) : Carries [.ofNat (v / 262144 % 8 + 0xF0),
    .ofNat (v / 4096 % 64 + 0x80), .ofNat (v / 64 % 64 + 0x80), .ofNat (v % 64 + 0x80)] v := by
  refine .four ?_ ?_ (isTail_ofNat (v / 4096)) (isTail_ofNat (v / 64)) (isTail_ofNat v) ?_ <;>
    simp only [UInt8.toNat_ofNat', Nat.reducePow] <;> omega

theorem exists_carries (hv : v < room n) (hn : n ≤ 4) :
    ∃ octets, Carries octets v ∧ octets.length = n := by
  match n with
  | 0 => exact absurd hv (Nat.not_lt_zero v)
  | 1 => exact ⟨_, carries_one hv, rfl⟩
  | 2 => exact ⟨_, carries_two hv, rfl⟩
  | 3 => exact ⟨_, carries_three hv, rfl⟩
  | 4 => exact ⟨_, carries_four hv, rfl⟩
  | _ + 5 => omega

/-- A sequence is the shortest where its number has no room in fewer octets. -/
theorem isCharacter_iff : IsCharacter octets v ↔ Carries octets v ∧ room (octets.length - 1) ≤ v ∧
    (v < 0xD800 ∨ 0xDFFF < v) ∧ v ≤ 0x10FFFF := by
  constructor
  · rintro ⟨carries, shortest, noSurrogate, le⟩
    refine ⟨carries, Nat.not_lt.1 fun small => ?_, noSurrogate, le⟩
    have := carries.length_le
    obtain ⟨other, carried, length⟩ := exists_carries small (by omega)
    have := shortest other carried
    have : 0 < octets.length - 1 := Nat.pos_of_ne_zero fun none => by simp [none, room] at small
    omega
  · rintro ⟨carries, large, noSurrogate, le⟩
    refine ⟨carries, fun other carried => Nat.not_lt.1 fun shorter => ?_, noSurrogate, le⟩
    have := carried.lt_room
    have := room_mono (Nat.le_sub_one_of_lt shorter)
    omega

/-! ## Characters and their forms -/

/-- The form of a character is the shortest sequence with its number in it. -/
theorem isCharacter_encode (c : Char) : IsCharacter (String.utf8EncodeChar c) c.toNat := by
  have valid : c.toNat < 0xD800 ∨ 0xDFFF < c.toNat ∧ c.toNat < 0x110000 := c.valid
  have number : c.val.toNat = c.toNat := rfl
  have shortest : Carries (String.utf8EncodeChar c) c.toNat ∧
      room ((String.utf8EncodeChar c).length - 1) ≤ c.toNat := by
    unfold String.utf8EncodeChar
    rw [number]
    dsimp only
    split
    · exact ⟨carries_one (by omega), Nat.zero_le _⟩
    split
    · next h _ => exact ⟨carries_two (by omega), Nat.lt_of_not_le h⟩
    split
    · next h _ => exact ⟨carries_three (by omega), Nat.lt_of_not_le h⟩
    · next h => exact ⟨carries_four (by omega), Nat.lt_of_not_le h⟩
  exact isCharacter_iff.2 ⟨shortest.1, shortest.2, by omega, by omega⟩

theorem IsCharacter.toNat_ofNat (h : IsCharacter octets v) : (Char.ofNat v).toNat = v := by
  have valid : v.isValidChar := by
    have := h.le
    rcases h.noSurrogate with low | high
    · exact .inl low
    · exact .inr ⟨high, by omega⟩
  rw [Char.ofNat, dif_pos valid]
  rfl

/-- A character has one form. -/
theorem IsCharacter.eq_encode (h : IsCharacter octets v) :
    octets = String.utf8EncodeChar (Char.ofNat v) := by
  have encoded := isCharacter_encode (Char.ofNat v)
  rw [h.toNat_ofNat] at encoded
  exact h.carries.unique encoded.carries
    (Nat.le_antisymm (h.shortest _ encoded.carries) (encoded.shortest _ h.carries))

theorem wellFormed_encode (cs : List Char) : WellFormed (cs.flatMap String.utf8EncodeChar) := by
  induction cs with
  | nil => exact .nil
  | cons c cs ih => exact .cons (isCharacter_encode c) ih

/-- Octets are well formed where they are the form of a text. -/
theorem wellFormed_iff {bytes : List UInt8} : WellFormed bytes ↔ ∃ s, toUtf8 s = bytes := by
  constructor
  · intro h
    induction h with
    | nil => exact ⟨"", rfl⟩
    | @cons octets rest v here _ ih =>
      obtain ⟨s, rfl⟩ := ih
      refine ⟨String.ofList (Char.ofNat v :: s.toList), ?_⟩
      rw [toUtf8, String.toList_ofList, List.flatMap_cons, ← here.eq_encode, toUtf8]
  · rintro ⟨s, rfl⟩
    exact wellFormed_encode s.toList

end

end Formulary.Text
