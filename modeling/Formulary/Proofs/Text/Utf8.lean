import Formulary.Proofs.Outcome
import Formulary.Proofs.Text.WellFormed

/-!
Reading UTF-8 finds the characters that the octets are, one behind the other. Octets are read as a
text just in case they are well formed; otherwise the fault tells how long the longest well-formed
part in front is, and whether more octets behind could make the whole well formed.
-/

namespace Formulary.Text

/-! ## Reading one character -/

/-- The octets behind those of `p` that make a character of it, with the number `v`. -/
def PartialChar.Completes (p : PartialChar) : List UInt8 → Nat → Prop
  | [], _ => False
  | b :: tail, v => (p.next.1 ≤ b.toNat ∧ b.toNat ≤ p.next.2) ∧
      match p.later with
      | 0 => tail = [] ∧ p.bits * 64 + (b.toNat - 0x80) = v
      | later + 1 => PartialChar.Completes
          ⟨p.bits * 64 + (b.toNat - 0x80), p.seen + 1, (0x80, 0xBF), later⟩ tail v

section

variable {a b : UInt8} {tail : List UInt8} {p : PartialChar} {v : Nat}

/-! What the first octet says of the next one: in sequences of three and four octets it keeps the
number clear of shorter forms, of surrogates and of what lies above 10FFFF. -/

theorem lead_one {a : Nat} (h : a < 0x80) : lead a = .complete a := by rw [lead, if_pos h]

theorem lead_two {a : Nat} (h : 0xC2 ≤ a) (h' : a < 0xE0) :
    lead a = .opens ⟨a - 0xC0, 1, (0x80, 0xBF), 0⟩ := by
  rw [lead, if_neg (by omega), if_neg (by omega), if_pos h']

theorem lead_three {a : Nat} (h : 0xE0 ≤ a) (h' : a < 0xF0) :
    ∃ low high, lead a = .opens ⟨a - 0xE0, 1, (low, high), 1⟩ ∧ ∀ b, low ≤ b ∧ b ≤ high ↔
      (0x80 ≤ b ∧ b ≤ 0xBF) ∧ 0x20 ≤ (a - 0xE0) * 64 + (b - 0x80) ∧
        ((a - 0xE0) * 64 + (b - 0x80) < 0x360 ∨ 0x37F < (a - 0xE0) * 64 + (b - 0x80)) := by
  by_cases first : a = 0xE0
  · subst first
    exact ⟨_, _, rfl, by omega⟩
  by_cases surrogates : a = 0xED
  · subst surrogates
    exact ⟨_, _, rfl, by omega⟩
  refine ⟨0x80, 0xBF, ?_, by omega⟩
  rw [lead, if_neg (by omega), if_neg (by omega), if_neg (by omega), if_neg first,
    if_neg surrogates, if_pos h']

theorem lead_four {a : Nat} (h : 0xF0 ≤ a) (h' : a < 0xF5) :
    ∃ low high, lead a = .opens ⟨a - 0xF0, 1, (low, high), 2⟩ ∧ ∀ b, low ≤ b ∧ b ≤ high ↔
      (0x80 ≤ b ∧ b ≤ 0xBF) ∧ 0x10 ≤ (a - 0xF0) * 64 + (b - 0x80) ∧
        (a - 0xF0) * 64 + (b - 0x80) ≤ 0x10F := by
  by_cases first : a = 0xF0
  · subst first
    exact ⟨_, _, rfl, by omega⟩
  by_cases last : a = 0xF4
  · subst last
    exact ⟨_, _, rfl, by omega⟩
  refine ⟨0x80, 0xBF, ?_, by omega⟩
  rw [lead, if_neg (by omega), if_neg (by omega), if_neg (by omega), if_neg (by omega),
    if_neg (by omega), if_neg (by omega), if_neg first, if_pos (by omega)]

theorem lead_invalid {a : Nat} (h : 0x80 ≤ a ∧ a < 0xC2 ∨ 0xF5 ≤ a) : lead a = .invalid := by
  rcases h with ⟨h, h'⟩ | h
  · rw [lead, if_neg (by omega), if_pos h']
  · rw [lead, if_neg (by omega), if_neg (by omega), if_neg (by omega), if_neg (by omega),
      if_neg (by omega), if_neg (by omega), if_neg (by omega), if_neg (by omega),
      if_neg (by omega)]

/-! The octets that complete a character are those that make the shortest sequence of it. -/

namespace PartialChar

variable {bits seen low high later : Nat}

theorem completes_last : Completes ⟨bits, seen, (low, high), 0⟩ tail v ↔
    ∃ b, (low ≤ b.toNat ∧ b.toNat ≤ high) ∧ tail = [b] ∧ v = bits * 64 + (b.toNat - 0x80) := by
  cases tail with
  | nil => simp [Completes]
  | cons b tail =>
    constructor
    · rintro ⟨hb, rfl, rfl⟩
      exact ⟨b, hb, rfl, rfl⟩
    · rintro ⟨b, hb, same, hv⟩
      cases same
      exact ⟨hb, rfl, hv.symm⟩

theorem completes_more : Completes ⟨bits, seen, (low, high), later + 1⟩ tail v ↔
    ∃ b rest, (low ≤ b.toNat ∧ b.toNat ≤ high) ∧ tail = b :: rest ∧
      Completes ⟨bits * 64 + (b.toNat - 0x80), seen + 1, (0x80, 0xBF), later⟩ rest v := by
  cases tail with
  | nil => simp [Completes]
  | cons b tail =>
    constructor
    · rintro ⟨hb, more⟩
      exact ⟨b, tail, hb, rfl, more⟩
    · rintro ⟨b, rest, hb, same, more⟩
      cases same
      exact ⟨hb, more⟩

end PartialChar

theorem completes_two (ha : 0xC2 ≤ a.toNat) (ha' : a.toNat < 0xE0) :
    PartialChar.Completes ⟨a.toNat - 0xC0, 1, (0x80, 0xBF), 0⟩ tail v ↔
      IsCharacter (a :: tail) v := by
  rw [PartialChar.completes_last, isCharacter_iff]
  constructor
  · rintro ⟨b, ⟨hb, hb'⟩, rfl, hv⟩
    refine ⟨.two (by omega) ha' ⟨hb, by omega⟩ hv, ?_⟩
    simp only [List.length_cons, List.length_nil, Nat.reduceAdd, Nat.reduceSub, room]
    omega
  · rintro ⟨carries, -⟩
    cases carries with
    | two _ _ hb hv =>
      obtain ⟨hb, hb'⟩ := hb
      exact ⟨_, by omega, rfl, hv⟩
    | one | three | four => omega

theorem completes_three (ha : 0xE0 ≤ a.toNat) (ha' : a.toNat < 0xF0) {low high : Nat}
    (confined : ∀ b, low ≤ b ∧ b ≤ high ↔
      (0x80 ≤ b ∧ b ≤ 0xBF) ∧ 0x20 ≤ (a.toNat - 0xE0) * 64 + (b - 0x80) ∧
        ((a.toNat - 0xE0) * 64 + (b - 0x80) < 0x360 ∨
          0x37F < (a.toNat - 0xE0) * 64 + (b - 0x80))) :
    PartialChar.Completes ⟨a.toNat - 0xE0, 1, (low, high), 1⟩ tail v ↔
      IsCharacter (a :: tail) v := by
  simp only [PartialChar.completes_more, PartialChar.completes_last, isCharacter_iff, confined]
  constructor
  · rintro ⟨b, _, ⟨⟨hb, hb'⟩, large, noSurrogate⟩, rfl, c, ⟨hc, hc'⟩, rfl, hv⟩
    refine ⟨.three ha ha' ⟨hb, by omega⟩ ⟨hc, by omega⟩ hv, ?_⟩
    simp only [List.length_cons, List.length_nil, Nat.reduceAdd, Nat.reduceSub, room]
    omega
  · rintro ⟨carries, large, rest⟩
    cases carries with
    | three _ _ hb hc hv =>
      have large : 0x800 ≤ v := large
      obtain ⟨hb, hb'⟩ := hb
      obtain ⟨hc, hc'⟩ := hc
      exact ⟨_, _, ⟨by omega, by omega⟩, rfl, _, by omega, rfl, hv⟩
    | one | two | four => omega

theorem completes_four (ha : 0xF0 ≤ a.toNat) (ha' : a.toNat < 0xF5) {low high : Nat}
    (confined : ∀ b, low ≤ b ∧ b ≤ high ↔
      (0x80 ≤ b ∧ b ≤ 0xBF) ∧ 0x10 ≤ (a.toNat - 0xF0) * 64 + (b - 0x80) ∧
        (a.toNat - 0xF0) * 64 + (b - 0x80) ≤ 0x10F) :
    PartialChar.Completes ⟨a.toNat - 0xF0, 1, (low, high), 2⟩ tail v ↔
      IsCharacter (a :: tail) v := by
  simp only [PartialChar.completes_more, PartialChar.completes_last, isCharacter_iff, confined]
  constructor
  · rintro ⟨b, _, ⟨⟨hb, hb'⟩, large, small⟩, rfl, c, _, ⟨hc, hc'⟩, rfl, d, ⟨hd, hd'⟩, rfl, hv⟩
    refine ⟨.four ha (by omega) ⟨hb, by omega⟩ ⟨hc, by omega⟩ ⟨hd, by omega⟩ hv, ?_⟩
    simp only [List.length_cons, List.length_nil, Nat.reduceAdd, Nat.reduceSub, room]
    omega
  · rintro ⟨carries, large, rest⟩
    cases carries with
    | four _ _ hb hc hd hv =>
      have large : 0x10000 ≤ v := large
      obtain ⟨hb, hb'⟩ := hb
      obtain ⟨hc, hc'⟩ := hc
      obtain ⟨hd, hd'⟩ := hd
      exact ⟨_, _, ⟨by omega, by omega⟩, rfl, _, _, by omega, rfl, _, by omega, rfl, hv⟩
    | one | two | three => omega

/-- Some octet may be the next one. -/
def PartialChar.Awaits (p : PartialChar) : Prop :=
  ∃ b : UInt8, p.next.1 ≤ b.toNat ∧ b.toNat ≤ p.next.2

theorem awaits_tail {bits seen later : Nat} :
    PartialChar.Awaits ⟨bits, seen, (0x80, 0xBF), later⟩ :=
  ⟨0x80, show 0x80 ≤ (0x80 : UInt8).toNat ∧ (0x80 : UInt8).toNat ≤ 0xBF by decide⟩

theorem PartialChar.exists_completes (h : p.Awaits) : ∃ tail v, p.Completes tail v := by
  obtain ⟨bits, seen, next, later⟩ := p
  induction later generalizing bits seen next with
  | zero =>
    obtain ⟨b, hb⟩ := h
    exact ⟨[b], _, hb, rfl, rfl⟩
  | succ later ih =>
    obtain ⟨b, hb⟩ := h
    obtain ⟨tail, v, more⟩ := ih (bits * 64 + (b.toNat - 0x80)) (seen + 1) _ awaits_tail
    exact ⟨b :: tail, v, hb, more⟩

/-- An octet that opens a character of several octets. -/
structure Opens (a : UInt8) (p : PartialChar) : Prop where
  seen : p.seen = 1
  awaits : p.Awaits
  completes : ∀ tail v, p.Completes tail v ↔ IsCharacter (a :: tail) v

/-- What an octet in front says. -/
theorem lead_cases (a : UInt8) :
    (lead a.toNat = .complete a.toNat ∧ a.toNat < 0x80) ∨
    (∃ p, lead a.toNat = .opens p ∧ Opens a p) ∨
    (lead a.toNat = .invalid ∧ ∀ tail v, ¬ IsCharacter (a :: tail) v) := by
  have noFirst (h : 0x80 ≤ a.toNat ∧ a.toNat < 0xC2 ∨ 0xF5 ≤ a.toNat) (tail : List UInt8)
      (v : Nat) : ¬ IsCharacter (a :: tail) v := by
    intro character
    obtain ⟨carries, large, -, le⟩ := isCharacter_iff.1 character
    cases carries with
    | one => omega
    | @two _ b _ first first' hb hv =>
      have large : 0x80 ≤ v := large
      have := hb.2
      omega
    | three => omega
    | four => omega
  rcases Nat.lt_or_ge a.toNat 0x80 with one | ge
  · exact .inl ⟨lead_one one, one⟩
  rcases Nat.lt_or_ge a.toNat 0xC2 with low | ge'
  · exact .inr (.inr ⟨lead_invalid (.inl ⟨ge, low⟩), noFirst (.inl ⟨ge, low⟩)⟩)
  rcases Nat.lt_or_ge a.toNat 0xE0 with two | ge
  · exact .inr (.inl ⟨_, lead_two ge' two, rfl, awaits_tail, fun _ _ => completes_two ge' two⟩)
  rcases Nat.lt_or_ge a.toNat 0xF0 with three | ge
  · obtain ⟨low, high, opens, confined⟩ := lead_three ge three
    refine .inr (.inl ⟨_, opens, rfl, ?_, fun _ _ => completes_three ge three confined⟩)
    by_cases surrogates : a.toNat = 0xED
    · exact ⟨0x80, (confined 0x80).2 (by omega)⟩
    · exact ⟨0xA0, (confined 0xA0).2 (by omega)⟩
  rcases Nat.lt_or_ge a.toNat 0xF5 with four | ge
  · obtain ⟨low, high, opens, confined⟩ := lead_four ge four
    refine .inr (.inl ⟨_, opens, rfl, ?_, fun _ _ => completes_four ge four confined⟩)
    by_cases first : a.toNat = 0xF0
    · exact ⟨0x90, (confined 0x90).2 (by omega)⟩
    · exact ⟨0x80, (confined 0x80).2 (by omega)⟩
  · exact .inr (.inr ⟨lead_invalid (.inr ge), noFirst (.inr ge)⟩)

end

/-! ## Reading -/

section

variable {start : Nat} {bytes octets rest tail : List UInt8} {p : PartialChar} {v : Nat}

theorem readUtf8_completes (h : p.Completes tail v) (start : Nat) (rest : List UInt8) :
    readUtf8 start (some p) (tail ++ rest) =
      (Char.ofNat v :: ·) <$> readUtf8 (start + p.seen + tail.length) none rest := by
  induction tail generalizing p with
  | nil => exact h.elim
  | cons b tail ih =>
    obtain ⟨bits, seen, next, later⟩ := p
    obtain ⟨confined, more⟩ := h
    rw [List.cons_append, readUtf8, if_pos confined]
    cases later with
    | zero =>
      obtain ⟨rfl, rfl⟩ := more
      rfl
    | succ later =>
      dsimp only
      rw [ih more, List.length_cons]
      simp only [Nat.add_assoc, Nat.add_comm 1]

/-- Octets behind the first ones of a character complete it, or end before it is complete, or there
is one among them that cannot stand there. -/
theorem readUtf8_pending (h : p.Awaits) (start : Nat) (bytes : List UInt8) :
    (∃ tail rest v, bytes = tail ++ rest ∧ p.Completes tail v) ∨
    (readUtf8 start (some p) bytes = .error ⟨start, none⟩ ∧
      ∃ more v, p.Completes (bytes ++ more) v) ∨
    ∃ n, readUtf8 start (some p) bytes = .error ⟨start, some n⟩ := by
  induction bytes generalizing p with
  | nil => exact .inr (.inl ⟨rfl, PartialChar.exists_completes h⟩)
  | cons b bytes ih =>
    obtain ⟨bits, seen, next, later⟩ := p
    by_cases confined : next.1 ≤ b.toNat ∧ b.toNat ≤ next.2
    · cases later with
      | zero => exact .inl ⟨[b], bytes, _, rfl, confined, rfl, rfl⟩
      | succ later =>
        have read : readUtf8 start (some ⟨bits, seen, next, later + 1⟩) (b :: bytes) =
            readUtf8 start
              (some ⟨bits * 64 + (b.toNat - 0x80), seen + 1, (0x80, 0xBF), later⟩) bytes := by
          rw [readUtf8, if_pos confined]
        rw [read]
        rcases ih (p := ⟨bits * 64 + (b.toNat - 0x80), seen + 1, (0x80, 0xBF), later⟩)
          awaits_tail with ⟨tail, rest, v, rfl, more⟩ | ⟨ends, more, v, completes⟩ | invalid
        · exact .inl ⟨b :: tail, rest, v, rfl, confined, more⟩
        · exact .inr (.inl ⟨ends, more, v, confined, completes⟩)
        · exact .inr (.inr invalid)
    · refine .inr (.inr ⟨seen, ?_⟩)
      rw [readUtf8, if_neg confined]

/-- What reading octets comes to: characters are read one behind the other, up to octets that begin
a character and end before it is complete, or that begin none. -/
inductive Reads : Nat → List UInt8 → Except Utf8Fault (List Char) → Prop
  | nothing {start : Nat} : Reads start [] (.ok [])
  | character {start v : Nat} {octets rest : List UInt8} {r : Except Utf8Fault (List Char)} :
      IsCharacter octets v → Reads (start + octets.length) rest r →
      Reads start (octets ++ rest) ((Char.ofNat v :: ·) <$> r)
  | incomplete {start v : Nat} {octets more : List UInt8} : octets ≠ [] →
      IsCharacter (octets ++ more) v → Reads start octets (.error ⟨start, none⟩)
  | invalid {start n : Nat} {octets : List UInt8} : octets ≠ [] → 
      Reads start octets (.error ⟨start, some n⟩)

theorem isCharacter_single {a : UInt8} (h : a.toNat < 0x80) : IsCharacter [a] a.toNat :=
  isCharacter_iff.2 ⟨.one h rfl, Nat.zero_le _, by omega, by omega⟩

theorem readUtf8_character (h : IsCharacter octets v) (start : Nat) (rest : List UInt8) :
    readUtf8 start none (octets ++ rest) =
      (Char.ofNat v :: ·) <$> readUtf8 (start + octets.length) none rest := by
  cases octets with
  | nil => cases h.carries
  | cons a tail =>
    rcases lead_cases a with ⟨complete, single⟩ | ⟨p, opens, opened⟩ | ⟨-, none⟩
    · obtain ⟨carries, -⟩ := h
      cases carries with
      | one _ hv =>
        rw [List.cons_append, List.nil_append, readUtf8, complete, hv]
        rfl
      | two | three | four => omega
    · have completes := (opened.completes tail v).2 h
      rw [List.cons_append, readUtf8, opens]
      dsimp only
      rw [readUtf8_completes completes, opened.seen, List.length_cons, Nat.add_assoc,
        Nat.add_comm 1]
    · exact absurd h (none tail v)

theorem reads_readUtf8 (start : Nat) (bytes : List UInt8) :
    Reads start bytes (readUtf8 start none bytes) := by
  induction length : bytes.length using Nat.strongRecOn generalizing start bytes with
  | ind n ih =>
  have goOn (octets : List UInt8) {rest : List UInt8} {v : Nat} (whole : bytes = octets ++ rest)
      (here : IsCharacter octets v) : Reads start bytes (readUtf8 start none bytes) := by
    subst whole
    rw [readUtf8_character here]
    refine .character here (ih _ ?_ _ _ rfl)
    have : octets ≠ [] := by
      rintro rfl
      cases here.carries
    have := List.length_pos_iff.2 this
    rw [List.length_append] at length
    omega
  cases bytes with
  | nil => exact .nothing
  | cons a bytes =>
    rcases lead_cases a with ⟨-, single⟩ | ⟨p, opens, opened⟩ | ⟨invalid, -⟩
    · exact goOn [a] rfl (isCharacter_single single)
    · rcases readUtf8_pending opened.awaits start bytes with
        ⟨tail, rest, v, rfl, completes⟩ | ⟨ends, more, v, completes⟩ | ⟨n, refused⟩
      · exact goOn (a :: tail) rfl ((opened.completes tail v).1 completes)
      · rw [readUtf8, opens]
        dsimp only
        rw [ends]
        exact .incomplete (List.cons_ne_nil a bytes) ((opened.completes _ v).1 completes)
      · rw [readUtf8, opens]
        dsimp only
        rw [refused]
        exact .invalid (List.cons_ne_nil a bytes)
    · rw [readUtf8, invalid]
      exact .invalid (List.cons_ne_nil a bytes)

/-- What is read is a text of these octets. -/
theorem Reads.flatMap_eq {r : Except Utf8Fault (List Char)} (h : Reads start bytes r)
    {cs : List Char} (hr : r = .ok cs) : cs.flatMap String.utf8EncodeChar = bytes := by
  induction h generalizing cs with
  | nothing =>
    cases hr
    rfl
  | @character start v octets rest r here _ ih =>
    obtain ⟨cs', hr', rfl⟩ := map_eq_ok hr
    rw [List.flatMap_cons, ih hr', ← here.eq_encode]
  | incomplete => cases hr
  | invalid => cases hr

/-- Where reading fails, it has read characters up to octets that are none. -/
theorem Reads.fault {r : Except Utf8Fault (List Char)} (h : Reads start bytes r) {f : Utf8Fault}
    (hr : r = .error f) : ∃ front rest, bytes = front ++ rest ∧ WellFormed front ∧
      f.validUpTo = start + front.length ∧
      (f.badLength = none → ∃ more v, IsCharacter (rest ++ more) v) := by
  induction h with
  | nothing => cases hr
  | @character start v octets rest r here _ ih =>
    obtain ⟨front, back, rfl, formed, upTo, completes⟩ := ih (map_eq_error hr)
    refine ⟨octets ++ front, back, (List.append_assoc ..).symm, .cons here formed, ?_, completes⟩
    rw [upTo, List.length_append, Nat.add_assoc]
  | @incomplete start v octets more _ here =>
    cases hr
    exact ⟨[], octets, rfl, .nil, rfl, fun _ => ⟨more, v, here⟩⟩
  | @invalid start n octets _ =>
    cases hr
    exact ⟨[], octets, rfl, .nil, rfl, nofun⟩

/-- Characters in front are read first. -/
theorem readUtf8_wellFormed (h : WellFormed octets) (start : Nat) (rest : List UInt8) :
    ∃ cs, readUtf8 start none (octets ++ rest) =
      (cs ++ ·) <$> readUtf8 (start + octets.length) none rest := by
  induction h generalizing start with
  | nil => exact ⟨[], (id_map _).symm⟩
  | @cons octets octets' v here _ ih =>
    obtain ⟨cs, read⟩ := ih (start + octets.length)
    refine ⟨Char.ofNat v :: cs, ?_⟩
    rw [List.append_assoc, readUtf8_character here, read, List.length_append, Nat.add_assoc,
      ← comp_map]
    rfl

/-- An octet that cannot stand where it does is refused whatever comes behind. -/
theorem readUtf8_append_of_invalid {pending : Option PartialChar} {k n : Nat}
    (h : readUtf8 start pending bytes = .error ⟨k, some n⟩) (more : List UInt8) :
    readUtf8 start pending (bytes ++ more) = .error ⟨k, some n⟩ := by
  fun_induction readUtf8 start pending bytes with
  | case1 => cases h
  | case2 => cases h
  | case3 start b bs code complete ih =>
    rw [List.cons_append, readUtf8, complete]
    dsimp only
    rw [ih (map_eq_error h)]
    rfl
  | case4 start b bs p opens ih =>
    rw [List.cons_append, readUtf8, opens]
    exact ih h
  | case5 start b bs invalid =>
    rw [List.cons_append, readUtf8, invalid]
    exact h
  | case6 start p b bs confined bits last ih =>
    rw [List.cons_append, readUtf8, if_pos confined]
    dsimp only
    rw [last]
    dsimp only
    rw [ih (map_eq_error h)]
    rfl
  | case7 start p b bs confined bits later more' ih =>
    rw [List.cons_append, readUtf8, if_pos confined]
    dsimp only
    rw [more']
    exact ih h
  | case8 start p b bs confined =>
    rw [List.cons_append, readUtf8, if_neg confined]
    exact h

end

/-! ## Texts and faults -/

/-- The longest well-formed part in front of the octets has `n` of them. -/
structure WellFormedUpTo (bytes : List UInt8) (n : Nat) : Prop where
  formed : ∃ front rest, bytes = front ++ rest ∧ WellFormed front ∧ front.length = n
  longest : ∀ front rest, bytes = front ++ rest → WellFormed front → front.length ≤ n

section

variable {bytes : List UInt8} {s : String} {f : Utf8Fault}

/-- A text is read back from its form, and from nothing else. -/
theorem ofUtf8_eq_ok_iff : ofUtf8 bytes = .ok s ↔ toUtf8 s = bytes := by
  constructor
  · intro h
    obtain ⟨cs, read, rfl⟩ := map_eq_ok h
    rw [toUtf8, String.toList_ofList]
    exact (reads_readUtf8 0 bytes).flatMap_eq read
  · rintro rfl
    have read (start : Nat) (cs : List Char) :
        readUtf8 start none (cs.flatMap String.utf8EncodeChar) = .ok cs := by
      induction cs generalizing start with
      | nil => rfl
      | cons c cs ih =>
        rw [List.flatMap_cons, readUtf8_character (isCharacter_encode c), ih, Char.ofNat_toNat]
        rfl
    rw [ofUtf8, toUtf8, read]
    exact congrArg Except.ok String.ofList_toList

theorem toUtf8_inj {t : String} : toUtf8 s = toUtf8 t ↔ s = t := by
  rw [← ofUtf8_eq_ok_iff, ofUtf8_eq_ok_iff.2 rfl, Except.ok.injEq, eq_comm]

theorem exists_ofUtf8_iff : (∃ s, ofUtf8 bytes = .ok s) ↔ WellFormed bytes := by
  simp only [ofUtf8_eq_ok_iff, wellFormed_iff]

/-- Octets are the form of a text, or reading them fails. -/
theorem ofUtf8_cases (bytes : List UInt8) :
    (WellFormed bytes ∧ ∃ s, toUtf8 s = bytes) ∨
      (¬ WellFormed bytes ∧ ∃ f, ofUtf8 bytes = .error f) := by
  cases read : ofUtf8 bytes with
  | ok s => exact .inl ⟨exists_ofUtf8_iff.1 ⟨s, read⟩, s, ofUtf8_eq_ok_iff.1 read⟩
  | error f =>
    refine .inr ⟨fun formed => ?_, f, rfl⟩
    obtain ⟨s, hs⟩ := exists_ofUtf8_iff.2 formed
    cases read.symm.trans hs

/-- A fault tells how far the octets are well formed, and whether they merely end too early. -/
theorem of_ofUtf8_eq_error (h : ofUtf8 bytes = .error f) :
    WellFormedUpTo bytes f.validUpTo ∧
      (f.badLength = none ↔ ∃ more, WellFormed (bytes ++ more)) := by
  have read : readUtf8 0 none bytes = .error f := map_eq_error h
  obtain ⟨front, rest, whole, formed, upTo, completes⟩ := (reads_readUtf8 0 bytes).fault read
  rw [Nat.zero_add] at upTo
  refine ⟨⟨⟨front, rest, whole, formed, upTo.symm⟩, ?_⟩, ?_, ?_⟩
  · -- What is well formed in front is read before anything is refused.
    rintro front' rest' rfl formed'
    obtain ⟨cs, read'⟩ := readUtf8_wellFormed formed' 0 rest'
    rw [read] at read'
    obtain ⟨_, _, -, -, upTo', -⟩ := (reads_readUtf8 _ rest').fault (map_eq_error read'.symm)
    omega
  · intro none
    obtain ⟨more, v, character⟩ := completes none
    refine ⟨more, ?_⟩
    rw [whole, List.append_assoc]
    exact formed.append character.wellFormed
  · rintro ⟨more, formed'⟩
    obtain ⟨validUpTo, badLength⟩ := f
    cases badLength with
    | none => rfl
    | some n =>
      obtain ⟨s, hs⟩ := exists_ofUtf8_iff.2 formed'
      have refused : ofUtf8 (bytes ++ more) = .error ⟨validUpTo, some n⟩ := by
        rw [ofUtf8, readUtf8_append_of_invalid read]
        rfl
      cases hs.symm.trans refused

/-- The words for octets that end too early are used for no others. -/
theorem message_eq_incomplete_iff :
    f.message = "incomplete utf-8 byte sequence from index " ++ toString f.validUpTo ↔
      f.badLength = none := by
  obtain ⟨validUpTo, badLength⟩ := f
  cases badLength with
  | none => exact iff_of_true rfl rfl
  | some n =>
    refine iff_of_false (fun same => ?_) nofun
    have third := congrArg (fun s : String => s.toList[2]?) same
    simp [Utf8Fault.message] at third

end

end Formulary.Text
