/-!
UTF-8 read octet by octet. A text is accepted exactly when it is in shortest form and names scalar
values only; otherwise the fault tells how long the longest well-formed part at the front is, and
whether the text merely ends too early.
-/

namespace Formulary.Text

structure Utf8Fault where
  /-- The length of the longest well-formed part at the front. -/
  validUpTo : Nat
  /-- How many octets after that part begin a character without completing it; nothing where the
  input ends inside a character that is well formed so far. -/
  badLength : Option Nat
deriving DecidableEq, Repr

structure PartialChar where
  bits : Nat
  seen : Nat
  /-- The range of the next octet. -/
  next : Nat × Nat
  /-- How many octets follow the next one; each lies between 80 and BF. -/
  later : Nat
deriving DecidableEq, Repr

/-- What the first octet of a character says. -/
inductive Lead where
  | complete (code : Nat)
  | opens (pending : PartialChar)
  | invalid
deriving DecidableEq, Repr

/-- The second octet is confined where a wider range would admit a longer form than needed, a
surrogate or a number above 10FFFF. -/
def lead (b : Nat) : Lead :=
  if b < 0x80 then .complete b
  else if b < 0xC2 then .invalid
  else if b < 0xE0 then .opens ⟨b - 0xC0, 1, (0x80, 0xBF), 0⟩
  else if b = 0xE0 then .opens ⟨0, 1, (0xA0, 0xBF), 1⟩
  else if b = 0xED then .opens ⟨0xD, 1, (0x80, 0x9F), 1⟩
  else if b < 0xF0 then .opens ⟨b - 0xE0, 1, (0x80, 0xBF), 1⟩
  else if b = 0xF0 then .opens ⟨0, 1, (0x90, 0xBF), 2⟩
  else if b < 0xF4 then .opens ⟨b - 0xF0, 1, (0x80, 0xBF), 2⟩
  else if b = 0xF4 then .opens ⟨4, 1, (0x80, 0x8F), 2⟩
  else .invalid

/-- Reads octets; `start` is the position of the character that `pending` began. -/
def readUtf8 (start : Nat) : Option PartialChar → List UInt8 → Except Utf8Fault (List Char)
  | none, [] => .ok []
  | some _, [] => .error ⟨start, none⟩
  | none, b :: bs =>
    match lead b.toNat with
    | .complete code => (Char.ofNat code :: ·) <$> readUtf8 (start + 1) none bs
    | .opens pending => readUtf8 start (some pending) bs
    | .invalid => .error ⟨start, some 1⟩
  | some p, b :: bs =>
    if p.next.1 ≤ b.toNat ∧ b.toNat ≤ p.next.2 then
      let bits := p.bits * 64 + (b.toNat - 0x80)
      match p.later with
      | 0 => (Char.ofNat bits :: ·) <$> readUtf8 (start + p.seen + 1) none bs
      | later + 1 => readUtf8 start (some ⟨bits, p.seen + 1, (0x80, 0xBF), later⟩) bs
    else .error ⟨start, some p.seen⟩

/-- The text whose UTF-8 form the octets are. -/
def ofUtf8 (bytes : List UInt8) : Except Utf8Fault String :=
  String.ofList <$> readUtf8 0 none bytes

def toUtf8 (s : String) : List UInt8 := s.toList.flatMap String.utf8EncodeChar

/-- The fault in words: the length of the sequence that is no character, and where it begins. -/
def Utf8Fault.message (f : Utf8Fault) : String :=
  match f.badLength with
  | some n =>
    "invalid utf-8 sequence of " ++ toString n ++ " bytes from index " ++ toString f.validUpTo
  | none => "incomplete utf-8 byte sequence from index " ++ toString f.validUpTo

end Formulary.Text
