import Formulary.Text.Blank
import Formulary.Text.Slice

/-!
Placeholders in a text. A placeholder is written between two opening and two closing braces on one
line; its name is what stands between them, verbatim. The last two of a run of opening braces open,
a second pair of opening braces inside a name starts afresh, and a name that meets the end of its
line is given up.

The scanner walks the octets of the text. A step reads the octet it stands on; two of its phases may
leave that octet for the next step, and `rank_step_lt` says why the walk still ends.
-/

namespace Formulary.Template

/-- A placeholder found in a text. -/
structure Token where
  /-- What stands between the braces. -/
  name : String
  /-- The position of the first opening brace, in octets. -/
  start : Nat
  /-- The length with all four braces, in octets. -/
  length : Nat
  line : Nat
deriving DecidableEq, Repr

namespace Token

def stop (t : Token) : Nat := t.start + t.length

/-- Without a name: nothing but white space between the braces. -/
def isNameless (t : Token) : Bool := Text.allBlank t.name

end Token

/-- What the scanner has seen just before its position. -/
inductive Phase where
  | outside
  /-- One opening brace, at `brace`. -/
  | opening (brace : Nat)
  /-- Two opening braces, at `start`, and perhaps a part of a name, which begins at `content`. -/
  | inside (start content line : Nat)
  /-- As `inside`, and then one closing brace, at `brace`. -/
  | closing (start content brace line : Nat)
deriving DecidableEq, Repr

/-- A walk over the octets of a text. -/
structure Scanner where
  pos : Nat
  phase : Phase
  /-- The line of the next octet, counted from one. -/
  line : Nat
deriving DecidableEq, Repr

namespace Scanner

def openBrace : UInt8 := 123
def closeBrace : UInt8 := 125
def newline : UInt8 := 10

def start : Scanner := ⟨0, .outside, 1⟩

/-- Reads the octet `b` at the scanner's position. -/
def read (bytes : ByteArray) (s : Scanner) (b : UInt8) : Scanner × Option Token :=
  match s.phase with
  | .outside =>
    if b = openBrace then (⟨s.pos + 1, .opening s.pos, s.line⟩, none)
    else if b = newline then (⟨s.pos + 1, .outside, s.line + 1⟩, none)
    else (⟨s.pos + 1, .outside, s.line⟩, none)
  | .opening brace =>
    if b = openBrace then (⟨s.pos + 1, .inside brace (s.pos + 1) s.line, s.line⟩, none)
    else (⟨s.pos, .outside, s.line⟩, none)
  | .inside start content line =>
    if b = closeBrace then (⟨s.pos + 1, .closing start content s.pos line, s.line⟩, none)
    else if b = openBrace ∧ bytes[s.pos + 1]? = some openBrace then
      (⟨s.pos + 2, .inside s.pos (s.pos + 2) s.line, s.line⟩, none)
    else if b = newline then (⟨s.pos + 1, .outside, s.line + 1⟩, none)
    else (⟨s.pos + 1, .inside start content line, s.line⟩, none)
  | .closing start content brace line =>
    if b = closeBrace then
      (⟨s.pos + 1, .outside, s.line⟩,
        some ⟨Text.slice bytes content brace, start, s.pos + 1 - start, line⟩)
    else (⟨s.pos, .inside start content line, s.line⟩, none)

/-- One step of the walk, and the placeholder that it completes; nothing at the end of the text. -/
def step (bytes : ByteArray) (s : Scanner) : Option (Scanner × Option Token) :=
  (bytes[s.pos]?).map (s.read bytes)

/-- Whether the phase may leave the octet it reads for the next step. -/
def mayStay (s : Scanner) : Bool :=
  match s.phase with
  | .opening _ => true
  | .closing .. => true
  | _ => false

/-- What is left of a walk: the octets to come, and within one octet the step that may stay. -/
def rank (bytes : ByteArray) (s : Scanner) : Nat :=
  2 * (bytes.size - s.pos) + if s.mayStay then 1 else 0

theorem rank_step_lt {bytes : ByteArray} {s s' : Scanner} {t : Option Token}
    (h : s.step bytes = some (s', t)) : s'.rank bytes < s.rank bytes := by
  unfold step at h
  obtain ⟨b, hb, h⟩ := Option.map_eq_some_iff.1 h
  have inText : s.pos < bytes.size := by
    rcases Nat.lt_or_ge s.pos bytes.size with hlt | hge
    · exact hlt
    · simp [getElem?_neg bytes s.pos (Nat.not_lt.2 hge)] at hb
  unfold read at h
  have two (c : Bool) : (if c then 1 else 0) < 2 := by cases c <;> decide
  have := two s'.mayStay
  cases hp : s.phase <;> rw [hp] at h <;> simp only at h <;> repeat' split at h
  all_goals
    simp only [Prod.mk.injEq] at h
    obtain ⟨rfl, -⟩ := h
    simp only [rank, mayStay, hp] at this ⊢
    simp only [Bool.false_eq_true, ↓reduceIte] at this ⊢
    omega

/-- Walks on to the next placeholder. At the end of the text there is none, and the walk stands
still. -/
def next (bytes : ByteArray) (s : Scanner) : Option Token × Scanner :=
  match _h : s.step bytes with
  | none => (none, s)
  | some (s', some t) => (some t, s')
  | some (s', none) => s'.next bytes
termination_by s.rank bytes
decreasing_by exact rank_step_lt ‹_›

theorem rank_next_lt {bytes : ByteArray} {s : Scanner} {t : Token}
    (h : (s.next bytes).1 = some t) : (s.next bytes).2.rank bytes < s.rank bytes := by
  fun_induction next bytes s with
  | case1 s hs => simp at h
  | case2 s s' t' hs => exact rank_step_lt hs
  | case3 s s' hs ih => exact Nat.lt_trans (ih h) (rank_step_lt hs)

def tokens (bytes : ByteArray) (s : Scanner) : List Token :=
  match _h : (s.next bytes).1 with
  | none => []
  | some t => t :: tokens bytes (s.next bytes).2
termination_by s.rank bytes
decreasing_by exact rank_next_lt ‹_›

end Scanner

/-- The placeholders of a text, in order. -/
def tokens (text : String) : List Token := Scanner.start.tokens text.toByteArray

end Formulary.Template
