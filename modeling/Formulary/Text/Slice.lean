/-!
Cuts of a text at byte positions. A cut succeeds exactly when its ends are in order, inside the
text and on character boundaries, so that what is cut out is text again.
-/

namespace Formulary.Text

/-- The bytes from `lo` up to `hi` as a text, if they are one. -/
def slice? (bytes : ByteArray) (lo hi : Nat) : Option String :=
  if lo ≤ hi ∧ hi ≤ bytes.size then String.fromUTF8? (bytes.extract lo hi) else none

/-- The bytes from `lo` up to `hi` as a text; nothing where they are none. -/
def slice (bytes : ByteArray) (lo hi : Nat) : String := (slice? bytes lo hi).getD ""

end Formulary.Text
