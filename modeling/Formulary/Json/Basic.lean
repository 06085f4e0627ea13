import Formulary.Number.Layout
import Formulary.Table

/-!
JSON values. The members of an object stand in the order in which their keys first arrived.
-/

namespace Formulary.Json

/-- A number: a whole one that fits 64 bits with or without a sign, or one of binary floating
point. -/
inductive Numeric where
  | whole (n : Int)
  | real (x : Number.Binary64)
deriving DecidableEq, Repr

def Numeric.toText : Numeric → String
  | whole n => toString n
  | real x => x.toJsonText

inductive Value where
  | null
  | bool (b : Bool)
  | number (n : Numeric)
  | string (s : String)
  | array (elements : List Value)
  | object (members : List (String × Value))
deriving Repr

end Formulary.Json
