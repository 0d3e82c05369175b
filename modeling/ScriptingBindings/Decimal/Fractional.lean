/-
  ScriptingBindings.Decimal.Fractional
  ──────────────────────────────────
  **NUMBERS WITH A FRACTION.**

  A number with a fraction is kept as the shortest decimal number that rounds
  to the same number of fixed precision.  Numbers beyond the greatest one are
  infinite, and there is one value that is no number.
-/
import ScriptingBindings.Decimal.Shortest

namespace ScriptingBindings

/-- A number with a fraction. -/
inductive Fractional where
  /-- A finite number. -/
  | finite (d : Decimal)
  /-- A number beyond all finite ones. -/
  | infinite (negative : Bool)
  /-- No number at all. -/
  | undefined
  deriving DecidableEq

namespace Fractional

/-- The number of digits in front of the point from which on all numbers are infinite. -/
def infinitePoint : Int := 310

/-- The number of digits in front of the point up to which all numbers are zero. -/
def zeroPoint : Int := -330

/-- The number of fixed precision nearest to a decimal number without its sign. -/
def nearest? (d : Decimal) : Option Binary :=
  match d.exponent with
  | .ofNat n => Binary.nearest? (d.digits * Nat.pow 10 n) 1
  | .negSucc n => Binary.nearest? d.digits (Nat.pow 10 (n + 1))

/-- A decimal number as it is kept. -/
def ofDecimal (d : Decimal) : Fractional :=
  -- The powers of ten of the numbers in between are small enough to count with.
  if d.digits = 0 then finite d
  else if infinitePoint ≤ d.point then infinite d.negative
  else if d.point ≤ zeroPoint then finite (.ofParts d.negative 0 0)
  else
    match nearest? d with
    | some b => finite (b.shortest d.negative)
    | none => infinite d.negative

/-- Whether a number counts as true. -/
def isTruthy : Fractional → Bool
  | finite d => d.digits != 0
  | infinite _ | undefined => true

/-- Whether a number lies below one. -/
def isBelowOne : Fractional → Bool
  | finite d => d.isBelowOne
  | infinite negative => negative
  | undefined => false

/-- Whether a number is the whole number `n`. -/
def isWhole (x : Fractional) (n : Nat) : Bool :=
  x == finite (.ofParts false n 0)

end Fractional

end ScriptingBindings
