/-
  ScriptingBindings.Decimal.Basic
  ──────────────────────────────────
  **DECIMAL NUMBERS.**

  A decimal number is a whole number of digits and a power of ten.  In normal
  form its last digit is not a zero, so that equal numbers of one sign are
  equal values.
-/

namespace ScriptingBindings

/-- A number `± digits × 10 ^ exponent` with no trailing zero among its digits. -/
structure Decimal where
  negative : Bool
  digits : Nat
  exponent : Int
  normal : digits % 10 ≠ 0 ∨ (digits = 0 ∧ exponent = 0)
  deriving DecidableEq

namespace Decimal

/-- Move the trailing zeros of the digits into the exponent. -/
def stripZeros : Nat → Nat → Int → Nat × Int
  | 0, digits, exponent => (digits, exponent)
  | fuel + 1, digits, exponent =>
    if digits % 10 = 0 then stripZeros fuel (digits / 10) (exponent + 1) else (digits, exponent)

/-- The normal form of a written number. -/
def ofParts (negative : Bool) (digits : Nat) (exponent : Int) : Decimal :=
  let parts := stripZeros (digits.log2 + 1) digits exponent
  if h : parts.1 % 10 ≠ 0 then ⟨negative, parts.1, parts.2, .inl h⟩
  else ⟨negative, 0, 0, .inr ⟨rfl, rfl⟩⟩

/-- Whether a number lies below one. -/
def isBelowOne (d : Decimal) : Bool :=
  d.negative || (match d.exponent with
    | .ofNat _ => d.digits == 0
    | .negSucc n => d.digits < Nat.pow 10 (n + 1))

/-- The number of digits in front of the point, which is not positive for numbers that start
with zeros behind the point. -/
def point (d : Decimal) : Int :=
  if d.digits = 0 then 1 else (Nat.toDigits 10 d.digits).length + d.exponent

end Decimal

end ScriptingBindings
