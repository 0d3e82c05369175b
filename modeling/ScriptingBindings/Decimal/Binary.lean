/-
  ScriptingBindings.Decimal.Binary
  ──────────────────────────────────
  **NUMBERS OF FIXED PRECISION.**

  Numbers with a fraction are kept with a mantissa of 53 binary digits and an
  exponent of two within bounds.  A quotient is rounded to the nearest such
  number, and of two that are as near to the one with the even mantissa.
  What lies beyond the greatest number has none.
-/

namespace ScriptingBindings

/-- The number `mantissa × 2 ^ exponent`. -/
structure Binary where
  mantissa : Nat
  exponent : Int
  deriving Repr, DecidableEq

namespace Binary

/-! ## §1. Bounds. -/

/-- The number of binary digits of a mantissa. -/
def precision : Nat := 53

/-- The least exponent. -/
def leastExponent : Int := -1074

/-- The greatest exponent. -/
def greatestExponent : Int := 971

/-! ## §2. Rounding. -/

/-- The quotient `num / den` in units of `2 ^ e` as a fraction. -/
def scaled (num den : Nat) : Int → Nat × Nat
  | .ofNat n => (num, den * Nat.pow 2 n)
  | .negSucc n => (num * Nat.pow 2 (n + 1), den)

/-- The whole number nearest to a quotient, the even one of two. -/
def nearestWhole (num den : Nat) : Nat :=
  let whole := num / den
  let rest := num % den
  if den < 2 * rest || (den == 2 * rest && whole % 2 == 1) then whole + 1 else whole

/-- The exponent at which a quotient has a mantissa of full precision, or the least one. -/
def exponentFor (num den : Nat) : Int :=
  let e : Int := (num.log2 : Int) - den.log2 - (precision - 1 : Nat)
  let (n, d) := scaled num den e
  -- The quotient of two numbers may have one digit less than their lengths tell.
  let e := if n < d * Nat.pow 2 (precision - 1) then e - 1 else e
  max e leastExponent

/-- The number nearest to a quotient at an exponent, unless it lies beyond the greatest one. -/
def nearestAt? (num den : Nat) (e : Int) : Option Binary :=
  let (n, d) := scaled num den e
  let m := nearestWhole n d
  -- Rounding up may take one digit more.
  let (m, e) := if m = Nat.pow 2 precision then (Nat.pow 2 (precision - 1), e + 1) else (m, e)
  if greatestExponent < e then none else some ⟨m, e⟩

/-- The number nearest to a quotient, unless it lies beyond the greatest one. -/
def nearest? (num den : Nat) : Option Binary :=
  nearestAt? num den (exponentFor num den)

end Binary

end ScriptingBindings
