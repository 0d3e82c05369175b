/-
  ScriptingBindings.Decimal.Shortest
  ──────────────────────────────────
  **THE SHORTEST DECIMAL NUMBER.**

  Many decimal numbers round to one number of fixed precision.  It is shown by
  one of those with the fewest digits, and among these by the nearest, the one
  with an even last digit if two are as near.

  The numbers that round to `m × 2 ^ e` reach half a unit to either side, but
  only a quarter below a power of two, where the units get smaller.  The ends
  belong to them if `m` is even.  All of it is counted in quarters of a unit.
-/
import ScriptingBindings.Decimal.Basic
import ScriptingBindings.Decimal.Binary

namespace ScriptingBindings

namespace Binary

/-! ## §1. What rounds to a number. -/

/-- The least and the greatest of what rounds to a number, in quarters of a unit. -/
def reach (b : Binary) : Nat × Nat :=
  let m := 4 * b.mantissa
  let isPower := b.mantissa == Nat.pow 2 (precision - 1) && leastExponent < b.exponent
  (if isPower then m - 1 else m - 2, m + 2)

/-- Whether a quotient, in quarters of a unit, rounds to a number. -/
def holds (b : Binary) (num den : Nat) : Bool :=
  let (low, high) := b.reach
  if b.mantissa % 2 = 0 then low * den ≤ num && num ≤ high * den
  else low * den < num && num < high * den

/-! ## §2. Decimal grids. -/

/-- Ten to the power `k` in quarters of a unit, as a fraction. -/
def gridStep (b : Binary) (k : Int) : Nat × Nat :=
  let ten : Nat × Nat :=
    match k with
    | .ofNat n => (Nat.pow 10 n, 1)
    | .negSucc n => (1, Nat.pow 10 (n + 1))
  scaled ten.1 ten.2 (b.exponent - 2)

/-- The multiple of ten to the power `k` that shows a number, if one rounds to it. -/
def onGrid? (b : Binary) (k : Int) : Option Nat :=
  let (num, den) := b.gridStep k
  let below := 4 * b.mantissa * den / num
  -- The two multiples around the number, in quarters of a unit over `den`.
  let toBelow := 4 * b.mantissa * den - below * num
  let toAbove := (below + 1) * num - 4 * b.mantissa * den
  match b.holds (below * num) den, b.holds ((below + 1) * num) den with
  | false, false => none
  | true, false => some below
  | false, true => some (below + 1)
  | true, true =>
    some (if toBelow < toAbove || (toBelow == toAbove && below % 2 == 0) then below else below + 1)

/-- The first grid, from the exponent `k` downwards, with a multiple that shows a number. -/
def firstGrid : Nat → Binary → Int → Nat × Int
  | 0, b, k => (((b.onGrid? k).getD 0), k)
  | fuel + 1, b, k =>
    match b.onGrid? k with
    | some c => (c, k)
    | none => firstGrid fuel b (k - 1)

/-- A power of ten that is not below a number. -/
def ceilingExponent (b : Binary) : Int :=
  ((b.mantissa.log2 + 1 : Int) + b.exponent) * 30103 / 100000 + 1

/-- The number of grids that are tried: one of seventeen digits always has a multiple. -/
def gridCount : Nat := 20

/-- The shortest decimal number for a number with a sign. -/
def shortest (negative : Bool) (b : Binary) : Decimal :=
  if b.mantissa = 0 then .ofParts negative 0 0
  else
    let (digits, k) := firstGrid gridCount b b.ceilingExponent
    .ofParts negative digits k

end Binary

end ScriptingBindings
