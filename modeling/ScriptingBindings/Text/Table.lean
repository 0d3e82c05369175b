/-
  ScriptingBindings.Text.Table
  ──────────────────────────────────
  **TABLES OF CODE POINTS.**

  A character class is a list of closed ranges in ascending order, and a
  letter-case map is a list of runs that shift their code points by one
  amount.  Both stop at the first entry above the code point asked for.
-/

namespace ScriptingBindings.Text

/-! ## §1. Ranges. -/

/-- Whether a code point lies in one of the ascending closed ranges. -/
def inRanges : List (Nat × Nat) → Nat → Bool
  | [], _ => false
  | (first, last) :: rest, n => first ≤ n && (n ≤ last || inRanges rest n)

/-! ## §2. Shifts. -/

/-- Every `step`-th code point from `first` to `last` moves by `delta`. -/
structure CaseRun where
  first : Nat
  last : Nat
  step : Nat
  delta : Int

/-- The code point that a run list moves `n` to, if one of its runs holds `n`. -/
def shift? : List CaseRun → Nat → Option Nat
  | [], _ => none
  | r :: rest, n =>
    if n < r.first then none
    else if n ≤ r.last && (n - r.first) % r.step == 0 then some (n + r.delta).toNat
    else shift? rest n

/-- The expansion listed for a code point, if there is one. -/
def expansion? : List (Nat × List Nat) → Nat → Option (List Char)
  | [], _ => none
  | (m, image) :: rest, n => if m == n then some (image.map Char.ofNat) else expansion? rest n

end ScriptingBindings.Text
