/-
  ScriptingBindings.Proofs.Decimal.Rounding
  ──────────────────────────────────
  **NUMBERS THAT ARE KEPT.**

  A number that was read is rounded to one of fixed precision, and what is kept
  of it is the shortest decimal number that is rounded to the same one.  Reading
  that again changes nothing:

      ofDecimal e = finite d  →  ofDecimal d = finite d

  Numbers are compared as rational ones.  A decimal number in the reach of a
  number of fixed precision is rounded to it, and the search for the shortest
  one comes to a grid that is fine enough before it ends.
-/
import Mathlib.Algebra.Order.Field.Power
import Mathlib.Data.Int.Log
import Mathlib.Data.Nat.Multiplicity
import Mathlib.Data.Rat.Floor
import Mathlib.Tactic.FieldSimp
import Mathlib.Tactic.Linarith
import Mathlib.Tactic.Positivity
import Mathlib.Tactic.Ring
import ScriptingBindings.Decimal.Fractional

namespace ScriptingBindings

/-! ## §1. Normal forms. -/

namespace Decimal

/-- The zeros at the end of a number are stripped one by one. -/
theorem stripZeros_mul_pow {m : Nat} (hm : m % 10 ≠ 0) {k fuel : Nat} (hk : k ≤ fuel) (e : Int) :
    stripZeros fuel (m * 10 ^ k) e = (m, e + k) := by
  -- The fuel only has to last for the zeros, and the exponent grows by one with each of them.
  induction k generalizing fuel e with
  | zero =>
    rw [pow_zero, mul_one, Nat.cast_zero, add_zero]
    cases fuel with
    | zero => rfl
    | succ fuel => rw [stripZeros, if_neg hm]
  | succ k ih =>
    obtain ⟨fuel, rfl⟩ : ∃ n, fuel = n + 1 := ⟨fuel - 1, by omega⟩
    have hlast : m * 10 ^ (k + 1) = m * 10 ^ k * 10 := by rw [pow_succ, mul_assoc]
    have hdigit : m * 10 ^ k * 10 % 10 = 0 := by omega
    have hrest : m * 10 ^ k * 10 / 10 = m * 10 ^ k := by omega
    rw [hlast, stripZeros, if_pos hdigit, hrest, ih (by omega), Nat.cast_succ]
    congr 1
    omega

theorem le_log2_mul_pow {m : Nat} (hm : m ≠ 0) (k : Nat) : k ≤ (m * 10 ^ k).log2 := by
  have hpow : 10 ^ k ≠ 0 := pow_ne_zero k (by decide)
  rw [Nat.le_log2 (Nat.mul_ne_zero hm hpow)]
  calc 2 ^ k ≤ 10 ^ k := Nat.pow_le_pow_left (by decide) k
    _ ≤ m * 10 ^ k := Nat.le_mul_of_pos_left _ (Nat.pos_of_ne_zero hm)

/-- The zeros at the end of written digits belong to the exponent. -/
theorem ofParts_mul_pow (negative : Bool) {m : Nat} (hm : m % 10 ≠ 0) (k : Nat) (e : Int) :
    ofParts negative (m * 10 ^ k) e = ⟨negative, m, e + k, .inl hm⟩ := by
  have hfuel : k ≤ (m * 10 ^ k).log2 + 1 :=
    (le_log2_mul_pow (by rintro rfl; exact hm rfl) k).trans (Nat.le_succ _)
  unfold ofParts
  simp only [stripZeros_mul_pow hm hfuel, dif_pos hm]

/-- The digits of a number with zeros behind them have it for their normal form. -/
theorem ofParts_eq (d : Decimal) {n : Nat} {e : Int} (k : Nat) (hn : n = d.digits * 10 ^ k)
    (he : e = d.exponent - k) : ofParts d.negative n e = d := by
  subst hn he
  obtain ⟨negative, m, e, hm | ⟨rfl, rfl⟩⟩ := d
  · simp only [ofParts_mul_pow negative hm, sub_add_cancel]
  · simp [ofParts, stripZeros]

/-- A decimal number without its sign. -/
def value (d : Decimal) : ℚ :=
  d.digits * (10 : ℚ) ^ d.exponent

/-- The normal form keeps the sign and the number. -/
theorem ofParts_spec (negative : Bool) {n : Nat} (hn : n ≠ 0) (e : Int) :
    (ofParts negative n e).negative = negative ∧ (ofParts negative n e).digits ≠ 0 ∧
      (ofParts negative n e).value = n * (10 : ℚ) ^ e := by
  obtain ⟨k, m, hm, rfl⟩ := Nat.exists_eq_pow_mul_and_not_dvd hn 10 (by decide)
  have hm : m % 10 ≠ 0 := mt Nat.dvd_of_mod_eq_zero hm
  have hten : (10 : ℚ) ≠ 0 := by norm_num
  rw [mul_comm, ofParts_mul_pow negative hm k e]
  refine ⟨rfl, fun h : m = 0 => hm (by rw [h]), ?_⟩
  rw [value, zpow_add₀ hten, zpow_natCast, Nat.cast_mul, Nat.cast_pow, Nat.cast_ofNat]
  ring

end Decimal

namespace Binary

/-! ## §2. Quotients. -/

variable {num den : Nat}

theorem quotient_pos (hnum : num ≠ 0) (hden : den ≠ 0) : (0 : ℚ) < num / den :=
  div_pos (Nat.cast_pos.mpr (Nat.pos_of_ne_zero hnum)) (Nat.cast_pos.mpr (Nat.pos_of_ne_zero hden))

/-- A quotient in units of a power of two is a quotient again. -/
theorem scaled_spec (num : Nat) (hden : den ≠ 0) (e : Int) :
    (scaled num den e).2 ≠ 0 ∧
      ((scaled num den e).1 : ℚ) / (scaled num den e).2 = (num : ℚ) / den / (2 : ℚ) ^ e := by
  have hden' : (den : ℚ) ≠ 0 := Nat.cast_ne_zero.mpr hden
  cases e with
  | ofNat n =>
    refine ⟨Nat.mul_ne_zero hden (pow_ne_zero n two_ne_zero), ?_⟩
    show (num : ℚ) / ((den * 2 ^ n : ℕ) : ℚ) = _
    rw [Int.ofNat_eq_natCast, zpow_natCast, Nat.cast_mul, Nat.cast_pow, Nat.cast_ofNat, div_div]
  | negSucc n =>
    refine ⟨hden, ?_⟩
    show ((num * 2 ^ (n + 1) : ℕ) : ℚ) / den = _
    rw [zpow_negSucc, Nat.cast_mul, Nat.cast_pow, Nat.cast_ofNat]
    field_simp

theorem nearestWhole_of_bounds (hden : den ≠ 0) {m : Nat} (hlow : 2 * (den * m) ≤ 2 * num + den)
    (hhigh : 2 * num ≤ 2 * (den * m) + den)
    (hodd : m % 2 = 1 → 2 * (den * m) < 2 * num + den ∧ 2 * num < 2 * (den * m) + den) :
    nearestWhole num den = m := by
  have hdiv := Nat.div_add_mod num den
  unfold nearestWhole
  generalize hq : num / den = q at hdiv ⊢
  generalize hr : num % den = r at hdiv ⊢
  have hmod : r < den := hr ▸ Nat.mod_lt num (Nat.pos_of_ne_zero hden)
  -- The number is the whole part or the next one.
  have hle : m ≤ q + 1 := by
    by_contra hlt
    have := Nat.mul_le_mul_left den (show q + 2 ≤ m by omega)
    rw [mul_add] at this
    omega
  have hge : q ≤ m := by
    by_contra hlt
    have := Nat.mul_le_mul_left den (show m + 1 ≤ q by omega)
    rw [mul_add] at this
    omega
  simp only [Bool.or_eq_true, Bool.and_eq_true, decide_eq_true_eq, beq_iff_eq]
  rcases (show m = q ∨ m = q + 1 by omega) with rfl | rfl
  · rw [if_neg (by omega)]
  · rw [mul_add] at hlow hhigh hodd
    rw [if_pos (by omega)]

/-- A quotient is rounded to a whole number within half a unit of it, less if that is odd. -/
theorem nearestWhole_eq (hden : den ≠ 0) {m : Nat} (hlow : (m : ℚ) - 1 / 2 ≤ num / den)
    (hhigh : (num : ℚ) / den ≤ m + 1 / 2)
    (hodd : m % 2 = 1 → (m : ℚ) - 1 / 2 < num / den ∧ (num : ℚ) / den < m + 1 / 2) :
    nearestWhole num den = m := by
  have hpos : (0 : ℚ) < den := Nat.cast_pos.mpr (Nat.pos_of_ne_zero hden)
  rw [le_div_iff₀ hpos] at hlow
  rw [div_le_iff₀ hpos] at hhigh
  rw [lt_div_iff₀ hpos, div_lt_iff₀ hpos] at hodd
  refine nearestWhole_of_bounds hden ?_ ?_ fun h => ⟨?_, ?_⟩
  · exact_mod_cast (by linarith : (2 : ℚ) * (den * m) ≤ 2 * num + den)
  · exact_mod_cast (by linarith : (2 : ℚ) * num ≤ 2 * (den * m) + den)
  · exact_mod_cast (by linarith [(hodd h).1] : (2 : ℚ) * (den * m) < 2 * num + den)
  · exact_mod_cast (by linarith [(hodd h).2] : (2 : ℚ) * num < 2 * (den * m) + den)

theorem nearestWhole_bounds (num den : Nat) :
    num / den ≤ nearestWhole num den ∧ nearestWhole num den ≤ num / den + 1 := by
  unfold nearestWhole
  dsimp only
  split
  next => exact ⟨Nat.le_succ _, le_rfl⟩
  next => exact ⟨le_rfl, Nat.le_succ _⟩

/-! ## §3. Numbers of fixed precision. -/

/-- The length of a quotient is the difference of the lengths, or one less. -/
theorem log_bounds (hnum : num ≠ 0) (hden : den ≠ 0) :
    (num.log2 : ℤ) - den.log2 - 1 ≤ Int.log 2 ((num : ℚ) / den) ∧
      Int.log 2 ((num : ℚ) / den) ≤ num.log2 - den.log2 := by
  have hn : (0 : ℚ) < num := Nat.cast_pos.mpr (Nat.pos_of_ne_zero hnum)
  have hd : (0 : ℚ) < den := Nat.cast_pos.mpr (Nat.pos_of_ne_zero hden)
  have hx := quotient_pos hnum hden
  have htwo : (2 : ℚ) ≠ 0 := two_ne_zero
  have hnlow : (2 : ℚ) ^ num.log2 ≤ num := by exact_mod_cast Nat.log2_self_le hnum
  have hnhigh : (num : ℚ) < (2 : ℚ) ^ (num.log2 + 1) := by exact_mod_cast Nat.lt_log2_self
  have hdlow : (2 : ℚ) ^ den.log2 ≤ den := by exact_mod_cast Nat.log2_self_le hden
  have hdhigh : (den : ℚ) < (2 : ℚ) ^ (den.log2 + 1) := by exact_mod_cast Nat.lt_log2_self
  -- The quotient is least for the least numerator and the greatest denominator of their lengths.
  constructor
  · refine (Int.zpow_le_iff_le_log (by decide) hx).mp ?_
    rw [Nat.cast_ofNat, sub_sub, ← Nat.cast_succ, zpow_sub₀ htwo, zpow_natCast, zpow_natCast]
    gcongr
  · refine Int.lt_add_one_iff.mp ((Int.lt_zpow_iff_log_lt (by decide) hx).mp ?_)
    rw [Nat.cast_ofNat, sub_add_eq_add_sub, ← Nat.cast_succ, zpow_sub₀ htwo, zpow_natCast,
      zpow_natCast]
    gcongr

/-- The exponent is that of a mantissa of full precision, or the least one. -/
theorem exponentFor_eq (hnum : num ≠ 0) (hden : den ≠ 0) :
    exponentFor num den = max (Int.log 2 ((num : ℚ) / den) - 52) leastExponent := by
  have hx := quotient_pos hnum hden
  obtain ⟨hlow, hhigh⟩ := log_bounds hnum hden
  unfold exponentFor
  rw [show ((precision - 1 : Nat) : ℤ) = 52 from rfl,
    show Nat.pow 2 (precision - 1) = 2 ^ 52 from rfl]
  generalize (num.log2 : ℤ) - den.log2 = len at hlow hhigh ⊢
  obtain ⟨hne, hscaled⟩ := scaled_spec num hden (len - 52)
  dsimp only
  generalize scaled num den (len - 52) = unit at hne hscaled ⊢
  -- The exponent is first taken for the greater of the two lengths, which may be one too long.
  have hshort : unit.1 < unit.2 * 2 ^ 52 ↔ Int.log 2 ((num : ℚ) / den) < len := by
    have hpos : (0 : ℚ) < unit.2 := Nat.cast_pos.mpr (Nat.pos_of_ne_zero hne)
    have hlen : (2 : ℚ) ^ 52 * (2 : ℚ) ^ (len - 52) = (2 : ℚ) ^ len := by
      rw [← zpow_natCast, ← zpow_add₀ two_ne_zero, Nat.cast_ofNat, add_sub_cancel]
    rw [← Int.lt_zpow_iff_log_lt (by decide) hx, Nat.cast_ofNat, ← hlen,
      ← div_lt_iff₀ (zpow_pos two_pos _), ← hscaled, div_lt_iff₀ hpos, mul_comm]
    exact_mod_cast Iff.rfl
  by_cases h : unit.1 < unit.2 * 2 ^ 52
  · rw [if_pos h, show len - 52 - 1 = Int.log 2 ((num : ℚ) / den) - 52 by
      have := hshort.mp h
      omega]
  · rw [if_neg h, show len - 52 = Int.log 2 ((num : ℚ) / den) - 52 by
      have := mt hshort.mpr h
      omega]

/-- The mantissa has full precision at one exponent. -/
theorem exponentFor_eq_of_bounds (hnum : num ≠ 0) (hden : den ≠ 0) {e : ℤ}
    (hleast : leastExponent ≤ e) (hfits : (num : ℚ) / den / (2 : ℚ) ^ e < 2 ^ 53)
    (hfull : leastExponent < e → 2 ^ 52 ≤ (num : ℚ) / den / (2 : ℚ) ^ e) :
    exponentFor num den = e := by
  have hx := quotient_pos hnum hden
  have hunit : (0 : ℚ) < (2 : ℚ) ^ e := zpow_pos two_pos e
  have htwo : (2 : ℚ) ≠ 0 := two_ne_zero
  rw [exponentFor_eq hnum hden]
  have hhigh : Int.log 2 ((num : ℚ) / den) < 53 + e := by
    refine (Int.lt_zpow_iff_log_lt (by decide) hx).mp ?_
    rw [Nat.cast_ofNat, zpow_add₀ htwo]
    exact (div_lt_iff₀ hunit).mp hfits
  have hlow : leastExponent < e → 52 + e ≤ Int.log 2 ((num : ℚ) / den) := by
    intro h
    refine (Int.zpow_le_iff_le_log (by decide) hx).mp ?_
    rw [Nat.cast_ofNat, zpow_add₀ htwo]
    exact (le_div_iff₀ hunit).mp (hfull h)
  omega

/-- In units of its exponent a number fits, and it has full precision unless that is the least. -/
theorem exponentFor_bounds (hnum : num ≠ 0) (hden : den ≠ 0) :
    leastExponent ≤ exponentFor num den ∧
      (num : ℚ) / den / (2 : ℚ) ^ exponentFor num den < 2 ^ 53 ∧
        (leastExponent < exponentFor num den →
          2 ^ 52 ≤ (num : ℚ) / den / (2 : ℚ) ^ exponentFor num den) := by
  have hx := quotient_pos hnum hden
  have htwo : (2 : ℚ) ≠ 0 := two_ne_zero
  have he := exponentFor_eq hnum hden
  generalize exponentFor num den = e at he ⊢
  have hunit : (0 : ℚ) < (2 : ℚ) ^ e := zpow_pos two_pos e
  refine ⟨he ▸ le_max_right .., ?_, fun h => ?_⟩
  · rw [div_lt_iff₀ hunit]
    have := (Int.lt_zpow_iff_log_lt (b := 2) (by decide) hx (x := 53 + e)).mpr (by omega)
    rwa [Nat.cast_ofNat, zpow_add₀ htwo] at this
  · rw [le_div_iff₀ hunit]
    have := (Int.zpow_le_iff_le_log (b := 2) (by decide) hx (x := 52 + e)).mpr (by omega)
    rwa [Nat.cast_ofNat, zpow_add₀ htwo] at this

/-- A number of fixed precision: its mantissa has as many digits as its exponent allows. -/
structure IsKept (b : Binary) : Prop where
  fits : b.mantissa < 2 ^ 53
  least : leastExponent ≤ b.exponent
  greatest : b.exponent ≤ greatestExponent
  full : leastExponent < b.exponent → 2 ^ 52 ≤ b.mantissa

/-- A mantissa that is rounded up to one digit more is halved. -/
theorem nearest?_eq {e : ℤ} {m : Nat} (he : exponentFor num den = e)
    (hm : nearestWhole (scaled num den e).1 (scaled num den e).2 = m) :
    nearest? num den =
      if m = 2 ^ 53 then (if greatestExponent < e + 1 then none else some ⟨2 ^ 52, e + 1⟩)
      else if greatestExponent < e then none else some ⟨m, e⟩ := by
  rw [nearest?, he, nearestAt?]
  dsimp only
  rw [hm, show Nat.pow 2 precision = 2 ^ 53 from rfl,
    show Nat.pow 2 (precision - 1) = 2 ^ 52 from rfl]
  by_cases h : m = 2 ^ 53
  · rw [if_pos h, if_pos h]
  · rw [if_neg h, if_neg h]

/-- Rounding gives numbers of fixed precision. -/
theorem isKept_of_nearest? (hnum : num ≠ 0) (hden : den ≠ 0) {b : Binary}
    (h : nearest? num den = some b) : b.IsKept := by
  obtain ⟨hleast, hfits, hfull⟩ := exponentFor_bounds hnum hden
  rw [nearest?_eq rfl rfl] at h
  generalize exponentFor num den = e at hleast hfits hfull h
  obtain ⟨hne, hscaled⟩ := scaled_spec num hden e
  obtain ⟨hwhole, hnext⟩ := nearestWhole_bounds (scaled num den e).1 (scaled num den e).2
  have hpos : (0 : ℚ) < (scaled num den e).2 := Nat.cast_pos.mpr (Nat.pos_of_ne_zero hne)
  rw [← hscaled] at hfits hfull
  have hlt : (scaled num den e).1 / (scaled num den e).2 < 2 ^ 53 := by
    rw [Nat.div_lt_iff_lt_mul (Nat.pos_of_ne_zero hne)]
    exact_mod_cast (div_lt_iff₀ hpos).mp hfits
  have hge : leastExponent < e → 2 ^ 52 ≤ (scaled num den e).1 / (scaled num den e).2 := by
    intro hlt
    rw [Nat.le_div_iff_mul_le (Nat.pos_of_ne_zero hne)]
    exact_mod_cast (le_div_iff₀ hpos).mp (hfull hlt)
  split at h
  next =>
    -- It was rounded up to one digit more, so what is left after halving has full precision.
    split at h
    next => exact absurd h (by simp)
    next hgreatest =>
      obtain rfl := Option.some.inj h
      refine ⟨?_, by dsimp only; omega, not_lt.mp hgreatest, fun _ => le_rfl⟩
      show 2 ^ 52 < 2 ^ 53
      norm_num
  next hm =>
    split at h
    next => exact absurd h (by simp)
    next hgreatest =>
      obtain rfl := Option.some.inj h
      exact ⟨by dsimp only; omega, hleast, not_lt.mp hgreatest, fun hlt => (hge hlt).trans hwhole⟩

/-! ## §4. What rounds to a number. -/

/-- A number, in units of the last digit, rounds to a number of fixed precision. -/
structure Reaches (b : Binary) (y : ℚ) : Prop where
  low : (b.reach.1 : ℚ) / 4 ≤ y
  high : y ≤ b.reach.2 / 4
  inner : b.mantissa % 2 = 1 → (b.reach.1 : ℚ) / 4 < y ∧ y < b.reach.2 / 4

/-- The test for the reach of a number, which counts in quarters of units. -/
theorem holds_iff (b : Binary) (num : Nat) (hden : den ≠ 0) :
    b.holds num den = true ↔ b.Reaches ((num : ℚ) / den / 4) := by
  have hpos : (0 : ℚ) < den := Nat.cast_pos.mpr (Nat.pos_of_ne_zero hden)
  have hlow : b.reach.1 * den ≤ num ↔ (b.reach.1 : ℚ) / 4 ≤ num / den / 4 := by
    rw [div_le_div_iff_of_pos_right (by norm_num), le_div_iff₀ hpos]
    exact_mod_cast Iff.rfl
  have hhigh : num ≤ b.reach.2 * den ↔ (num : ℚ) / den / 4 ≤ b.reach.2 / 4 := by
    rw [div_le_div_iff_of_pos_right (by norm_num), div_le_iff₀ hpos]
    exact_mod_cast Iff.rfl
  have hlow' : b.reach.1 * den < num ↔ (b.reach.1 : ℚ) / 4 < num / den / 4 := by
    rw [div_lt_div_iff_of_pos_right (by norm_num), lt_div_iff₀ hpos]
    exact_mod_cast Iff.rfl
  have hhigh' : num < b.reach.2 * den ↔ (num : ℚ) / den / 4 < b.reach.2 / 4 := by
    rw [div_lt_div_iff_of_pos_right (by norm_num), div_lt_iff₀ hpos]
    exact_mod_cast Iff.rfl
  unfold holds
  dsimp only
  split
  next heven =>
    rw [Bool.and_eq_true, decide_eq_true_iff, decide_eq_true_iff, hlow, hhigh]
    exact ⟨fun h => ⟨h.1, h.2, by omega⟩, fun h => ⟨h.low, h.high⟩⟩
  next hodd =>
    rw [Bool.and_eq_true, decide_eq_true_iff, decide_eq_true_iff, hlow', hhigh']
    exact ⟨fun h => ⟨h.1.le, h.2.le, fun _ => h⟩, fun h => h.inner (by omega)⟩

/-- The reach goes to at most half a unit below. -/
theorem reach_low (b : Binary) :
    b.reach.1 = if b.mantissa = 2 ^ 52 ∧ leastExponent < b.exponent then 4 * b.mantissa - 1
      else 4 * b.mantissa - 2 := by
  unfold reach
  dsimp only
  rw [show Nat.pow 2 (precision - 1) = 2 ^ 52 from rfl]
  simp only [Bool.and_eq_true, beq_iff_eq, decide_eq_true_eq]

theorem reach_high (b : Binary) : b.reach.2 = 4 * b.mantissa + 2 := rfl

theorem reach_low_bounds {b : Binary} (hb : b.mantissa ≠ 0) :
    4 * b.mantissa - 2 ≤ b.reach.1 ∧ b.reach.1 < 4 * b.mantissa := by
  rw [reach_low]
  split
  next => omega
  next => omega

/-- The lower end of the reach as a number, with nothing cut off. -/
theorem four_mul_mantissa_le {b : Binary} (hb : b.mantissa ≠ 0) :
    (4 : ℚ) * b.mantissa ≤ b.reach.1 + 2 := by
  have hreach : 4 * b.mantissa ≤ b.reach.1 + 2 := by
    have := (reach_low_bounds hb).1
    omega
  exact_mod_cast hreach

variable {b : Binary}

namespace Reaches

variable {y : ℚ}

theorem half_below (h : b.Reaches y) (hb : b.mantissa ≠ 0) : (b.mantissa : ℚ) - 1 / 2 ≤ y := by
  have := four_mul_mantissa_le hb
  linarith [h.low]

theorem half_above (h : b.Reaches y) : y ≤ b.mantissa + 1 / 2 := by
  have := h.high
  rw [reach_high] at this
  push_cast at this
  linarith

theorem inner_half (h : b.Reaches y) (hb : b.mantissa ≠ 0) (hodd : b.mantissa % 2 = 1) :
    (b.mantissa : ℚ) - 1 / 2 < y ∧ y < b.mantissa + 1 / 2 := by
  obtain ⟨hlow, hhigh⟩ := h.inner hodd
  have := four_mul_mantissa_le hb
  rw [reach_high] at hhigh
  push_cast at hhigh
  constructor <;> linarith

theorem pos (h : b.Reaches y) (hb : b.mantissa ≠ 0) : 0 < y := by
  have : (1 : ℚ) ≤ b.mantissa := by exact_mod_cast Nat.one_le_iff_ne_zero.mpr hb
  linarith [h.half_below hb]

/-- Below the mantissas of full precision only the least of them is reached, as a power of two. -/
theorem eq_of_lt (h : b.Reaches y) (hb : b.IsKept) (hleast : leastExponent < b.exponent)
    (hy : y < 2 ^ 52) : b.mantissa = 2 ^ 52 ∧ (2 : ℚ) ^ 52 - 1 / 4 ≤ y := by
  have hfull := hb.full hleast
  have hne : b.mantissa ≠ 0 := by omega
  have hmantissa : b.mantissa = 2 ^ 52 := by
    by_contra hother
    have : (2 : ℚ) ^ 52 + 1 ≤ b.mantissa := by
      exact_mod_cast (show 2 ^ 52 + 1 ≤ b.mantissa by omega)
    linarith [h.half_below hne]
  refine ⟨hmantissa, ?_⟩
  have hlow := h.low
  rw [reach_low, if_pos ⟨hmantissa, hleast⟩, hmantissa] at hlow
  norm_num at hlow ⊢
  exact hlow

end Reaches

/-- A little below a power of two the units are half as large, and it is rounded up to it. -/
theorem nearest?_of_reaches_of_lt (hb : b.IsKept) (hnum : num ≠ 0) (hden : den ≠ 0)
    (h : b.Reaches ((num : ℚ) / den / (2 : ℚ) ^ b.exponent)) (hleast : leastExponent < b.exponent)
    (hlt : (num : ℚ) / den / (2 : ℚ) ^ b.exponent < 2 ^ 52) : nearest? num den = some b := by
  obtain ⟨hmantissa, hlow⟩ := h.eq_of_lt hb hleast hlt
  have hhigh := h.half_above
  have hhalf : (num : ℚ) / den / (2 : ℚ) ^ (b.exponent - 1)
      = 2 * ((num : ℚ) / den / (2 : ℚ) ^ b.exponent) := by
    rw [zpow_sub_one₀ two_ne_zero]
    field_simp
  have he : exponentFor num den = b.exponent - 1 := by
    refine exponentFor_eq_of_bounds hnum hden (by omega) ?_ fun _ => ?_
    · rw [hhalf]
      linarith
    · rw [hhalf]
      linarith
  obtain ⟨hunit, hscaled⟩ := scaled_spec num hden (b.exponent - 1)
  have hm : nearestWhole (scaled num den (b.exponent - 1)).1 (scaled num den (b.exponent - 1)).2
      = 2 ^ 53 := by
    refine nearestWhole_eq hunit ?_ ?_ fun hodd => absurd hodd (by norm_num)
    · rw [hscaled, hhalf]
      push_cast
      linarith
    · rw [hscaled, hhalf]
      push_cast
      linarith
  rw [nearest?_eq he hm, if_pos rfl, sub_add_cancel, if_neg (not_lt.mpr hb.greatest), ← hmantissa]

/-- At the exponent of the number its mantissa is the nearest one. -/
theorem nearest?_of_reaches_of_le (hb : b.IsKept) (hne : b.mantissa ≠ 0) (hnum : num ≠ 0)
    (hden : den ≠ 0) (h : b.Reaches ((num : ℚ) / den / (2 : ℚ) ^ b.exponent))
    (hfull : leastExponent < b.exponent → 2 ^ 52 ≤ (num : ℚ) / den / (2 : ℚ) ^ b.exponent) :
    nearest? num den = some b := by
  have hfits : (b.mantissa : ℚ) + 1 ≤ 2 ^ 53 := by exact_mod_cast hb.fits
  have hhigh := h.half_above
  have he : exponentFor num den = b.exponent :=
    exponentFor_eq_of_bounds hnum hden hb.least (by linarith) hfull
  obtain ⟨hunit, hscaled⟩ := scaled_spec num hden b.exponent
  have hm : nearestWhole (scaled num den b.exponent).1 (scaled num den b.exponent).2
      = b.mantissa := by
    refine nearestWhole_eq hunit ?_ ?_ fun hodd => ?_
    · rw [hscaled]
      exact h.half_below hne
    · rw [hscaled]
      exact hhigh
    · rw [hscaled]
      exact h.inner_half hne hodd
  rw [nearest?_eq he hm, if_neg hb.fits.ne, if_neg (not_lt.mpr hb.greatest)]

/-- **What a number of fixed precision reaches is rounded to it.** -/
theorem nearest?_of_reaches (hb : b.IsKept) (hne : b.mantissa ≠ 0) (hnum : num ≠ 0) (hden : den ≠ 0)
    (h : b.Reaches ((num : ℚ) / den / (2 : ℚ) ^ b.exponent)) : nearest? num den = some b := by
  by_cases hshort : leastExponent < b.exponent ∧ (num : ℚ) / den / (2 : ℚ) ^ b.exponent < 2 ^ 52
  · exact nearest?_of_reaches_of_lt hb hnum hden h hshort.1 hshort.2
  · refine nearest?_of_reaches_of_le hb hne hnum hden h fun hleast => ?_
    exact not_lt.mp fun hlt => hshort ⟨hleast, hlt⟩

/-! ## §5. Decimal grids. -/

/-- The step of a grid, in quarters of units. -/
theorem gridStep_spec (b : Binary) (k : ℤ) :
    (b.gridStep k).2 ≠ 0 ∧
      ((b.gridStep k).1 : ℚ) / (b.gridStep k).2 = (10 : ℚ) ^ k / (2 : ℚ) ^ (b.exponent - 2) := by
  cases k with
  | ofNat n =>
    obtain ⟨hne, hscaled⟩ := scaled_spec (10 ^ n) one_ne_zero (b.exponent - 2)
    refine ⟨hne, hscaled.trans ?_⟩
    rw [Nat.cast_one, div_one, Int.ofNat_eq_natCast, zpow_natCast, Nat.cast_pow, Nat.cast_ofNat]
  | negSucc n =>
    obtain ⟨hne, hscaled⟩ :=
      scaled_spec 1 (pow_ne_zero (n + 1) (show 10 ≠ 0 by decide)) (b.exponent - 2)
    refine ⟨hne, hscaled.trans ?_⟩
    rw [zpow_negSucc, Nat.cast_one, one_div, Nat.cast_pow, Nat.cast_ofNat]

/-- A multiple on a grid that shows a number rounds to it. -/
theorem holds_of_onGrid? {k : ℤ} {c : Nat} (h : b.onGrid? k = some c) :
    b.holds (c * (b.gridStep k).1) (b.gridStep k).2 = true := by
  unfold onGrid? at h
  dsimp only at h
  split at h
  next => exact absurd h (by simp)
  next hbelow habove => exact Option.some.inj h ▸ hbelow
  next hbelow habove => exact Option.some.inj h ▸ habove
  next hbelow habove =>
    obtain rfl := Option.some.inj h
    split
    next => exact hbelow
    next => exact habove

theorem reaches_of_onGrid? {k : ℤ} {c : Nat} (h : b.onGrid? k = some c) :
    b.Reaches (c * (10 : ℚ) ^ k / (2 : ℚ) ^ b.exponent) := by
  obtain ⟨hne, hstep⟩ := gridStep_spec b k
  have hreaches := (holds_iff b _ hne).mp (holds_of_onGrid? h)
  have hquarter : (2 : ℚ) ^ (b.exponent - 2) = (2 : ℚ) ^ b.exponent / 4 := by
    rw [zpow_sub₀ two_ne_zero]
    norm_num
  rw [Nat.cast_mul, mul_div_assoc, hstep, hquarter] at hreaches
  convert hreaches using 1
  field_simp

/-- What lies above a number by less than half a unit rounds to it. -/
theorem holds_of_bounds (hb : b.mantissa ≠ 0) (hlow : 4 * b.mantissa * den < num)
    (hhigh : num < (4 * b.mantissa + 2) * den) : b.holds num den = true := by
  have hreach : b.reach.1 * den ≤ 4 * b.mantissa * den :=
    Nat.mul_le_mul_right den (reach_low_bounds hb).2.le
  unfold holds
  dsimp only
  rw [reach_high]
  split
  next => simp only [hreach.trans hlow.le, hhigh.le, decide_true, Bool.and_self]
  next => simp only [hreach.trans_lt hlow, hhigh, decide_true, Bool.and_self]

/-- A grid with steps of less than half a unit shows every number. -/
theorem onGrid?_isSome {k : ℤ} (h : (b.gridStep k).1 < 2 * (b.gridStep k).2) (hb : b.mantissa ≠ 0) :
    (b.onGrid? k).isSome = true := by
  obtain ⟨hne, hstep⟩ := gridStep_spec b k
  have hnum : 0 < (b.gridStep k).1 := by
    have : (0 : ℚ) < (b.gridStep k).1 / (b.gridStep k).2 := by
      rw [hstep]
      positivity
    by_contra hzero
    rw [Nat.eq_zero_of_not_pos hzero, Nat.cast_zero, zero_div] at this
    exact lt_irrefl _ this
  -- The next multiple is above the number by no more than a step.
  have habove : b.holds ((4 * b.mantissa * (b.gridStep k).2 / (b.gridStep k).1 + 1)
      * (b.gridStep k).1) (b.gridStep k).2 = true :=
    holds_of_bounds hb (Nat.lt_mul_div_succ _ hnum |>.trans_eq (mul_comm ..)) (by
      have := Nat.div_mul_le_self (4 * b.mantissa * (b.gridStep k).2) (b.gridStep k).1
      rw [add_mul, add_mul, one_mul]
      omega)
  unfold onGrid?
  dsimp only
  rw [habove]
  split
  next hother => exact absurd hother (by simp)
  next => rfl
  next => rfl
  next => rfl

/-- The search ends on a grid that shows the number if it comes to one. -/
theorem onGrid?_firstGrid {fuel j : Nat} {k : ℤ} (hj : j ≤ fuel)
    (h : (b.onGrid? (k - j)).isSome = true) :
    b.onGrid? (firstGrid fuel b k).2 = some (firstGrid fuel b k).1 := by
  -- The grid is free: either it shows the number itself, or the one that does is a step nearer.
  induction fuel generalizing j k with
  | zero =>
    obtain rfl := Nat.le_zero.mp hj
    rw [Nat.cast_zero, sub_zero] at h
    obtain ⟨c, hc⟩ := Option.isSome_iff_exists.mp h
    rw [firstGrid, hc, Option.getD_some]
  | succ fuel ih =>
    rw [firstGrid]
    cases hk : b.onGrid? k with
    | some c => exact hk
    | none =>
      cases j with
      | zero =>
        rw [Nat.cast_zero, sub_zero, hk] at h
        exact absurd h (by simp)
      | succ j =>
        refine ih (Nat.le_of_succ_le_succ hj) ?_
        rwa [sub_sub, ← Nat.cast_one, ← Nat.cast_add, Nat.add_comm]

/-- Ten is less than the third root of `2 ^ 10 = 1024`. -/
theorem ten_pow_le_two_zpow {n : Nat} {e : ℤ} (h : 10 * n ≤ 3 * e) :
    (10 : ℚ) ^ n ≤ (2 : ℚ) ^ e := by
  refine (pow_le_pow_iff_left₀ (by positivity) (by positivity) (show 3 ≠ 0 by decide)).mp ?_
  calc ((10 : ℚ) ^ n) ^ 3 = ((10 : ℚ) ^ 3) ^ n := pow_right_comm ..
    _ ≤ ((2 : ℚ) ^ 10) ^ n := pow_le_pow_left₀ (by norm_num) (by norm_num) n
    _ = (2 : ℚ) ^ (10 * n : ℤ) := by rw [← pow_mul]; norm_cast
    _ ≤ (2 : ℚ) ^ (e * 3) := zpow_le_zpow_right₀ (by norm_num) (by omega)
    _ = ((2 : ℚ) ^ e) ^ 3 := by rw [zpow_mul]; norm_cast

/-- Ten is more than the root of order 28 of `2 ^ 93`. -/
theorem two_zpow_le_ten_pow {n : Nat} {e : ℤ} (h : 28 * e ≤ 93 * n) :
    (2 : ℚ) ^ e ≤ (10 : ℚ) ^ n := by
  refine (pow_le_pow_iff_left₀ (by positivity) (by positivity) (show 28 ≠ 0 by decide)).mp ?_
  calc ((2 : ℚ) ^ e) ^ 28 = (2 : ℚ) ^ (e * 28) := by rw [zpow_mul]; norm_cast
    _ ≤ (2 : ℚ) ^ (93 * n : ℤ) := zpow_le_zpow_right₀ (by norm_num) (by omega)
    _ = ((2 : ℚ) ^ 93) ^ n := by rw [← pow_mul]; norm_cast
    _ ≤ ((10 : ℚ) ^ 28) ^ n := pow_le_pow_left₀ (by norm_num) (by norm_num) n
    _ = ((10 : ℚ) ^ n) ^ 28 := pow_right_comm ..

theorem ten_zpow_le_two_zpow {k e : ℤ} (hpos : 0 ≤ k → 10 * k ≤ 3 * e)
    (hneg : k < 0 → 93 * k ≤ 28 * e) : (10 : ℚ) ^ k ≤ (2 : ℚ) ^ e := by
  cases k with
  | ofNat n =>
    rw [Int.ofNat_eq_natCast, zpow_natCast]
    exact ten_pow_le_two_zpow (hpos (Int.natCast_nonneg n))
  | negSucc n =>
    have hle : (2 : ℚ) ^ (-e) ≤ (10 : ℚ) ^ (n + 1) := by
      refine two_zpow_le_ten_pow ?_
      have := hneg (Int.negSucc_lt_zero n)
      omega
    rw [zpow_neg] at hle
    rw [zpow_negSucc]
    exact inv_le_of_inv_le₀ (by positivity) hle

/-- **The first grid that shows a number is among those that are tried.** -/
theorem onGrid?_shortest (hb : b.IsKept) (hne : b.mantissa ≠ 0) :
    b.onGrid? (firstGrid gridCount b b.ceilingExponent).2
      = some (firstGrid gridCount b b.ceilingExponent).1 := by
  have hlog : b.mantissa.log2 ≤ 52 := by
    have := (Nat.log2_lt hne).mpr hb.fits
    omega
  have hleast := hb.least
  have hgreatest := hb.greatest
  have hceiling : b.ceilingExponent ≤ (53 + b.exponent) * 30103 / 100000 + 1 := by
    unfold ceilingExponent
    omega
  -- The last grid has steps of a quarter of a unit at most, whatever the exponent.
  refine onGrid?_firstGrid (j := gridCount) le_rfl (onGrid?_isSome ?_ hne)
  obtain ⟨hunit, hstep⟩ := gridStep_spec b (b.ceilingExponent - gridCount)
  have hpow : (10 : ℚ) ^ (b.ceilingExponent - gridCount) ≤ (2 : ℚ) ^ (b.exponent - 2) := by
    unfold gridCount leastExponent greatestExponent at *
    refine ten_zpow_le_two_zpow (fun hk => ?_) (fun hk => ?_)
    · omega
    · omega
  have hpos : (0 : ℚ) < (b.gridStep (b.ceilingExponent - gridCount)).2 :=
    Nat.cast_pos.mpr (Nat.pos_of_ne_zero hunit)
  have hle : (b.gridStep (b.ceilingExponent - gridCount)).1
      ≤ (b.gridStep (b.ceilingExponent - gridCount)).2 := by
    have hone := div_le_one_of_le₀ hpow (by positivity)
    rw [← hstep, div_le_one hpos] at hone
    exact_mod_cast hone
  omega

/-- A number of fixed precision is shown by a decimal number that rounds to it. -/
theorem shortest_spec (hb : b.IsKept) (hne : b.mantissa ≠ 0) (negative : Bool) :
    (b.shortest negative).negative = negative ∧ (b.shortest negative).digits ≠ 0 ∧
      b.Reaches ((b.shortest negative).value / (2 : ℚ) ^ b.exponent) := by
  have hreaches := reaches_of_onGrid? (onGrid?_shortest hb hne)
  have hdigits : (firstGrid gridCount b b.ceilingExponent).1 ≠ 0 := by
    intro hzero
    have := hreaches.pos hne
    rw [hzero, Nat.cast_zero, zero_mul, zero_div] at this
    exact lt_irrefl _ this
  obtain ⟨hsign, hnormal, hvalue⟩ :=
    Decimal.ofParts_spec negative hdigits (firstGrid gridCount b b.ceilingExponent).2
  rw [← hvalue] at hreaches
  unfold shortest
  rw [if_neg hne]
  exact ⟨hsign, hnormal, hreaches⟩

end Binary

/-! ## §6. Numbers that are kept. -/

namespace Decimal

variable {d : Decimal}

theorem point_eq (d : Decimal) :
    d.point = ((Nat.toDigits 10 d.digits).length : ℤ) + d.exponent := by
  unfold point
  by_cases hd : d.digits = 0
  · obtain hnormal | ⟨-, hexponent⟩ := d.normal
    · exact absurd (by rw [hd]) hnormal
    · rw [if_pos hd, hd, hexponent]
      rfl
  · rw [if_neg hd]

/-- The point stands behind the first digit that counts. -/
theorem zpow_point_le_value (hd : d.digits ≠ 0) : (10 : ℚ) ^ (d.point - 1) ≤ d.value := by
  obtain ⟨n, hlength⟩ : ∃ n, (Nat.toDigits 10 d.digits).length = n + 1 :=
    Nat.exists_eq_succ_of_ne_zero Nat.length_toDigits_pos.ne'
  have hlow : 10 ^ n ≤ d.digits := by
    by_contra hlt
    -- A lone digit is no smaller than one; with more of them a smaller number would be shorter.
    by_cases hn : n = 0
    · rw [hn] at hlt
      omega
    · have := (Nat.length_toDigits_le_iff (by decide) (Nat.pos_of_ne_zero hn)).mpr (not_le.mp hlt)
      omega
  have hexponent : d.point - 1 = n + d.exponent := by
    rw [point_eq, hlength]
    omega
  rw [hexponent, zpow_add₀ (by norm_num), zpow_natCast, value]
  exact mul_le_mul_of_nonneg_right (by exact_mod_cast hlow) (by positivity)

theorem value_lt_zpow_point (d : Decimal) : d.value < (10 : ℚ) ^ d.point := by
  have hlt : d.digits < 10 ^ (Nat.toDigits 10 d.digits).length :=
    (Nat.length_toDigits_le_iff (by decide) Nat.length_toDigits_pos).mp le_rfl
  rw [point_eq, zpow_add₀ (by norm_num), zpow_natCast, value]
  exact mul_lt_mul_of_pos_right (by exact_mod_cast hlt) (by positivity)

end Decimal

namespace Fractional

open Binary (IsKept)

/-- A decimal number is rounded as the quotient that it is. -/
theorem exists_quotient {d : Decimal} (hd : d.digits ≠ 0) :
    ∃ num den : Nat, num ≠ 0 ∧ den ≠ 0 ∧ (num : ℚ) / den = d.value ∧
      nearest? d = Binary.nearest? num den := by
  unfold nearest? Decimal.value
  cases d.exponent with
  | ofNat n =>
    refine ⟨d.digits * 10 ^ n, 1, Nat.mul_ne_zero hd (pow_ne_zero n (by decide)), one_ne_zero, ?_,
      rfl⟩
    rw [Nat.cast_one, div_one, Int.ofNat_eq_natCast, zpow_natCast, Nat.cast_mul, Nat.cast_pow,
      Nat.cast_ofNat]
  | negSucc n =>
    refine ⟨d.digits, 10 ^ (n + 1), hd, pow_ne_zero (n + 1) (by decide), ?_, rfl⟩
    rw [zpow_negSucc, Nat.cast_pow, Nat.cast_ofNat, div_eq_mul_inv]

/-- Numbers of fixed precision have their point within bounds. -/
theorem point_bounds {b : Binary} {d : Decimal} (hb : b.IsKept) (hne : b.mantissa ≠ 0)
    (hd : d.digits ≠ 0) (h : b.Reaches (d.value / (2 : ℚ) ^ b.exponent)) :
    zeroPoint < d.point ∧ d.point < infinitePoint := by
  have hleast := hb.least
  have hgreatest := hb.greatest
  unfold Binary.leastExponent at hleast
  unfold Binary.greatestExponent at hgreatest
  have hone : (1 : ℚ) ≤ b.mantissa := by exact_mod_cast Nat.one_le_iff_ne_zero.mpr hne
  have hfits : (b.mantissa : ℚ) + 1 ≤ 2 ^ 53 := by exact_mod_cast hb.fits
  have hunit : (0 : ℚ) < (2 : ℚ) ^ b.exponent := by positivity
  have hlow : (1 / 2 : ℚ) ≤ d.value / (2 : ℚ) ^ b.exponent := by linarith [h.half_below hne]
  have hhigh : d.value / (2 : ℚ) ^ b.exponent < 2 ^ 53 := by linarith [h.half_above]
  rw [le_div_iff₀ hunit] at hlow
  rw [div_lt_iff₀ hunit] at hhigh
  constructor
  · have hlt : (10 : ℚ) ^ zeroPoint < (10 : ℚ) ^ d.point :=
      calc (10 : ℚ) ^ zeroPoint ≤ (2 : ℚ) ^ (b.exponent - 1) :=
            Binary.ten_zpow_le_two_zpow (fun h => absurd h (by decide)) (by unfold zeroPoint; omega)
        _ = 1 / 2 * (2 : ℚ) ^ b.exponent := by rw [zpow_sub_one₀ two_ne_zero]; ring
        _ ≤ d.value := hlow
        _ < (10 : ℚ) ^ d.point := Decimal.value_lt_zpow_point d
    exact (zpow_lt_zpow_iff_right₀ (by norm_num)).mp hlt
  · have hlt : (10 : ℚ) ^ (d.point - 1) < (10 : ℚ) ^ (309 : ℤ) :=
      calc (10 : ℚ) ^ (d.point - 1) ≤ d.value := Decimal.zpow_point_le_value hd
        _ < 2 ^ 53 * (2 : ℚ) ^ b.exponent := hhigh
        _ = (2 : ℚ) ^ (53 + b.exponent) := by rw [zpow_add₀ two_ne_zero]; norm_cast
        _ ≤ (10 : ℚ) ^ 309 := Binary.two_zpow_le_ten_pow (by omega)
        _ = (10 : ℚ) ^ (309 : ℤ) := (zpow_ofNat (10 : ℚ) 309).symm
    have := (zpow_lt_zpow_iff_right₀ (by norm_num)).mp hlt
    unfold infinitePoint
    omega

/-- The shortest decimal number is kept as it is. -/
theorem ofDecimal_shortest {b : Binary} (hb : b.IsKept) (hne : b.mantissa ≠ 0) (negative : Bool) :
    ofDecimal (b.shortest negative) = finite (b.shortest negative) := by
  obtain ⟨hsign, hdigits, hreaches⟩ := Binary.shortest_spec hb hne negative
  obtain ⟨num, den, hnum, hden, hvalue, hnearest⟩ := exists_quotient hdigits
  have hpoint := point_bounds hb hne hdigits hreaches
  have hsome : nearest? (b.shortest negative) = some b := by
    rw [hnearest]
    exact Binary.nearest?_of_reaches hb hne hnum hden (hvalue ▸ hreaches)
  unfold ofDecimal
  rw [if_neg hdigits, if_neg (not_le.mpr hpoint.2), if_neg (not_le.mpr hpoint.1), hsome, hsign]

/-- **What is kept of a number is kept as it is.** -/
theorem ofDecimal_eq_self {d e : Decimal} (h : ofDecimal e = finite d) :
    ofDecimal d = finite d := by
  have hzero (negative : Bool) :
      ofDecimal (.ofParts negative 0 0) = finite (.ofParts negative 0 0) := by
    cases negative <;> rfl
  unfold ofDecimal at h
  split at h
  next hdigits =>
    obtain rfl := finite.inj h
    exact if_pos hdigits
  next hdigits =>
    split at h
    next => exact absurd h (by simp)
    next =>
      split at h
      next => exact finite.inj h ▸ hzero e.negative
      next =>
        split at h
        next b hb =>
          obtain rfl := finite.inj h
          obtain ⟨num, den, hnum, hden, -, hnearest⟩ := exists_quotient hdigits
          have hkept := Binary.isKept_of_nearest? hnum hden (hnearest.symm.trans hb)
          by_cases hne : b.mantissa = 0
          · rw [Binary.shortest, if_pos hne]
            exact hzero e.negative
          · exact ofDecimal_shortest hkept hne e.negative
        next => exact absurd h (by simp)

end Fractional

end ScriptingBindings
