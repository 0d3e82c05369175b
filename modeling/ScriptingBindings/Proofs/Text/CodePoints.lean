/-
  ScriptingBindings.Proofs.Text.CodePoints
  ──────────────────────────────────
  **SETS OF CODE POINTS AS NUMBERS.**

  A set of code points is the number that has a bit for each of them.  That of
  a range or a run has a closed form, and where a run leads is a shift:

      U+0041, U+0042, … U+005A     (2 ^ 26 - 1) <<< 0x41
      U+0101, U+0103, … U+012F     (2 ^ 48 - 1) / (2 ^ 2 - 1) <<< 0x101

  So a fact on the tables of letters and of letter case takes a few operations
  on numbers for each range or run of a table, and none for a single code
  point.
-/
import Mathlib.Data.List.DropRight
import Mathlib.Data.Nat.Bitwise
import ScriptingBindings.Proofs.Text.Casing
import ScriptingBindings.Text.Alphanumeric
import ScriptingBindings.Text.Digit

namespace ScriptingBindings.Text

variable {n m : Nat}

/-! ## §1. Sets. -/

/-- The union of the sets that items stand for. -/
def union {α : Type} (set : α → Nat) (items : List α) : Nat :=
  items.foldr (fun a rest => set a ||| rest) 0

theorem testBit_union {α : Type} {set : α → Nat} {items : List α} :
    (union set items).testBit n = true ↔ ∃ a ∈ items, (set a).testBit n = true := by
  induction items with
  | nil => simp [union]
  | cons a items ih =>
    show (set a ||| union set items).testBit n = true ↔ _
    rw [Nat.testBit_or, Bool.or_eq_true, ih, List.exists_mem_cons_iff]

theorem testBit_of_or_eq {set other : Nat} (h : set ||| other = other)
    (hn : set.testBit n = true) : other.testBit n = true := by
  rw [← h, Nat.testBit_or, hn, Bool.true_or]

theorem testBit_of_and_eq_zero {set other : Nat} (h : set &&& other = 0)
    (hn : set.testBit n = true) : other.testBit n = false := by
  have hboth := Nat.testBit_and set other n
  rwa [h, Nat.zero_testBit, hn, Bool.true_and, eq_comm] at hboth

/-! ## §2. Ranges. -/

/-- The set of the code points in a closed range. -/
def setOfRange (r : Nat × Nat) : Nat :=
  (2 ^ (r.2 + 1 - r.1) - 1) <<< r.1

theorem testBit_setOfRange {r : Nat × Nat} :
    (setOfRange r).testBit n = true ↔ r.1 ≤ n ∧ n ≤ r.2 := by
  rw [setOfRange, Nat.testBit_shiftLeft, Nat.testBit_two_pow_sub_one, Bool.and_eq_true,
    decide_eq_true_eq, decide_eq_true_eq]
  omega

variable {table : List (Nat × Nat)}

theorem exists_mem_of_inRanges (h : inRanges table n = true) :
    ∃ r ∈ table, r.1 ≤ n ∧ n ≤ r.2 := by
  induction table with
  | nil => exact absurd h Bool.false_ne_true
  | cons r table ih =>
    rw [inRanges, Bool.and_eq_true, Bool.or_eq_true, decide_eq_true_eq, decide_eq_true_eq] at h
    rcases h with ⟨hfirst, hlast | hrest⟩
    · exact ⟨r, List.mem_cons_self, hfirst, hlast⟩
    · obtain ⟨q, hq, hn⟩ := ih hrest
      exact ⟨q, List.mem_cons_of_mem r hq, hn⟩

/-- Ranges in ascending order, of numbers of characters. -/
structure IsTable (table : List (Nat × Nat)) : Prop where
  ascending : (table.map Prod.fst).IsChain (· ≤ ·)
  valid : ∀ r ∈ table, r.2 < 0xD800 ∨ 0xDFFF < r.1 ∧ r.2 < 0x110000

instance : Decidable (IsTable table) :=
  decidable_of_iff (_ ∧ _) ⟨fun h => ⟨h.1, h.2⟩, fun h => ⟨h.ascending, h.valid⟩⟩

theorem IsTable.toNat_ofNat (htable : IsTable table) (h : inRanges table n = true) :
    (Char.ofNat n).toNat = n := by
  obtain ⟨r, hr, hfirst, hlast⟩ := exists_mem_of_inRanges h
  have hvalid := htable.valid r hr
  refine Text.toNat_ofNat ?_
  rw [Nat.isValidChar]
  omega

/-- In an ascending table the search does not stop too early. -/
theorem inRanges_of_mem (htable : (table.map Prod.fst).IsChain (· ≤ ·)) {r : Nat × Nat}
    (hr : r ∈ table) (hfirst : r.1 ≤ n) (hlast : n ≤ r.2) : inRanges table n = true := by
  rw [List.isChain_iff_pairwise] at htable
  induction table with
  | nil => exact absurd hr List.not_mem_nil
  | cons q table ih =>
    rw [List.map_cons, List.pairwise_cons] at htable
    rw [inRanges, Bool.and_eq_true, Bool.or_eq_true, decide_eq_true_eq, decide_eq_true_eq]
    rcases List.mem_cons.mp hr with rfl | hr
    · exact ⟨hfirst, .inl hlast⟩
    · exact ⟨(htable.1 r.1 (List.mem_map_of_mem hr)).trans hfirst, .inr (ih htable.2 hr)⟩

/-- The set of the code points in the ranges of a table. -/
def setOfRanges (table : List (Nat × Nat)) : Nat :=
  union setOfRange table

/-- **A table finds the code points of its set.** -/
theorem IsTable.inRanges_iff_testBit (htable : IsTable table) :
    inRanges table n = true ↔ (setOfRanges table).testBit n = true := by
  rw [setOfRanges, testBit_union]
  constructor
  · intro h
    obtain ⟨r, hr, hn⟩ := exists_mem_of_inRanges h
    exact ⟨r, hr, testBit_setOfRange.mpr hn⟩
  · rintro ⟨r, hr, hn⟩
    obtain ⟨hfirst, hlast⟩ := testBit_setOfRange.mp hn
    exact inRanges_of_mem htable.ascending hr hfirst hlast

/-! ## §3. Runs. -/

/-- The set of the first multiples of a step. -/
def multiples (step count : Nat) : Nat :=
  (2 ^ (step * count) - 1) / (2 ^ step - 1)

theorem multiples_succ {step : Nat} (h : 0 < step) (count : Nat) :
    multiples step (count + 1) = 2 ^ (step * count) ||| multiples step count := by
  have hbase : 1 < 2 ^ step := Nat.one_lt_two_pow (by omega)
  have hpos : 1 ≤ 2 ^ (step * count) := Nat.one_le_two_pow
  -- The geometric sum: its last term is the power that the step adds.
  have hsum : 2 ^ (step * (count + 1)) - 1
      = (2 ^ (step * count) - 1) + 2 ^ (step * count) * (2 ^ step - 1) := by
    rw [Nat.mul_succ, Nat.pow_add, Nat.mul_sub_one]
    have hle := Nat.le_mul_of_pos_right (2 ^ (step * count)) (Nat.two_pow_pos step)
    omega
  have hlt : multiples step count < 2 ^ (step * count) :=
    (Nat.div_le_self _ _).trans_lt (Nat.sub_lt hpos Nat.one_pos)
  have hor := Nat.two_pow_add_eq_or_of_lt hlt 1
  rw [Nat.mul_one] at hor
  rw [← hor, multiples, hsum, Nat.add_mul_div_right _ _ (by omega), Nat.add_comm, multiples]

theorem testBit_multiples {step : Nat} (h : 0 < step) {count : Nat} :
    (multiples step count).testBit n = true ↔ ∃ k < count, step * k = n := by
  induction count with
  | zero => simp [multiples]
  | succ count ih =>
    rw [multiples_succ h, Nat.testBit_or, Bool.or_eq_true, ih, Nat.testBit_two_pow,
      decide_eq_true_eq, Nat.exists_lt_succ_right, or_comm]

/-- A run moves its code points by whole steps, to other ones that are the numbers of
characters. -/
structure CaseRun.IsProper (r : CaseRun) : Prop where
  step_pos : 0 < r.step
  first_le_last : r.first ≤ r.last
  delta_ne_zero : r.delta ≠ 0
  moved_pos : 0 < r.first + r.delta
  valid : r.last + r.delta < 0xD800 ∨ 0xDFFF < r.first + r.delta ∧ r.last + r.delta < 0x110000

instance (r : CaseRun) : Decidable r.IsProper :=
  decidable_of_iff (_ ∧ _ ∧ _ ∧ _ ∧ _)
    ⟨fun h => ⟨h.1, h.2.1, h.2.2.1, h.2.2.2.1, h.2.2.2.2⟩, fun h => ⟨h.1, h.2, h.3, h.4, h.5⟩⟩

/-- The set of the code points that a run moves. -/
def CaseRun.sources (r : CaseRun) : Nat :=
  multiples r.step ((r.last - r.first) / r.step + 1) <<< r.first

/-- The set that the code points of a set move to. -/
def shifted (set : Nat) : Int → Nat
  | .ofNat k => set <<< k
  | .negSucc k => set >>> (k + 1)

theorem testBit_shifted {set : Nat} {delta : Int} (hn : set.testBit n = true)
    (hpos : 0 ≤ n + delta) : (shifted set delta).testBit (n + delta).toNat = true := by
  cases delta with
  | ofNat k =>
    show (set <<< k).testBit ((n + k : Int)).toNat = true
    rw [← Int.natCast_add, Int.toNat_natCast, Nat.testBit_shiftLeft, Nat.add_sub_cancel, hn,
      Bool.and_true, decide_eq_true_eq]
    exact Nat.le_add_left k n
  | negSucc k =>
    have hmoved : k + 1 + ((n : Int) + .negSucc k).toNat = n := by omega
    rw [shifted, Nat.testBit_shiftRight, hmoved, hn]

namespace CaseRun.IsProper

variable {r : CaseRun}

theorem testBit_sources (hr : r.IsProper) : r.sources.testBit n = true ↔ r.Moves n := by
  rw [sources, Nat.testBit_shiftLeft, Bool.and_eq_true, decide_eq_true_eq,
    testBit_multiples hr.step_pos]
  constructor
  · rintro ⟨hfirst, k, hk, hn⟩
    have hlast := Nat.mul_div_le (r.last - r.first) r.step
    have hbound := Nat.mul_le_mul_left r.step (Nat.le_of_lt_succ hk)
    have hle := hr.first_le_last
    exact ⟨hfirst, by omega, hn ▸ Nat.mul_mod_right r.step k⟩
  · rintro ⟨hfirst, hlast, hmod⟩
    refine ⟨hfirst, (n - r.first) / r.step, ?_, Nat.mul_div_cancel' (Nat.dvd_of_mod_eq_zero hmod)⟩
    exact Nat.lt_succ_of_le (Nat.div_le_div_right (by omega))

/-- Where a run leads from a set is in the shifted set. -/
theorem testBit_shifted (hr : r.IsProper) (hn : r.Moves n) {set : Nat}
    (hset : set.testBit n = true) : (shifted set r.delta).testBit (n + r.delta).toNat = true := by
  refine Text.testBit_shifted hset ?_
  have hfirst := hn.first_le
  have hpos := hr.moved_pos
  omega

/-- A run leads to the number of a character, and another one. -/
theorem toNat_ofNat (hr : r.IsProper) (hn : r.Moves n) :
    (Char.ofNat (n + r.delta).toNat).toNat = (n + r.delta).toNat ∧ (n + r.delta).toNat ≠ n := by
  obtain ⟨hfirst, hlast, -⟩ := hn
  obtain ⟨-, -, hmoved, hpos, hvalid⟩ := hr
  refine ⟨Text.toNat_ofNat ?_, by omega⟩
  rw [Nat.isValidChar]
  omega

end CaseRun.IsProper

/-- Proper runs in ascending order. -/
structure AreRuns (runs : List CaseRun) : Prop where
  ascending : (runs.map CaseRun.first).IsChain (· ≤ ·)
  proper : ∀ r ∈ runs, r.IsProper

instance (runs : List CaseRun) : Decidable (AreRuns runs) :=
  decidable_of_iff (_ ∧ _) ⟨fun h => ⟨h.1, h.2⟩, fun h => ⟨h.ascending, h.proper⟩⟩

/-- Ascending runs move what one of them moves. -/
theorem exists_shift?_of_mem {runs : List CaseRun}
    (hruns : (runs.map CaseRun.first).IsChain (· ≤ ·)) {r : CaseRun} (hr : r ∈ runs)
    (hn : r.Moves n) : ∃ m, shift? runs n = some m := by
  rw [List.isChain_iff_pairwise] at hruns
  induction runs with
  | nil => exact absurd hr List.not_mem_nil
  | cons q runs ih =>
    rw [List.map_cons, List.pairwise_cons] at hruns
    have hfirst : q.first ≤ n := by
      rcases List.mem_cons.mp hr with rfl | hr
      · exact hn.first_le
      · exact (hruns.1 r.first (List.mem_map_of_mem hr)).trans hn.first_le
    unfold shift?
    rw [if_neg (Nat.not_lt.mpr hfirst)]
    split
    next => exact ⟨_, rfl⟩
    next hheld =>
      rcases List.mem_cons.mp hr with rfl | hr
      · -- The run itself moves the code point.
        rw [hn.mod_eq_zero, decide_eq_true hn.le_last] at hheld
        exact absurd rfl hheld
      · exact ih hruns.2 hr

/-! ## §4. The tables at hand. -/

/-- **The tables of letters, digits and letter case are fit.** -/
theorem areFit_tables : (∀ table ∈ [alphanumericRanges, digitRanges, decimalRanges], IsTable table) ∧
    ∀ runs ∈ [lowerRuns, upperRuns], AreRuns runs := by
  decide +kernel

theorem isTable_alphanumericRanges : IsTable alphanumericRanges :=
  areFit_tables.1 _ (by simp)

theorem isTable_digitRanges : IsTable digitRanges :=
  areFit_tables.1 _ (by simp)

theorem isTable_decimalRanges : IsTable decimalRanges :=
  areFit_tables.1 _ (by simp)

theorem areRuns_lowerRuns : AreRuns lowerRuns :=
  areFit_tables.2 _ (by simp)

theorem areRuns_upperRuns : AreRuns upperRuns :=
  areFit_tables.2 _ (by simp)

end ScriptingBindings.Text
