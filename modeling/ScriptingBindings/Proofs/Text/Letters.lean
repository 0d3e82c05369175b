/-
  ScriptingBindings.Proofs.Text.Letters
  ──────────────────────────────────
  **LETTER CASE AND COMBINING MARKS.**

  A letter or number keeps to letters and numbers in upper and lower case, but
  for few characters whose image is spelled with a combining mark, which is no
  word character:

      lower İ  =  i, U+0307
      upper ǰ  =  J, U+030C

  The case tables are compared with the table of letters and numbers run by
  run: the letters and numbers that a run moves lead into their own set.
-/
import ScriptingBindings.Proofs.Text.CodePoints

namespace ScriptingBindings.Text

variable {n : Nat}

/-! ## §1. Where letters and numbers lead. -/

theorem isAlphanumeric_ofNat (h : inRanges alphanumericRanges n = true) :
    isAlphanumeric (Char.ofNat n) = true := by
  rwa [isAlphanumeric, isTable_alphanumericRanges.toNat_ofNat h]

/-- The letters and numbers that a run moves lead to letters and numbers. -/
theorem shifted_alphanumericRanges : ∀ runs ∈ [lowerRuns, upperRuns], ∀ r ∈ runs,
    shifted (r.sources &&& setOfRanges alphanumericRanges) r.delta
      ||| setOfRanges alphanumericRanges = setOfRanges alphanumericRanges := by
  decide +kernel

/-- A letter or number is moved to one. -/
theorem isAlphanumeric_ofNat_moved {runs : List CaseRun} (hmem : runs ∈ [lowerRuns, upperRuns])
    {r : CaseRun} (hr : r ∈ runs) {c : Char} (hmoves : r.Moves c.toNat)
    (hc : isAlphanumeric c = true) :
    isAlphanumeric (Char.ofNat (c.toNat + r.delta).toNat) = true := by
  have hproper := (areFit_tables.2 runs hmem).proper r hr
  rw [isAlphanumeric, isTable_alphanumericRanges.inRanges_iff_testBit] at hc
  refine isAlphanumeric_ofNat ?_
  rw [isTable_alphanumericRanges.inRanges_iff_testBit]
  refine testBit_of_or_eq (shifted_alphanumericRanges runs hmem r hr)
    (hproper.testBit_shifted hmoves ?_)
  rw [Nat.testBit_and, hproper.testBit_sources.mpr hmoves, hc, Bool.and_self]

/-! ## §2. Images with a mark. -/

/-- The capital letter whose lower case is spelled with a combining mark. -/
def dottedCapital : Char := 'İ'

/-- The small letters whose upper case is spelled with combining marks. -/
def markedSmalls : List Nat :=
  [0x1F0, 0x390, 0x3B0, 0x1E96, 0x1E97, 0x1E98, 0x1E99, 0x1F50, 0x1F52, 0x1F54, 0x1F56, 0x1FB6,
   0x1FB7, 0x1FC6, 0x1FC7, 0x1FD2, 0x1FD3, 0x1FD6, 0x1FD7, 0x1FE2, 0x1FE3, 0x1FE4, 0x1FE6,
   0x1FE7, 0x1FF6, 0x1FF7]

/-- A letter or number is a word character. -/
theorem isWordChar_of_isAlphanumeric {c : Char} (h : isAlphanumeric c = true) :
    isWordChar c = true := by
  rw [isWordChar, h, Bool.true_or]

/-- A letter or number is mapped to word characters, if those are listed for it. -/
theorem IsImage.forall_isWordChar {expansions : List (Nat × List Nat)} {runs : List CaseRun}
    {c : Char} {image : List Char} (h : IsImage expansions runs c image)
    (hmem : runs ∈ [lowerRuns, upperRuns]) (hc : isAlphanumeric c = true)
    (hlisted : ∀ e ∈ expansions, e.1 = c.toNat → ∀ n ∈ e.2,
      inRanges alphanumericRanges n = true) :
    ∀ d ∈ image, isWordChar d = true := by
  intro d hd
  refine isWordChar_of_isAlphanumeric ?_
  cases h with
  | @listed e he hkey himage =>
    rw [himage, List.mem_map] at hd
    obtain ⟨n, hn, rfl⟩ := hd
    exact isAlphanumeric_ofNat (hlisted e he hkey n hn)
  | moved hr hmoves himage =>
    rw [himage, List.mem_singleton] at hd
    rw [hd]
    exact isAlphanumeric_ofNat_moved hmem hr hmoves hc
  | kept _ _ himage =>
    rw [himage, List.mem_singleton] at hd
    rwa [hd]

/-- **The upper case of a letter or number is of word characters**, unless the letter is one
of those that are spelled with marks. -/
theorem all_isWordChar_upperOf_iff {c : Char} (hc : isAlphanumeric c = true) :
    (∀ d ∈ upperOf c, isWordChar d = true) ↔ c.toNat ∉ markedSmalls := by
  have hmarked : ∀ n ∈ markedSmalls,
      (expansion? upperExpansions n).any (fun image => !image.all isWordChar) = true := by
    decide +kernel
  have hplain : ∀ e ∈ upperExpansions, e.1 ∉ markedSmalls → ∀ n ∈ e.2,
      (setOfRanges alphanumericRanges).testBit n = true := by
    decide +kernel
  constructor
  · intro hall hmem
    obtain ⟨image, himage, hany⟩ := (Option.any_eq_true _ _).mp (hmarked c.toNat hmem)
    rw [upperOf, himage] at hall
    rw [List.all_eq_true.mpr hall] at hany
    exact absurd hany (by decide)
  · intro hmem
    refine (isImage_upperOf c).forall_isWordChar (by simp) hc ?_
    intro e he hkey n hn
    exact isTable_alphanumericRanges.inRanges_iff_testBit.mpr (hplain e he (hkey ▸ hmem) n hn)

/-- The lower case of a letter or number is of word characters, unless the letter is the
capital I with a dot. -/
theorem all_isWordChar_lowerIn_iff {c : Char} (hc : isAlphanumeric c = true)
    (before after : List Char) :
    (∀ d ∈ lowerIn before c after, isWordChar d = true) ↔ c ≠ dottedCapital := by
  constructor
  · rintro hall rfl
    have hmark : Char.ofNat 0x307 ∈ lowerIn before dottedCapital after := by
      show _ ∈ lowerOf dottedCapital
      decide
    exact absurd (hall _ hmark) (by decide)
  · intro hne
    have hkeys : ∀ e ∈ lowerExpansions, e.1 = dottedCapital.toNat := by decide
    rcases isImage_lowerIn before c after with h | h | himage
    -- Both small sigmas are letters.
    · rw [h, List.forall_mem_singleton]
      decide
    · rw [h, List.forall_mem_singleton]
      decide
    · refine himage.forall_isWordChar (by simp) hc ?_
      intro e he hkey
      exact absurd (Char.toNat_inj.mp (hkey.symm.trans (hkeys e he))) hne

/-- **Letters and numbers in lower case are word characters** exactly if no capital I with a
dot is among them. -/
theorem all_isWordChar_lowerAfter_iff (before : List Char) {s : List Char}
    (hs : ∀ c ∈ s, isAlphanumeric c = true) :
    (∀ d ∈ lowerAfter before s, isWordChar d = true) ↔ dottedCapital ∉ s := by
  induction s generalizing before with
  | nil => simp [lowerAfter]
  | cons c s ih =>
    obtain ⟨hc, hs⟩ := List.forall_mem_cons.mp hs
    rw [lowerAfter, List.forall_mem_append, all_isWordChar_lowerIn_iff hc, ih (c :: before) hs,
      List.mem_cons, not_or]
    exact and_congr_left' ne_comm

/-! ## §3. Digits. -/

/-- A decimal digit is a digit. -/
theorem isDigit_of_isDecimal {c : Char} (h : isDecimal c = true) : isDigit c = true := by
  have hsubset : setOfRanges decimalRanges ||| setOfRanges digitRanges = setOfRanges digitRanges := by
    decide
  rw [isDigit, isTable_digitRanges.inRanges_iff_testBit]
  exact testBit_of_or_eq hsubset (isTable_decimalRanges.inRanges_iff_testBit.mp h)

end ScriptingBindings.Text
