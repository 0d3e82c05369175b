/-
  ScriptingBindings.Proofs.Text.Casing
  ──────────────────────────────────
  **LETTERS OF ASCII.**

  No character has an upper case that starts with a small letter of ASCII, and
  the lower case of a capital of ASCII is one small letter.  Nothing else is
  lowered into ASCII but the sign of the unit Kelvin and the start of a capital
  I with a dot.  All of this is read off the tables, run by run.
-/
import Mathlib.Data.List.Basic
import ScriptingBindings.Text.Casing

namespace ScriptingBindings.Text

/-! ## §1. What the tables give. -/

theorem exists_mem_of_expansion? {table : List (Nat × List Nat)} {n : Nat} {image : List Char}
    (h : expansion? table n = some image) :
    ∃ e ∈ table, e.1 = n ∧ e.2.map Char.ofNat = image := by
  induction table with
  | nil => exact absurd h (by simp [expansion?])
  | cons e table ih =>
    unfold expansion? at h
    split at h
    next hkey => exact ⟨e, List.mem_cons_self, eq_of_beq hkey, Option.some.inj h⟩
    next =>
      obtain ⟨e', he', himage⟩ := ih h
      exact ⟨e', List.mem_cons_of_mem e he', himage⟩

/-- A run moves a code point: a whole number of steps leads from its first one to it. -/
structure CaseRun.Moves (r : CaseRun) (n : Nat) : Prop where
  first_le : r.first ≤ n
  le_last : n ≤ r.last
  mod_eq_zero : (n - r.first) % r.step = 0

theorem exists_run_of_shift? {runs : List CaseRun} {n m : Nat} (h : shift? runs n = some m) :
    ∃ r ∈ runs, r.Moves n ∧ m = (n + r.delta).toNat := by
  induction runs with
  | nil => exact absurd h (by simp [shift?])
  | cons r runs ih =>
    unfold shift? at h
    split at h
    next => exact absurd h (by simp)
    next hfirst =>
      split at h
      next hheld =>
        rw [Bool.and_eq_true, decide_eq_true_eq, beq_iff_eq] at hheld
        exact ⟨r, List.mem_cons_self, ⟨Nat.not_lt.mp hfirst, hheld.1, hheld.2⟩,
          (Option.some.inj h).symm⟩
      next =>
        obtain ⟨r', hr', hn⟩ := ih h
        exact ⟨r', List.mem_cons_of_mem r hr', hn⟩

/-- What a character is mapped to: it is listed, a run moves it, or it is kept. -/
inductive IsImage (expansions : List (Nat × List Nat)) (runs : List CaseRun) (c : Char)
    (image : List Char) : Prop
  | listed {e : Nat × List Nat} (he : e ∈ expansions) (hkey : e.1 = c.toNat)
      (himage : image = e.2.map Char.ofNat)
  | moved {r : CaseRun} (hr : r ∈ runs) (hmoves : r.Moves c.toNat)
      (himage : image = [Char.ofNat (c.toNat + r.delta).toNat])
  | kept (hlisted : expansion? expansions c.toNat = none) (hmoved : shift? runs c.toNat = none)
      (himage : image = [c])

theorem isImage_match (expansions : List (Nat × List Nat)) (runs : List CaseRun) (c : Char) :
    IsImage expansions runs c
      (match expansion? expansions c.toNat with
      | some image => image
      | none => [Char.ofNat ((shift? runs c.toNat).getD c.toNat)]) := by
  split
  next image himage =>
    obtain ⟨e, he, hkey, rfl⟩ := exists_mem_of_expansion? himage
    exact .listed he hkey rfl
  next hlisted =>
    cases hshift : shift? runs c.toNat with
    | none =>
      rw [Option.getD_none, Char.ofNat_toNat]
      exact .kept hlisted hshift rfl
    | some n =>
      obtain ⟨r, hr, hmoves, rfl⟩ := exists_run_of_shift? hshift
      exact .moved hr hmoves rfl

/-- The upper case of a character is its image. -/
theorem isImage_upperOf (c : Char) : IsImage upperExpansions upperRuns c (upperOf c) :=
  isImage_match upperExpansions upperRuns c

/-- The lower case of a character is its image, or one of the small sigmas. -/
theorem isImage_lowerIn (before : List Char) (c : Char) (after : List Char) :
    lowerIn before c after = ['ς'] ∨ lowerIn before c after = ['σ'] ∨
      IsImage lowerExpansions lowerRuns c (lowerIn before c after) := by
  unfold lowerIn
  split
  next =>
    split
    next => exact .inl rfl
    next => exact .inr (.inl rfl)
  next => exact .inr (.inr (isImage_match lowerExpansions lowerRuns c))

/-! ## §2. Small letters. -/

/-- The small letters are the 26 of ASCII. -/
theorem isLower_iff (c : Char) : c.isLower = true ↔ 97 ≤ c.toNat ∧ c.toNat ≤ 122 := by
  show (decide (97 ≤ c.val) && decide (c.val ≤ 122)) = true ↔ _
  rw [Bool.and_eq_true, decide_eq_true_eq, decide_eq_true_eq, UInt32.le_iff_toNat_le,
    UInt32.le_iff_toNat_le]
  rfl

/-- The capitals are those of ASCII, too. -/
theorem isUpper_iff (c : Char) : c.isUpper = true ↔ 65 ≤ c.toNat ∧ c.toNat ≤ 90 := by
  show decide (65 ≤ c.val ∧ c.val ≤ 90) = true ↔ _
  rw [decide_eq_true_eq, UInt32.le_iff_toNat_le, UInt32.le_iff_toNat_le]
  rfl

theorem isLower_eq_false_of_isUpper {c : Char} (h : c.isUpper = true) : c.isLower = false := by
  rw [Bool.eq_false_iff]
  intro hlower
  rw [isUpper_iff] at h
  rw [isLower_iff] at hlower
  omega

theorem toNat_ofNat {n : Nat} (h : n.isValidChar) : (Char.ofNat n).toNat = n :=
  congrArg Char.toNat (dif_pos h)

/-- A number that is no code point stands for the character with number 0. -/
theorem toNat_ofNat_of_not {n : Nat} (h : ¬ n.isValidChar) : (Char.ofNat n).toNat = 0 :=
  congrArg Char.toNat (dif_neg h)

theorem not_isLower_ofNat {n : Nat} (h : n < 97 ∨ 122 < n) : (Char.ofNat n).isLower = false := by
  rw [Bool.eq_false_iff]
  intro hlower
  rw [isLower_iff] at hlower
  by_cases hvalid : n.isValidChar
  · rw [toNat_ofNat hvalid] at hlower
    omega
  · rw [toNat_ofNat_of_not hvalid] at hlower
    omega

/-- A text that does not start with a small letter. -/
def StartsTall (s : List Char) : Prop :=
  ∀ c ∈ s.head?, c.isLower = false

instance (s : List Char) : Decidable (StartsTall s) :=
  decidable_of_iff (s.head?.all (fun c => !c.isLower) = true) (by
    simp only [Option.all_eq_true, Bool.not_eq_true', StartsTall, Option.mem_def])

section Starts

variable {P : Char → Prop}

theorem forall_head?_append {s t : List Char} (hs : ∀ c ∈ s.head?, P c) (ht : ∀ c ∈ t.head?, P c) :
    ∀ c ∈ (s ++ t).head?, P c := by
  cases s with
  | nil => exact ht
  | cons c s => exact hs

theorem forall_head?_append_of_ne_nil {s : List Char} (hs : ∀ c ∈ s.head?, P c) (hne : s ≠ [])
    (t : List Char) : ∀ c ∈ (s ++ t).head?, P c := by
  rwa [List.head?_append_of_ne_nil _ hne]

theorem forall_head?_flatMap {α : Type} {f : α → List Char} (h : ∀ a, ∀ c ∈ (f a).head?, P c)
    (as : List α) : ∀ c ∈ (as.flatMap f).head?, P c := by
  induction as with
  | nil => exact fun c hc => absurd hc (Option.not_mem_none c)
  | cons a as ih =>
    rw [List.flatMap_cons]
    exact forall_head?_append (h a) ih

end Starts

/-! ## §3. Upper and lower case. -/

theorem upperOf_ne_nil (c : Char) : upperOf c ≠ [] := by
  have htable : ∀ e ∈ upperExpansions, e.2.map Char.ofNat ≠ [] := by decide
  cases isImage_upperOf c with
  | listed he _ himage => exact himage ▸ htable _ he
  | moved _ _ himage => exact himage ▸ List.cons_ne_nil _ _
  | kept _ _ himage => exact himage ▸ List.cons_ne_nil _ _

/-- **No upper case starts with a small letter.** -/
theorem startsTall_upperOf (c : Char) : StartsTall (upperOf c) := by
  have hexpansions : ∀ e ∈ upperExpansions, StartsTall (e.2.map Char.ofNat) := by decide
  have hruns : ∀ r ∈ upperRuns, (r.last : Int) + r.delta < 97 ∨ 122 < (r.first : Int) + r.delta := by
    decide +kernel
  -- The small letters themselves are shifted away.
  have hsmall : ∀ n ∈ List.range' 97 26, shift? upperRuns n ≠ none := by decide
  intro d hd
  cases isImage_upperOf c with
  | listed he _ himage =>
    rw [himage] at hd
    exact hexpansions _ he d hd
  | moved hr hmoves himage =>
    rw [himage, List.head?_cons, Option.mem_some_iff] at hd
    rw [← hd]
    refine not_isLower_ofNat ?_
    have hout := hruns _ hr
    have hfirst := hmoves.first_le
    have hlast := hmoves.le_last
    omega
  | kept _ hmoved himage =>
    rw [himage, List.head?_cons, Option.mem_some_iff] at hd
    rw [← hd, Bool.eq_false_iff]
    intro hlower
    rw [isLower_iff] at hlower
    refine hsmall c.toNat ?_ hmoved
    rw [List.mem_range'_1]
    omega

/-- The lower case of a capital of ASCII is one small letter. -/
theorem exists_lowerChars_of_isUpper {c : Char} (h : c.isUpper = true) :
    ∃ d, lowerChars [c] = [d] ∧ d.isLower = true := by
  have htable : ∀ n ∈ List.range' 65 26, lowerChars [Char.ofNat n] = [Char.ofNat (n + 32)] ∧
      (Char.ofNat (n + 32)).isLower = true := by decide
  have hmem : c.toNat ∈ List.range' 65 26 := by
    have hc := (isUpper_iff c).mp h
    rw [List.mem_range'_1]
    omega
  have hc := htable c.toNat hmem
  rw [Char.ofNat_toNat] at hc
  exact ⟨_, hc.1, hc.2⟩

/-- A small letter is its own lower case. -/
theorem lowerChars_of_isLower {c : Char} (h : c.isLower = true) : lowerChars [c] = [c] := by
  have htable : ∀ n ∈ List.range' 97 26, lowerChars [Char.ofNat n] = [Char.ofNat n] := by decide
  have hmem : c.toNat ∈ List.range' 97 26 := by
    have hc := (isLower_iff c).mp h
    rw [List.mem_range'_1]
    omega
  have hc := htable c.toNat hmem
  rwa [Char.ofNat_toNat] at hc

/-! ## §4. Which characters have a lower case. -/

/-- The lower case of a character is one character, except for a capital I with a dot. -/
theorem lowerIn_cases (before : List Char) (c : Char) (after : List Char) :
    (∃ d, lowerIn before c after = [d]) ∨ lowerIn before c after = ['i', Char.ofNat 0x307] := by
  have htable : ∀ e ∈ lowerExpansions, e.2.map Char.ofNat = ['i', Char.ofNat 0x307] := by decide
  rcases isImage_lowerIn before c after with h | h | himage
  · exact .inl ⟨_, h⟩
  · exact .inl ⟨_, h⟩
  · cases himage with
    | listed he _ himage => exact .inr (himage.trans (htable _ he))
    | moved _ _ himage => exact .inl ⟨_, himage⟩
    | kept _ _ himage => exact .inl ⟨_, himage⟩

/-- What is moved into ASCII is a capital of ASCII, or the sign of the unit Kelvin. -/
theorem cases_of_moves_lowerRuns {r : CaseRun} (hr : r ∈ lowerRuns) {n : Nat} (hn : r.Moves n)
    (hm : (Char.ofNat (n + r.delta).toNat).toNat < 128) :
    (65 ≤ n ∧ n ≤ 90 ∧ (n + r.delta).toNat = n + 32) ∨ (n + r.delta).toNat = 'k'.toNat := by
  -- All other runs lead to code points above ASCII.
  have hruns : ∀ r ∈ lowerRuns,
      (r.first = 65 ∧ r.last = 90 ∧ r.delta = 32) ∨
        (r.first = 0x212A ∧ r.last = 0x212A ∧ r.delta = -8383) ∨
          (128 ≤ r.first + r.delta ∧ (r.last + r.delta < 0xD800 ∨
            (0xE000 ≤ r.first + r.delta ∧ r.last + r.delta < 0x110000))) := by
    decide +kernel
  have hk : 'k'.toNat = 107 := by decide
  obtain ⟨hfirst, hlast, -⟩ := hn
  rcases hruns r hr with ⟨_, _, _⟩ | ⟨_, _, _⟩ | ⟨_, _⟩
  · left
    omega
  · right
    omega
  · have hvalid : (n + r.delta).toNat.isValidChar := by
      rw [Nat.isValidChar]
      omega
    rw [toNat_ofNat hvalid] at hm
    omega

/-- **A character of ASCII other than `k` is the lower case** of itself and of its capital
alone. -/
theorem cases_of_lowerIn_eq {before after : List Char} {c d : Char}
    (h : lowerIn before c after = [d]) (hd : d.toNat < 128) (hk : d ≠ 'k') :
    c = d ∨ (65 ≤ c.toNat ∧ c.toNat ≤ 90 ∧ d.toNat = c.toNat + 32) := by
  have hnone : ∀ e ∈ lowerExpansions, (e.2.map Char.ofNat).length ≠ 1 := by decide
  have hcases := isImage_lowerIn before c after
  rw [h] at hcases
  rcases hcases with hsigma | hsigma | himage
  -- Both small sigmas are above ASCII.
  · rw [(List.cons.inj hsigma).1] at hd
    exact absurd hd (by decide)
  · rw [(List.cons.inj hsigma).1] at hd
    exact absurd hd (by decide)
  · cases himage with
    | listed he _ himage => exact absurd (congrArg List.length himage.symm) (hnone _ he)
    | moved hr hmoves himage =>
      obtain rfl := (List.cons.inj himage).1
      rcases cases_of_moves_lowerRuns hr hmoves hd with ⟨hfirst, hlast, hcapital⟩ | hkelvin
      · have hvalid : (c.toNat + 32).isValidChar := .inl (by omega)
        rw [hcapital, toNat_ofNat hvalid]
        exact .inr ⟨hfirst, hlast, rfl⟩
      · rw [hkelvin, Char.ofNat_toNat] at hk
        exact absurd rfl hk
    | kept _ _ himage => exact .inl (List.cons.inj himage).1.symm

end ScriptingBindings.Text
