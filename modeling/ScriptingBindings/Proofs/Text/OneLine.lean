/-
  ScriptingBindings.Proofs.Text.OneLine
  ──────────────────────────────────
  **TEXTS OF ONE LINE.**

  A text is of one line if it holds no line feed.  Texts of one line stay so
  when they are joined, and when they are written in upper or lower case: no
  character but the line feed is mapped to a line feed.

  Where a text may have one line feed at its end, what counts is the text
  without it.
-/
import Mathlib.Data.List.TakeWhile
import ScriptingBindings.Proofs.Text.Casing

namespace ScriptingBindings.Text

/-! ## §1. Joining. -/

/-- A text without a line feed. -/
def IsOneLine (s : String) : Prop :=
  '\n' ∉ s.toList

instance (s : String) : Decidable (IsOneLine s) :=
  inferInstanceAs (Decidable (¬ _))

theorem isOneLine_ofList {s : List Char} (h : '\n' ∉ s) : IsOneLine (String.ofList s) := by
  rwa [IsOneLine, String.toList_ofList]

theorem IsOneLine.append {s t : String} (hs : IsOneLine s) (ht : IsOneLine t) :
    IsOneLine (s ++ t) := by
  rw [IsOneLine, String.toList_append, List.mem_append]
  exact not_or.mpr ⟨hs, ht⟩

theorem IsOneLine.intercalate {sep : String} (hsep : IsOneLine sep) {ss : List String}
    (h : ∀ s ∈ ss, IsOneLine s) : IsOneLine (sep.intercalate ss) := by
  induction ss with
  | nil => exact List.not_mem_nil
  | cons s ss ih =>
    obtain ⟨hs, hss⟩ := List.forall_mem_cons.mp h
    cases ss with
    | nil => exact hs
    | cons t ss =>
      rw [String.intercalate_cons_cons]
      exact (hs.append hsep).append (ih hss)

/-! ## §2. Letter case. -/

/-- The line feed has a number of its own. -/
theorem ofNat_ne_lineFeed {n : Nat} (h : n ≠ 10) : Char.ofNat n ≠ '\n' := by
  intro hn
  by_cases hvalid : n.isValidChar
  · have hnat := toNat_ofNat hvalid
    rw [hn] at hnat
    exact h hnat.symm
  · have hnat := toNat_ofNat_of_not hvalid
    rw [hn] at hnat
    exact absurd hnat (by decide)

/-- No other character is mapped to a line feed, if no entry of the tables leads to one. -/
theorem IsImage.not_mem {expansions : List (Nat × List Nat)} {runs : List CaseRun} {c : Char}
    {image : List Char} (h : IsImage expansions runs c image)
    (hexpansions : ∀ e ∈ expansions, 10 ∉ e.2)
    (hruns : ∀ r ∈ runs, 10 < (r.first : Int) + r.delta) (hc : c ≠ '\n') : '\n' ∉ image := by
  cases h with
  | @listed e he _ himage =>
    rw [himage, List.mem_map]
    rintro ⟨n, hn, hchar⟩
    exact ofNat_ne_lineFeed (fun h => hexpansions e he (h ▸ hn)) hchar
  | @moved r hr hmoves himage =>
    rw [himage, List.mem_singleton]
    refine (ofNat_ne_lineFeed ?_).symm
    have hout := hruns r hr
    have hfirst := hmoves.first_le
    omega
  | kept _ _ himage =>
    rw [himage, List.mem_singleton]
    exact hc.symm

theorem not_mem_upperOf {c : Char} (hc : c ≠ '\n') : '\n' ∉ upperOf c :=
  (isImage_upperOf c).not_mem (by decide) (by decide +kernel) hc

theorem not_mem_lowerIn (before : List Char) {c : Char} (hc : c ≠ '\n') (after : List Char) :
    '\n' ∉ lowerIn before c after := by
  rcases isImage_lowerIn before c after with h | h | himage
  · rw [h]
    decide
  · rw [h]
    decide
  · exact himage.not_mem (by decide) (by decide +kernel) hc

/-- **Upper case brings no line feed.** -/
theorem not_mem_upperChars {s : List Char} (h : '\n' ∉ s) : '\n' ∉ upperChars s := by
  rw [upperChars, List.mem_flatMap]
  rintro ⟨c, hc, hmem⟩
  exact not_mem_upperOf (fun heq => h (heq ▸ hc)) hmem

theorem not_mem_lowerAfter (before : List Char) {s : List Char} (h : '\n' ∉ s) :
    '\n' ∉ lowerAfter before s := by
  induction s generalizing before with
  | nil => exact List.not_mem_nil
  | cons c s ih =>
    obtain ⟨hc, hs⟩ := not_or.mp (mt List.mem_cons.mpr h)
    rw [lowerAfter, List.mem_append]
    exact not_or.mpr ⟨not_mem_lowerIn before (Ne.symm hc) s, ih (c :: before) hs⟩

/-- **Lower case brings no line feed.** -/
theorem not_mem_lowerChars {s : List Char} (h : '\n' ∉ s) : '\n' ∉ lowerChars s :=
  not_mem_lowerAfter [] h

/-! ## §3. A line feed at the end. -/

/-- A text without the line feed that ends it, if one does. -/
def withoutEnd (s : List Char) : List Char :=
  if s.getLast? = some '\n' then s.dropLast else s

theorem withoutEnd_concat (s : List Char) : withoutEnd (s ++ ['\n']) = s := by
  rw [withoutEnd, if_pos List.getLast?_concat, List.dropLast_concat]

theorem withoutEnd_of_not_mem {s : List Char} (h : '\n' ∉ s) : withoutEnd s = s :=
  if_neg fun hlast => h (List.mem_of_getLast? hlast)

/-- A text is as it is without its end, or has a line feed behind that. -/
theorem withoutEnd_cases (s : List Char) :
    withoutEnd s = s ∨ s = withoutEnd s ++ ['\n'] := by
  by_cases hlast : s.getLast? = some '\n'
  · obtain ⟨front, rfl⟩ := List.getLast?_eq_some_iff.mp hlast
    rw [withoutEnd_concat]
    exact .inr rfl
  · exact .inl (if_neg hlast)

theorem withoutEnd_cons {c : Char} (hc : c ≠ '\n') (s : List Char) :
    withoutEnd (c :: s) = c :: withoutEnd s := by
  rcases withoutEnd_cases s with hs | hs
  · by_cases hlast : (c :: s).getLast? = some '\n'
    · -- The line feed would be the last character of the shorter text, too.
      cases s with
      | nil => exact absurd (Option.some.inj hlast) hc
      | cons d s =>
        rw [List.getLast?_cons_cons] at hlast
        obtain ⟨front, hfront⟩ := List.getLast?_eq_some_iff.mp hlast
        rw [hfront, withoutEnd_concat] at hs
        exact absurd (congrArg List.length hs) (by simp)
    · rw [hs]
      exact if_neg hlast
  · rw [hs, ← List.cons_append, withoutEnd_concat, withoutEnd_concat]

/-- Only a line feed is left out. -/
theorem mem_withoutEnd {s : List Char} {c : Char} (h : c ∈ s) (hc : c ≠ '\n') :
    c ∈ withoutEnd s := by
  rcases withoutEnd_cases s with hs | hs
  · rwa [hs]
  · rw [hs, List.mem_append, List.mem_singleton] at h
    exact h.resolve_right hc

/-- **A text goes on with characters of one kind up to its end**, or to one line feed there. -/
theorem dropWhile_isEnd_iff {p : Char → Bool} (hp : p '\n' = false) (s : List Char) :
    (s.dropWhile p = [] ∨ s.dropWhile p = ['\n']) ↔ ∀ c ∈ withoutEnd s, p c = true := by
  have hcut : s.takeWhile p ++ s.dropWhile p = s := List.takeWhile_append_dropWhile
  have htake : ∀ c ∈ s.takeWhile p, p c = true := fun c hc => List.mem_takeWhile_imp hc
  constructor
  · rintro (hend | hend)
    · rw [hend, List.append_nil] at hcut
      have hfeed : '\n' ∉ s := by
        intro hmem
        rw [← hcut] at hmem
        exact absurd ((htake '\n' hmem).symm.trans hp) (by simp)
      rw [withoutEnd_of_not_mem hfeed, ← hcut]
      exact htake
    · rw [hend] at hcut
      rw [← hcut, withoutEnd_concat]
      exact htake
  · intro hall
    rcases withoutEnd_cases s with hs | hs
    · rw [hs] at hall
      exact .inl (List.dropWhile_eq_nil_iff.mpr hall)
    · rw [hs, List.dropWhile_append_of_pos hall, List.dropWhile_cons_of_neg (by simp [hp])]
      exact .inr rfl

end ScriptingBindings.Text
