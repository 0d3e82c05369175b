/-
  ScriptingBindings.Proofs.Text.Capitals
  ──────────────────────────────────
  **UPPER CASE IS FINAL, LOWER CASE IS NOT.**

  The first character of an upper case is its own upper case.  A character
  that is the lower case of another one is not:

      upper ß = S S,   upper S = S          lower K = k,   upper k = K

  So what starts like an upper case never starts like a lower case that
  differs from its character.  Upper case leads out of the set of the code
  points that it moves, and lower case leads into it.
-/
import ScriptingBindings.Proofs.Text.Letters

namespace ScriptingBindings.Text

/-! ## §1. What the tables move. -/

variable {runs : List CaseRun} {expansions : List (Nat × List Nat)} {n : Nat}

theorem expansion?_eq_none_iff : expansion? expansions n = none ↔ n ∉ expansions.map Prod.fst := by
  induction expansions with
  | nil => simp [expansion?]
  | cons e expansions ih =>
    unfold expansion?
    rw [List.map_cons, List.mem_cons, not_or, ← ih]
    split
    next hkey => simp [eq_of_beq hkey]
    next hkey => exact (and_iff_right (fun heq => hkey (beq_iff_eq.mpr heq.symm))).symm

/-- The set of the code points that have an upper case. -/
def upperSources : Nat :=
  union CaseRun.sources upperRuns ||| union (fun e => 2 ^ e.1) upperExpansions

theorem testBit_upperSources : upperSources.testBit n = true ↔
    (∃ r ∈ upperRuns, r.sources.testBit n = true) ∨ n ∈ upperExpansions.map Prod.fst := by
  rw [upperSources, Nat.testBit_or, Bool.or_eq_true, testBit_union, testBit_union, List.mem_map]
  simp only [Nat.testBit_two_pow, decide_eq_true_eq]

/-- A character without an upper case is its own. -/
theorem upperOf_of_not_source {c : Char} (h : upperSources.testBit c.toNat = false) :
    upperOf c = [c] := by
  rw [← Bool.not_eq_true, testBit_upperSources, not_or] at h
  cases isImage_upperOf c with
  | @listed e he hkey _ => exact absurd (List.mem_map.mpr ⟨e, he, hkey⟩) h.2
  | @moved r hr hmoves _ =>
    exact absurd ⟨r, hr, (areRuns_upperRuns.proper r hr).testBit_sources.mpr hmoves⟩ h.1
  | kept _ _ himage => exact himage

/-- What has an upper case is listed or moved. -/
theorem not_source_of_kept (hlisted : expansion? upperExpansions n = none)
    (hmoved : shift? upperRuns n = none) : upperSources.testBit n = false := by
  rw [← Bool.not_eq_true, testBit_upperSources]
  rintro (⟨r, hr, hn⟩ | hmem)
  · obtain ⟨m, hm⟩ := exists_shift?_of_mem areRuns_upperRuns.ascending hr
      ((areRuns_upperRuns.proper r hr).testBit_sources.mp hn)
    exact absurd (hmoved.symm.trans hm) (Option.some_ne_none m).symm
  · exact expansion?_eq_none_iff.mp hlisted hmem

/-! ## §2. First characters. -/

/-- A run leads to the number of a character, in the shifted set of what the run moves. -/
theorem AreRuns.testBit_moved (hruns : AreRuns runs) {r : CaseRun} (hr : r ∈ runs)
    (hmoves : r.Moves n) :
    (shifted r.sources r.delta).testBit (Char.ofNat (n + r.delta).toNat).toNat = true := by
  have hproper := hruns.proper r hr
  rw [(hproper.toNat_ofNat hmoves).1]
  exact hproper.testBit_shifted hmoves (hproper.testBit_sources.mpr hmoves)

/-- **The first character of an upper case is its own upper case.** -/
theorem upperOf_head {c d : Char} (h : d ∈ (upperOf c).head?) : upperOf d = [d] := by
  have hexpansions : ∀ e ∈ upperExpansions,
      ((e.2.map Char.ofNat).head?.all fun d => !upperSources.testBit d.toNat) = true := by
    decide +kernel
  have hruns : ∀ r ∈ upperRuns, shifted r.sources r.delta &&& upperSources = 0 := by
    decide +kernel
  refine upperOf_of_not_source ?_
  cases isImage_upperOf c with
  | @listed e he _ himage =>
    rw [himage] at h
    have hhead := (Option.all_eq_true _ _).mp (hexpansions e he) d h
    rwa [Bool.not_eq_true'] at hhead
  | @moved r hr hmoves himage =>
    rw [himage, List.head?_cons, Option.mem_some_iff] at h
    rw [← h]
    exact testBit_of_and_eq_zero (hruns r hr) (areRuns_upperRuns.testBit_moved hr hmoves)
  | kept hlisted hmoved himage =>
    rw [himage, List.head?_cons, Option.mem_some_iff] at h
    rw [← h]
    exact not_source_of_kept hlisted hmoved

/-- What has an upper case is not its own. -/
theorem upperOf_ne_of_source {d : Char} (h : upperSources.testBit d.toNat = true) :
    upperOf d ≠ [d] := by
  have hexpansions : ∀ e ∈ upperExpansions, (e.2.map Char.ofNat) ≠ [Char.ofNat e.1] := by
    decide +kernel
  cases isImage_upperOf d with
  | @listed e he hkey himage =>
    have hne := hexpansions e he
    rwa [hkey, Char.ofNat_toNat, ← himage] at hne
  | @moved r hr hmoves himage =>
    obtain ⟨hchar, hne⟩ := (areRuns_upperRuns.proper r hr).toNat_ofNat hmoves
    intro heq
    rw [himage] at heq
    rw [(List.cons.inj heq).1] at hchar
    exact hne hchar.symm
  | kept hlisted hmoved _ =>
    rw [not_source_of_kept hlisted hmoved] at h
    exact absurd h (by decide)

/-- **The first character of a lower case is not its own upper case**, unless the character is
its own lower case. -/
theorem upperOf_ne_of_lowerChars {c d : Char} {rest : List Char} (h : lowerChars [c] = d :: rest)
    (hne : lowerChars [c] ≠ [c]) : upperOf d ≠ [d] := by
  have htable : ∀ e ∈ lowerExpansions, (e.2.map Char.ofNat).head? = some 'i' := by decide
  have hruns : ∀ r ∈ lowerRuns, shifted r.sources r.delta ||| upperSources = upperSources := by
    decide +kernel
  have hlower : lowerChars [c] = lowerIn [] c [] := List.append_nil _
  have hcases := isImage_lowerIn [] c []
  rw [← hlower, h] at hcases
  refine upperOf_ne_of_source ?_
  rcases hcases with hsigma | hsigma | himage
  · rw [(List.cons.inj hsigma).1]
    decide +kernel
  · rw [(List.cons.inj hsigma).1]
    decide +kernel
  · cases himage with
    | @listed e he _ himage =>
      have hhead := htable e he
      rw [← himage, List.head?_cons, Option.some_inj] at hhead
      rw [hhead]
      decide +kernel
    | @moved r hr hmoves himage =>
      rw [(List.cons.inj himage).1]
      exact testBit_of_or_eq (hruns r hr) (areRuns_lowerRuns.testBit_moved hr hmoves)
    | kept _ _ himage => exact absurd (h.trans himage) hne

end ScriptingBindings.Text
