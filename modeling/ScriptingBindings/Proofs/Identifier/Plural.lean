/-
  ScriptingBindings.Proofs.Identifier.Plural
  ──────────────────────────────────
  **HOW PLURALS END.**

  A name that ends in `s` keeps this letter at its end, small or capital, when
  its words are joined in camel case: no letter after it could take its place,
  and neither punctuation nor blanks are near.
-/
import ScriptingBindings.Identifier.Sanitizer
import ScriptingBindings.Proofs.Success

namespace ScriptingBindings.Identifier

open Text

/-- A text that ends in `s` or in `S`. -/
def EndsInS (s : List Char) : Prop :=
  ∃ front c, s = front ++ [c] ∧ (c = 's' ∨ c = 'S')

theorem EndsInS.prepend {s : List Char} (h : EndsInS s) (front : List Char) :
    EndsInS (front ++ s) := by
  obtain ⟨middle, c, rfl, hc⟩ := h
  exact ⟨front ++ middle, c, (List.append_assoc _ _ _).symm, hc⟩

/-! ## §1. The last word. -/

theorem replaceAll_append_s (table : List (Char × String)) (h : ∀ e ∈ table, e.1 ≠ 's')
    (s : List Char) : replaceAll table (s ++ ['s']) = replaceAll table s ++ ['s'] := by
  induction table generalizing s with
  | nil => rfl
  | cons e table ih =>
    obtain ⟨he, htable⟩ := List.forall_mem_cons.mp h
    have hstep : replaceChar e.1 e.2.toList (s ++ ['s'])
        = replaceChar e.1 e.2.toList s ++ ['s'] := by
      rw [replaceChar, List.flatMap_append, List.flatMap_singleton, if_neg he.symm]
      rfl
    rw [replaceAll, List.foldl_cons, hstep]
    exact ih htable _

/-- The last run of a text that ends in `s` ends in it. -/
theorem exists_runsFrom_append_s (run s : List Char) :
    ∃ before last, runsFrom run (s ++ ['s']) = before ++ [last ++ ['s']] := by
  induction s generalizing run with
  | nil => exact ⟨[], run, by simp [runsFrom, isSeparator, closeRun, isBlank, inRanges, blankRanges]⟩
  | cons c s ih =>
    rw [List.cons_append, runsFrom]
    split
    next =>
      obtain ⟨before, last, hruns⟩ := ih []
      exact ⟨closeRun run ++ before, last, by rw [hruns, List.append_assoc]⟩
    next => exact ih (run ++ [c])

theorem exists_words_append_s (name : List Char) :
    ∃ before last, words (name ++ ['s']) = before ++ [last ++ ['s']] := by
  have hpunctuation : ∀ e ∈ punctuation, e.1 ≠ 's' := by decide
  have hblank : blankOut 's' = 's' := by decide
  unfold words replacePunctuation
  rw [replaceAll_append_s punctuation hpunctuation, List.map_append, List.map_singleton, hblank]
  exact exists_runsFrom_append_s [] _

/-! ## §2. Joining. -/

theorem endsInS_lowerAfter (before word : List Char) : EndsInS (lowerAfter before (word ++ ['s'])) := by
  induction word generalizing before with
  | nil => exact ⟨[], 's', rfl, .inl rfl⟩
  | cons c word ih => exact (ih (c :: before)).prepend _

theorem endsInS_laterWord (word : List Char) : EndsInS (laterWord (word ++ ['s'])) := by
  unfold laterWord
  extract_lets capitals
  split
  next => exact ⟨upperChars word, 'S', upperChars_append word ['s'], .inr rfl⟩
  next =>
    cases word with
    | nil => exact ⟨[], 'S', rfl, .inr rfl⟩
    | cons c word => exact ⟨upperOf c ++ word, 's', by simp [capitalizeFirst], .inl rfl⟩

/-- **A camel case name of a plural ends in an `s`.** -/
theorem endsInS_camelCase (name : List Char) : EndsInS (camelCase (name ++ ['s'])) := by
  obtain ⟨before, last, hwords⟩ := exists_words_append_s name
  unfold camelCase
  rw [hwords]
  cases before with
  | nil =>
    rw [List.nil_append]
    dsimp only
    rw [List.flatMap_nil, List.append_nil]
    exact endsInS_lowerAfter [] last
  | cons first before =>
    simp only [List.cons_append, List.flatMap_append, List.flatMap_singleton]
    exact ((endsInS_laterWord last).prepend _).prepend _

/-! ## §3. Identifiers. -/

theorem endsInS_guardDigit {s : List Char} (h : EndsInS s) : EndsInS (guardDigit s) := by
  cases s with
  | nil => exact h
  | cons c rest =>
    rw [guardDigit]
    split
    next => exact h.prepend ['_']
    next => exact h

/-- The identifier of a plural ends in an `s`. -/
theorem endsInS_identifier {name made : String} (h : identifier .camel (name ++ "s") = .ok made) :
    EndsInS made.toList := by
  unfold identifier at h
  extract_lets converted at h
  split at h
  next =>
    rw [← Except.ok.inj h, String.toList_ofList]
    have hplural : (name ++ "s").toList = name.toList ++ ['s'] := String.toList_append
    refine endsInS_guardDigit ?_
    rw [hplural]
    exact endsInS_camelCase name.toList
  next => exact absurd h (by simp)

end ScriptingBindings.Identifier
