/-
  ScriptingBindings.Proofs.Identifier.OneLine
  ──────────────────────────────────
  **IDENTIFIERS ARE OF ONE LINE.**

  Whatever name an identifier is made of, it holds no line feed: a line feed
  separates words, so no word holds one, and joining the words brings none.
-/
import ScriptingBindings.Identifier.Sanitizer
import ScriptingBindings.Proofs.Identifier.Words
import ScriptingBindings.Proofs.Text.OneLine

namespace ScriptingBindings.Identifier

open Text

/-! ## §1. Words. -/

/-- No word holds a line feed, which is no word character. -/
theorem not_mem_of_mem_words {name word : List Char} (h : word ∈ words name) : '\n' ∉ word := by
  intro hmem
  exact absurd (isInWord_of_mem_words h _ hmem) (by decide)

/-! ## §2. Joined words. -/

theorem not_mem_capitalizeFirst {word : List Char} (h : '\n' ∉ word) :
    '\n' ∉ capitalizeFirst word := by
  cases word with
  | nil => exact h
  | cons c rest =>
    obtain ⟨hc, hrest⟩ := not_or.mp (mt List.mem_cons.mpr h)
    rw [capitalizeFirst, List.mem_append]
    exact not_or.mpr ⟨not_mem_upperOf (Ne.symm hc), hrest⟩

theorem not_mem_laterWord {word : List Char} (h : '\n' ∉ word) : '\n' ∉ laterWord word := by
  unfold laterWord
  extract_lets capitals
  split
  next => exact not_mem_upperChars h
  next => exact not_mem_capitalizeFirst h

theorem not_mem_flatMap_laterWord {ws : List (List Char)} (h : ∀ word ∈ ws, '\n' ∉ word) :
    '\n' ∉ ws.flatMap laterWord := by
  rw [List.mem_flatMap]
  rintro ⟨word, hword, hmem⟩
  exact not_mem_laterWord (h word hword) hmem

/-- Words hold no line feed when they are joined, in either style. -/
theorem not_mem_join (style : Style) (name : List Char) : '\n' ∉ style.join name := by
  have hwords : ∀ word ∈ words name, '\n' ∉ word := fun word => not_mem_of_mem_words
  cases style with
  | camel =>
    show '\n' ∉ camelCase name
    unfold camelCase
    cases hname : words name with
    | nil => exact List.not_mem_nil
    | cons first rest =>
      rw [hname] at hwords
      obtain ⟨hfirst, hrest⟩ := List.forall_mem_cons.mp hwords
      rw [List.mem_append]
      exact not_or.mpr ⟨not_mem_lowerChars hfirst, not_mem_flatMap_laterWord hrest⟩
  | pascal => exact not_mem_flatMap_laterWord hwords

theorem not_mem_guardDigit {s : List Char} (h : '\n' ∉ s) : '\n' ∉ guardDigit s := by
  cases s with
  | nil => exact h
  | cons c rest =>
    rw [guardDigit]
    split
    next =>
      rw [List.mem_cons]
      exact not_or.mpr ⟨by decide, h⟩
    next => exact h

/-! ## §3. Identifiers. -/

/-- **An identifier is of one line**, whatever name it was made of. -/
theorem isOneLine_identifier {style : Style} {name made : String}
    (h : identifier style name = .ok made) : IsOneLine made := by
  unfold identifier at h
  extract_lets converted at h
  split at h
  next =>
    rw [← Except.ok.inj h]
    exact isOneLine_ofList (not_mem_guardDigit (not_mem_join style name.toList))
  next => exact absurd h (by simp)

end ScriptingBindings.Identifier
