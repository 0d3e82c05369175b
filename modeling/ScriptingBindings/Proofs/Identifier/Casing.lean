/-
  ScriptingBindings.Proofs.Identifier.Casing
  ──────────────────────────────────
  **HOW IDENTIFIERS START.**

  Each word of an identifier in Pascal case starts with an upper case, so the
  identifier starts with what an upper case can start with, whatever name it was
  made of.  It does not start with a small letter of ASCII, for one.
-/
import ScriptingBindings.Identifier.Sanitizer
import ScriptingBindings.Proofs.Success
import ScriptingBindings.Proofs.Text.Casing

namespace ScriptingBindings.Identifier

open Text

section Starts

variable {P : Char → Prop}

theorem forall_head?_laterWord (hupper : ∀ c, ∀ d ∈ (upperOf c).head?, P d) (word : List Char) :
    ∀ d ∈ (laterWord word).head?, P d := by
  unfold laterWord
  extract_lets capitals
  split
  next => exact forall_head?_flatMap hupper word
  next =>
    cases word with
    | nil => exact fun d hd => absurd hd (Option.not_mem_none d)
    | cons c rest => exact forall_head?_append_of_ne_nil (hupper c) (upperOf_ne_nil c) rest

/-- **An identifier in Pascal case starts like an upper case**, or with an underscore. -/
theorem forall_head?_identifier (hupper : ∀ c, ∀ d ∈ (upperOf c).head?, P d) (hunderscore : P '_')
    {name made : String} (h : identifier .pascal name = .ok made) :
    ∀ d ∈ made.toList.head?, P d := by
  have hpascal : ∀ d ∈ (pascalCase name.toList).head?, P d :=
    forall_head?_flatMap (forall_head?_laterWord hupper) (words name.toList)
  unfold identifier at h
  extract_lets converted at h
  split at h
  next =>
    rw [← Except.ok.inj h, String.toList_ofList]
    change ∀ d ∈ (guardDigit (pascalCase name.toList)).head?, P d
    generalize pascalCase name.toList = s at hpascal ⊢
    cases s with
    | nil => exact hpascal
    | cons c rest =>
      rw [guardDigit]
      split
      next =>
        intro d hd
        rwa [← Option.mem_some_iff.mp hd]
      next => exact hpascal
  next => exact absurd h (by simp)

end Starts

/-- An identifier in Pascal case does not start with a small letter. -/
theorem startsTall_identifier {name made : String} (h : identifier .pascal name = .ok made) :
    StartsTall made.toList :=
  forall_head?_identifier startsTall_upperOf rfl h

end ScriptingBindings.Identifier
