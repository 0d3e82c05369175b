/-
  ScriptingBindings.Text.Lines
  ──────────────────────────────────
  **CUTTING AND JOINING TEXTS.**

  Cutting at every occurrence of a character keeps all parts, empty ones too,
  so that joining them again gives back the text:

      joinWith c (cutAt c s) = s
-/

namespace ScriptingBindings.Text

/-! ## §1. Cutting. -/

/-- The parts of a text between the occurrences of a separator; never the empty list. -/
def cutAt (sep : Char) : List Char → List (List Char)
  | [] => [[]]
  | c :: rest =>
    if c = sep then [] :: cutAt sep rest
    else
      match cutAt sep rest with
      | [] => [[c]]
      | part :: parts => (c :: part) :: parts

/-- Parts with a separator between neighbours. -/
def joinWith (sep : Char) : List (List Char) → List Char
  | [] => []
  | [part] => part
  | part :: parts => part ++ sep :: joinWith sep parts

/-- The lines of a text, which end at line feeds only. -/
def lines (s : List Char) : List (List Char) :=
  cutAt '\n' s

/-- Lines with a line feed between neighbours. -/
def unlines (ls : List (List Char)) : List Char :=
  joinWith '\n' ls

/-! ## §2. Stripping. -/

/-- A text without the characters `c` at its end. -/
def stripEndOf (c : Char) (s : List Char) : List Char :=
  (s.reverse.dropWhile (· == c)).reverse

/-- A text without the characters `c` at either end. -/
def stripOf (c : Char) (s : List Char) : List Char :=
  stripEndOf c (s.dropWhile (· == c))

/-! ## §3. The two directions. -/

theorem cutAt_ne_nil (sep : Char) (s : List Char) : cutAt sep s ≠ [] := by
  cases s with
  | nil => simp [cutAt]
  | cons c rest =>
    simp only [cutAt]
    split
    · simp
    · split <;> simp

theorem joinWith_cons {sep : Char} {part : List Char} {parts : List (List Char)}
    (h : parts ≠ []) : joinWith sep (part :: parts) = part ++ sep :: joinWith sep parts := by
  cases parts with
  | nil => exact absurd rfl h
  | cons _ _ => rfl

theorem joinWith_cutAt (sep : Char) (s : List Char) : joinWith sep (cutAt sep s) = s := by
  induction s with
  | nil => rfl
  | cons c rest ih =>
    simp only [cutAt]
    split
    · next h => rw [joinWith_cons (cutAt_ne_nil sep rest), ih, h]; rfl
    · split
      · next h => exact absurd h (cutAt_ne_nil sep rest)
      · next part parts h =>
        rw [h] at ih
        cases parts with
        | nil => simpa [joinWith] using ih
        | cons p ps => simpa [joinWith] using ih

end ScriptingBindings.Text
