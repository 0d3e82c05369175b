/-
  ScriptingBindings.Text.Casing
  ──────────────────────────────────
  **LOWER, UPPER AND TITLE CASE.**

  The full case maps of a text.  Upper and title case act on each character
  alone and may give several characters (`ß` becomes `SS` or `Ss`).  Lower
  case acts on each character alone but for the capital sigma, which becomes
  the final sigma at the end of a word:

      upper (s ++ t) = upper s ++ upper t
-/
import ScriptingBindings.Text.Casing.Table

namespace ScriptingBindings.Text

/-! ## §1. Single characters. -/

/-- The upper case of a character: an expansion, else a shift, else itself. -/
def upperOf (c : Char) : List Char :=
  match expansion? upperExpansions c.toNat with
  | some image => image
  | none => [Char.ofNat ((shift? upperRuns c.toNat).getD c.toNat)]

/-- The title case of a character, which is its upper case unless listed otherwise. -/
def titleOf (c : Char) : List Char :=
  match expansion? titleExpansions c.toNat with
  | some image => image
  | none =>
    match shift? titleRuns c.toNat with
    | some n => [Char.ofNat n]
    | none => upperOf c

/-- The lower case of a character away from any context. -/
def lowerOf (c : Char) : List Char :=
  match expansion? lowerExpansions c.toNat with
  | some image => image
  | none => [Char.ofNat ((shift? lowerRuns c.toNat).getD c.toNat)]

/-! ## §2. The final sigma. -/

/-- Whether the nearest character that is not ignored for case has a case. -/
def meetsCased (s : List Char) : Bool :=
  match s.dropWhile (fun c => inRanges caseIgnorableRanges c.toNat) with
  | [] => false
  | c :: _ => inRanges casedRanges c.toNat

/-- The lower case of `c` after the reversed text `before` and before `after`.
A capital sigma that ends a word becomes the final sigma. -/
def lowerIn (before : List Char) (c : Char) (after : List Char) : List Char :=
  if c = 'Σ' then
    -- Before it there has to be a letter, and after it there must be none.
    if meetsCased before && !meetsCased after then ['ς'] else ['σ']
  else lowerOf c

/-- The lower case of a text that follows the reversed text `before`. -/
def lowerAfter (before : List Char) : List Char → List Char
  | [] => []
  | c :: rest => lowerIn before c rest ++ lowerAfter (c :: before) rest

/-! ## §3. Texts. -/

/-- The lower case of a sequence of characters. -/
def lowerChars (s : List Char) : List Char :=
  lowerAfter [] s

/-- The upper case of a sequence of characters. -/
def upperChars (s : List Char) : List Char :=
  s.flatMap upperOf

/-- The first character in title case and the rest in lower case. -/
def capitalizeChars : List Char → List Char
  | [] => []
  | c :: rest => titleOf c ++ lowerAfter [c] rest

/-- The lower case of a text. -/
def lower (s : String) : String :=
  String.ofList (lowerChars s.toList)

/-- The upper case of a text. -/
def upper (s : String) : String :=
  String.ofList (upperChars s.toList)

theorem upperChars_append (s t : List Char) :
    upperChars (s ++ t) = upperChars s ++ upperChars t := by
  simp [upperChars]

end ScriptingBindings.Text
