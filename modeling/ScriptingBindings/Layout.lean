/-
  ScriptingBindings.Layout
  ──────────────────────────────────
  **THE LAYOUT OF GENERATED TEXT.**

  A tidy text has no blanks at the ends of its lines, no two blank lines in a
  row, none at the start, and ends with one line feed.  After that the
  indentation can be changed: each full level of four spaces becomes as many
  spaces as asked for, and what is left over stays.
-/
import ScriptingBindings.Json.Basic
import ScriptingBindings.Machine
import ScriptingBindings.Misuse
import ScriptingBindings.Text.Blank
import ScriptingBindings.Text.Lines

namespace ScriptingBindings.Layout

open Text

/-! ## §1. Tidy lines. -/

/-- Lines without those blank ones that follow a blank one; `afterBlank` tells whether the
line before was blank. -/
def collapseFrom (afterBlank : Bool) : List (List Char) → List (List Char)
  | [] => []
  | line :: rest =>
    if line.isEmpty then
      if afterBlank then collapseFrom true rest else line :: collapseFrom true rest
    else line :: collapseFrom false rest

/-- A tidy text. -/
def tidy (s : List Char) : List Char :=
  stripOf '\n' (unlines (collapseFrom false ((lines s).map stripEnd))) ++ ['\n']

/-! ## §2. Indentation. -/

/-- The spaces of one level as text is first written. -/
def writtenWidth : Nat := 4

/-- The number of spaces for so many as were written. -/
def widened (width : Int) (spaces : Nat) : Int :=
  ((spaces / writtenWidth : Nat) : Int) * width + ((spaces % writtenWidth : Nat) : Int)

/-- The first number that is too large to count with, on either side of zero. -/
def countLimit : Int := Int.pow 2 63

/-- So many spaces; none for a number below zero. -/
def spaces [Machine] (n : Int) : Except Misuse (List Char) :=
  if n < -countLimit ∨ countLimit ≤ n then .error .tooLarge
  else if Machine.spaces < n then .error .outOfMemory
  else .ok (List.replicate n.toNat ' ')

/-- A line with another width of a level. -/
def reindentLine [Machine] (width : Int) (line : List Char) : Except Misuse (List Char) :=
  let (blanks, content) := line.span (· == ' ')
  (spaces (widened width blanks.length)).map (· ++ content)

/-- A text with another width of a level. -/
def reindent [Machine] (width : Int) (s : List Char) : Except Misuse (List Char) :=
  ((lines s).mapM (reindentLine width)).map unlines

/-! ## §3. Settings. -/

/-- Whether a value is the number of spaces that text is written with. -/
def isWrittenWidth : Json → Bool
  | .int n => n == 4
  | .fractional x => x.isWhole 4
  | _ => false

/-- The whole number that a value stands for; truth values count as zero and one. -/
def wholeNumber? : Json → Option Int
  | .int n => some n
  | .bool b => some (if b then 1 else 0)
  | _ => none

/-- A tidy text with the width that a value asks for. -/
def format [Machine] (width : Json) (s : String) : Except Misuse String :=
  let tidied := tidy s.toList
  if isWrittenWidth width then .ok (String.ofList tidied)
  else
    match wholeNumber? width with
    | some n => (reindent n tidied).map String.ofList
    | none => .error .wrongKind

end ScriptingBindings.Layout
