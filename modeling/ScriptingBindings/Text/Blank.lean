/-
  ScriptingBindings.Text.Blank
  ──────────────────────────────────
  **BLANK CHARACTERS.**

  The blanks that separate words and that stripping removes: the Unicode
  white space characters and the four information separators U+001C to
  U+001F.  The zero width space and the byte order mark are not blank.
-/
import ScriptingBindings.Text.Table

namespace ScriptingBindings.Text

/-- The blank code points. -/
def blankRanges : List (Nat × Nat) :=
  [(0x9, 0xD), (0x1C, 0x20), (0x85, 0x85), (0xA0, 0xA0), (0x1680, 0x1680), (0x2000, 0x200A),
   (0x2028, 0x2029), (0x202F, 0x202F), (0x205F, 0x205F), (0x3000, 0x3000)]

/-- A character that separates words and is stripped from the ends of a line. -/
def isBlank (c : Char) : Bool :=
  inRanges blankRanges c.toNat

/-- A text with no character that is not blank. -/
def isAllBlank (s : List Char) : Bool :=
  s.all isBlank

/-- A text without the blanks at its end. -/
def stripEnd (s : List Char) : List Char :=
  (s.reverse.dropWhile isBlank).reverse

end ScriptingBindings.Text
