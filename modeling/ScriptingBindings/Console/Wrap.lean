/-
  ScriptingBindings.Console.Wrap
  ──────────────────────────────────
  **LINES THAT FIT.**

  A console shows a line that is too long on several lines.  A line is broken
  before a word, and inside a word only if the word alone is too long.  Tabs
  are blanks up to the next tab stop.  What is counted are cells.
-/
import ScriptingBindings.Console.Cells
import ScriptingBindings.Text.Blank
import ScriptingBindings.Text.Lines

namespace ScriptingBindings.Console

/-! ## §1. Tabs. -/

/-- The number of cells between tab stops. -/
def tabWidth : Nat := 8

/-- A text that starts in a cell, with spaces up to the next tab stop in place of tabs. -/
def expandTabs (column : Nat) : List Char → List Char
  | [] => []
  | c :: rest =>
    if c = '\t' then
      let spaces := tabWidth - column % tabWidth
      List.replicate spaces ' ' ++ expandTabs (column + spaces) rest
    else c :: expandTabs (column + charWidth c) rest

/-! ## §2. Words. -/

/-- The first word of a text with the blanks around it. -/
def firstWord (s : List Char) : List Char :=
  let blanks := s.takeWhile Text.isBlank
  let word := (s.drop blanks.length).takeWhile (!Text.isBlank ·)
  blanks ++ word ++ (s.drop (blanks.length + word.length)).takeWhile Text.isBlank

/-- The words of a text, each with the blanks behind it, and the first one with those before it
too.  The fuel is the number of words that are looked for. -/
def wordsWithin : Nat → List Char → List (List Char)
  | 0, _ => []
  | fuel + 1, s =>
    if Text.isAllBlank s then []
    else
      let word := firstWord s
      word :: wordsWithin fuel (s.drop word.length)

/-- The words of a text with the blanks around them. -/
def words (s : List Char) : List (List Char) :=
  wordsWithin s.length s

/-- A word in pieces that fit, after a piece with its width, the last character first. -/
def chopAfter (width : Nat) (piece : List Char) (used : Nat) : List Char → List (List Char)
  | [] => [piece.reverse]
  | c :: rest =>
    if width < used + charWidth c then piece.reverse :: chopAfter width [c] (charWidth c) rest
    else chopAfter width (c :: piece) (used + charWidth c) rest

/-- A word in pieces that fit. -/
def chop (width : Nat) (word : List Char) : List (List Char) :=
  chopAfter width [] 0 word

/-! ## §3. Lines. -/

/-- Lines that are done and the line to go on with, both backwards, with its width. -/
structure Wrapped where
  done : List (List Char) := []
  line : List Char := []
  used : Nat := 0

/-- End the line and go on with a text. -/
def Wrapped.goOn (w : Wrapped) (text : List Char) : Wrapped :=
  ⟨w.line.reverse :: w.done, text.reverse, cellWidth text⟩

/-- Add a word to the line or to the next one. -/
def Wrapped.add (width : Nat) (w : Wrapped) (word : List Char) : Wrapped :=
  let needed := cellWidth (Text.stripEnd word)
  if w.used + needed ≤ width then
    { w with line := word.reverse ++ w.line, used := w.used + cellWidth word }
  else if width < needed then
    match chop width word with
    | [] => w
    | piece :: pieces =>
      let start := if w.line.isEmpty then { w with line := piece.reverse, used := cellWidth piece }
        else w.goOn piece
      pieces.foldl Wrapped.goOn start
  else w.goOn word

/-- The lines of a text without line feeds that is broken at its words. -/
def wrapped (width : Nat) (s : List Char) : List (List Char) :=
  let w := (words s).foldl (Wrapped.add width) {}
  -- A text without words is one line as it is.
  if Text.isAllBlank s then [s] else (w.line.reverse :: w.done).reverse

/-- A line without the blanks at its end that are too many, cut off if it is still too wide. -/
def fit (width : Nat) (line : List Char) : List Char :=
  let blanks := line.length - (Text.stripEnd line).length
  let line := line.take (line.length - min blanks (line.length - width))
  if cellWidth line ≤ width then line else cropTo width line

/-- The lines of a text on a console. -/
def consoleLines (width : Nat) (s : List Char) : List (List Char) :=
  (Text.lines s).flatMap fun line => (wrapped width (expandTabs 0 line)).map (fit width)

end ScriptingBindings.Console
