/-
  ScriptingBindings.Identifier.Words
  ──────────────────────────────────
  **THE WORDS OF A NAME.**

  A dictionary names its definitions in words: `audio CD track`.  A few
  punctuation characters stand for a word of their own and are spelled out or
  deleted first; whatever then is no word character separates words, as do
  blanks, hyphens and underscores.

      words "copy & paste" = ["copy", "And", "paste"]
-/
import ScriptingBindings.Text.Alphanumeric
import ScriptingBindings.Text.Blank

namespace ScriptingBindings.Identifier

open Text

/-! ## §1. Punctuation. -/

/-- The punctuation characters and what each is replaced with. -/
def punctuation : List (Char × String) :=
  [('#', "Hash"), ('&', "And"), ('+', "Plus"), ('=', "Equals"), ('(', ""), (')', ""),
   ('/', "Or"), ('\\', ""), ('*', "Star"), ('?', ""), ('!', ""), ('@', "At"),
   ('%', "Percent"), ('^', ""), ('~', ""), ('\x60', ""), ('|', "Or")]

/-- A text with every occurrence of one character replaced. -/
def replaceChar (c : Char) (replacement : List Char) (s : List Char) : List Char :=
  s.flatMap (fun d => if d = c then replacement else [d])

/-- A text with the replacements of a table made one after the other. -/
def replaceAll (table : List (Char × String)) (s : List Char) : List Char :=
  table.foldl (fun acc entry => replaceChar entry.1 entry.2.toList acc) s

/-- A name with its punctuation spelled out or deleted. -/
def replacePunctuation (name : List Char) : List Char :=
  replaceAll punctuation name

/-! ## §2. Words. -/

/-- A character that no word contains and that is no separator becomes a space. -/
def blankOut (c : Char) : Char :=
  if isWordChar c || isBlank c || c == '-' then c else ' '

/-- The characters that separate words. -/
def isSeparator (c : Char) : Bool :=
  isBlank c || c == '-' || c == '_'

/-- A finished run, unless it is empty. -/
def closeRun (run : List Char) : List (List Char) :=
  if run.isEmpty then [] else [run]

/-- The maximal runs of characters that are no separators, the first of them begun by `run`. -/
def runsFrom (run : List Char) : List Char → List (List Char)
  | [] => closeRun run
  | c :: rest =>
    if isSeparator c then closeRun run ++ runsFrom [] rest else runsFrom (run ++ [c]) rest

/-- The words of a name, in order. -/
def words (name : List Char) : List (List Char) :=
  runsFrom [] ((replacePunctuation name).map blankOut)

end ScriptingBindings.Identifier
