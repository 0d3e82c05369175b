/-
  ScriptingBindings.Markup.Character
  ──────────────────────────────────
  **CHARACTERS OF A DOCUMENT.**

  The character classes of XML 1.0, fifth edition: what may occur in a
  document at all, what separates tokens, and what may stand in a name.
  The colon is a letter of a name, but separates a prefix where there are
  namespaces.
-/
import ScriptingBindings.Text.Table

namespace ScriptingBindings.Markup

open Text

/-- The characters of a document. -/
def documentRanges : List (Nat × Nat) :=
  [(0x9, 0xA), (0xD, 0xD), (0x20, 0xD7FF), (0xE000, 0xFFFD), (0x10000, 0x10FFFF)]

/-- The characters that may start a name, without the colon. -/
def nameStartRanges : List (Nat × Nat) :=
  [(0x41, 0x5A), (0x5F, 0x5F), (0x61, 0x7A), (0xC0, 0xD6), (0xD8, 0xF6), (0xF8, 0x2FF),
   (0x370, 0x37D), (0x37F, 0x1FFF), (0x200C, 0x200D), (0x2070, 0x218F), (0x2C00, 0x2FEF),
   (0x3001, 0xD7FF), (0xF900, 0xFDCF), (0xFDF0, 0xFFFD), (0x10000, 0xEFFFF)]

/-- The further characters that may stand in a name. -/
def nameRestRanges : List (Nat × Nat) :=
  [(0x2D, 0x2E), (0x30, 0x39), (0xB7, 0xB7), (0x300, 0x36F), (0x203F, 0x2040)]

/-- A character that a document may hold. -/
def isDocumentChar (c : Char) : Bool :=
  inRanges documentRanges c.toNat

/-- A character that may start a name. -/
def isNameStart (c : Char) : Bool :=
  inRanges nameStartRanges c.toNat

/-- A character that may stand in a name after its start. -/
def isNameChar (c : Char) : Bool :=
  isNameStart c || inRanges nameRestRanges c.toNat

/-- The number of bytes of a text in UTF-8. -/
def byteSize (s : List Char) : Nat :=
  s.foldl (fun n c => n + c.utf8Size) 0

/-- The most bytes of a name. -/
def nameLimit : Nat := 50000

/-- A name of some characters at the start of a text, and the text after it. -/
def nameOf? (starts continues : Char → Bool) (s : List Char) : Option (List Char × List Char) :=
  match s with
  | c :: rest =>
    if starts c then
      let (more, after) := rest.span continues
      if byteSize (c :: more) ≤ nameLimit then some (c :: more, after) else none
    else none
  | [] => none

/-- A name without a colon at the start of a text, and the text after it. -/
def baseName? : List Char → Option (List Char × List Char) :=
  nameOf? isNameStart isNameChar

/-- A name, in which colons are letters, at the start of a text, and the text after it. -/
def name? : List Char → Option (List Char × List Char) :=
  nameOf? (fun c => c == ':' || isNameStart c) (fun c => c == ':' || isNameChar c)

/-- A token, which is made like a name but starts with any of its characters. -/
def token? : List Char → Option (List Char × List Char) :=
  nameOf? (fun c => c == ':' || isNameChar c) (fun c => c == ':' || isNameChar c)

/-- Whether a reader takes a whole text and leaves nothing. -/
def isWhole (read? : List Char → Option (List Char × List Char)) (s : List Char) : Bool :=
  match read? s with
  | some (_, []) => true
  | _ => false

/-- Whether a whole text is a name. -/
def isName (s : List Char) : Bool :=
  isWhole name? s

/-- A text without the space at its start: blanks, tabs and line ends. -/
def skipSpace (s : List Char) : List Char :=
  s.dropWhile Char.isWhitespace

/-- A text after the space that it has to start with. -/
def afterSpace? : List Char → Option (List Char)
  | c :: rest => if c.isWhitespace then some (skipSpace rest) else none
  | [] => none

/-- The text after a fixed text that it starts with. -/
def after? : List Char → List Char → Option (List Char)
  | [], s => some s
  | c :: mark, d :: s => if c = d then after? mark s else none
  | _ :: _, [] => none

/-- The text before the first occurrence of a mark, and the text after it. -/
def splitAtMark? (mark : List Char) : List Char → Option (List Char × List Char)
  | [] => none
  | c :: rest =>
    match after? mark (c :: rest) with
    | some after => some ([], after)
    | none => (splitAtMark? mark rest).map (fun (before, after) => (c :: before, after))

/-- Whether a mark occurs in a text. -/
def hasMark (mark s : List Char) : Bool :=
  (splitAtMark? mark s).isSome

/-- A text between equal quotes, and the text after it. -/
def literal? : List Char → Option (List Char × List Char)
  | q :: rest =>
    if q = '"' || q = '\'' then splitAtMark? [q] rest else none
  | [] => none

/-- Line ends of every kind become a line feed. -/
def normalizeLineEnds : List Char → List Char
  | [] => []
  | '\r' :: '\n' :: rest => '\n' :: normalizeLineEnds rest
  | '\r' :: rest => '\n' :: normalizeLineEnds rest
  | c :: rest => c :: normalizeLineEnds rest

end ScriptingBindings.Markup
