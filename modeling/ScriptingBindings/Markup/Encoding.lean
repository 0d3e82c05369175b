/-
  ScriptingBindings.Markup.Encoding
  ──────────────────────────────────
  **THE ENCODING OF A DOCUMENT.**

  A document arrives as bytes.  It is UTF-8 unless its declaration names
  another encoding or its start shows that it is UTF-16; a byte order mark
  settles on either whatever is declared.  Bytes that the encoding cannot have
  are refused.
-/
import ScriptingBindings.Content
import ScriptingBindings.Markup.Character
import ScriptingBindings.Markup.Encoding.CodePage
import ScriptingBindings.Markup.Encoding.DoubleByte
import ScriptingBindings.Markup.Encoding.Units
import ScriptingBindings.Text.Casing

namespace ScriptingBindings.Markup

/-! ## §1. Encodings. -/

/-- The ways to read the bytes of a document. -/
inductive Encoding where
  /-- Unicode in one to four bytes a character. -/
  | utf8
  /-- Unicode in ASCII. -/
  | utf7
  /-- One byte a character. -/
  | codePage (p : CodePage)
  /-- One or two bytes a character. -/
  | doubleByte (d : DoubleByte)

/-- The encoding of a declared name, in any letter case. -/
def Encoding.ofName? (name : String) : Option Encoding :=
  let key := Text.upper name
  if ["UTF-8", "UTF8"].contains key then some .utf8
  else if ["UTF-7", "UNICODE-1-1-UTF-7", "CSUNICODE11UTF7"].contains key then some .utf7
  else
    match CodePage.all.find? (·.names.contains key) with
    | some p => some (.codePage p)
    | none => (DoubleByte.all.find? (·.names.contains key)).map .doubleByte

/-- The characters of a content in an encoding. -/
def Encoding.characters? (e : Encoding) (content : Content) : Option (List Char) :=
  match e with
  | .utf8 => content.text?.map String.toList
  | .utf7 => content.text?.bind fun text => Utf7.decode? text.toList
  | .codePage p => p.decode? content.byteValues
  | .doubleByte d => d.decode? content.byteValues

/-! ## §2. The declaration. -/

/-- What the declaration at the start of a document says. -/
structure Declaration where
  encoding : Option String := none
  standalone : Bool := false
  deriving Repr, DecidableEq

/-- A version number whose first part is one. -/
def isVersion (s : List Char) : Bool :=
  match s with
  | '1' :: '.' :: digits => digits.all Char.isDigit
  | _ => false

/-- The name of an encoding: a letter, then letters, digits, dots, underscores and hyphens. -/
def isEncodingName (s : List Char) : Bool :=
  match s with
  | c :: rest =>
    c.isAlpha && rest.all fun d => d.isAlphanum || d == '.' || d == '_' || d == '-'
  | [] => false

/-- A setting `key = "value"` at the start of a text. -/
def setting? (key : List Char) (s : List Char) : Option (List Char × List Char) := do
  let s ← after? key s
  let s ← after? ['='] (skipSpace s)
  literal? (skipSpace s)

/-- The settings after the version, and the text after the declaration. -/
def settings? (d : Declaration) (s : List Char) : Option (Declaration × List Char) :=
  let ending (d : Declaration) (s : List Char) : Option (Declaration × List Char) :=
    (after? ['?', '>'] (skipSpace s)).map (fun rest => (d, rest))
  let standalone (d : Declaration) (s : List Char) : Option (Declaration × List Char) :=
    match afterSpace? s with
    | some t =>
      if (after? "standalone".toList t).isSome then do
        let (value, rest) ← setting? "standalone".toList t
        if value = "yes".toList then ending { d with standalone := true } rest
        else if value = "no".toList then ending d rest
        else none
      else ending d s
    | none => ending d s
  match afterSpace? s with
  | some t =>
    if (after? "encoding".toList t).isSome then do
      let (value, rest) ← setting? "encoding".toList t
      if isEncodingName value then
        standalone { d with encoding := some (String.ofList value) } rest
      else none
    else standalone d s
  | none => standalone d s

/-- The declaration of a document and the text after it.  A document without one has the
empty declaration; a faulty one is refused. -/
def Declaration.read? (s : List Char) : Option (Declaration × List Char) :=
  match after? "<?xml".toList s with
  | some rest =>
    match afterSpace? rest with
    | some rest => do
      let (version, rest) ← setting? "version".toList rest
      if isVersion version then settings? {} rest else none
    | none => some ({}, s)
  | none => some ({}, s)

/-! ## §3. The characters of a document. -/

/-- The byte order mark, as a character. -/
def orderMark : Char := '\uFEFF'

/-- A document without the mark at its start, and whether it had one. -/
def unmarked (s : List Char) : Bool × List Char :=
  match s with
  | c :: rest => if c = orderMark then (true, rest) else (false, c :: rest)
  | [] => (false, [])

/-- The characters in which a declaration is looked for: those of a text, and otherwise one for
each byte. -/
def declared (content : Content) : List Char :=
  match content with
  | .text s => s.toList
  | .raw _ => content.byteValues.map Char.ofNat

/-- The first bytes of a content, those of a text as far as they are characters of their own. -/
def firstBytes (content : Content) : List Nat :=
  match content with
  | .text s => ((s.toList.take 4).map Char.toNat).takeWhile (· < 0x80)
  | .raw _ => content.byteValues.take 4

/-- The characters of a document. -/
def characters? (content : Content) : Option (List Char) :=
  match Utf16.highFirst? (firstBytes content) with
  | some highFirst =>
    (Utf16.decode? highFirst content.byteValues).map fun s => (unmarked s).2
  | none => do
    let (marked, s) := unmarked (declared content)
    let (d, _) ← Declaration.read? (normalizeLineEnds s)
    match marked, d.encoding with
    | false, some name => (← Encoding.ofName? name).characters? content
    | _, _ => if content.text?.isSome then some s else none

/-- The declaration of a document and the characters after it, with line feeds for all line
ends. -/
def decoded? (content : Content) : Option (Declaration × List Char) := do
  let chars := normalizeLineEnds (← characters? content)
  if chars.all isDocumentChar then Declaration.read? chars else none

end ScriptingBindings.Markup
