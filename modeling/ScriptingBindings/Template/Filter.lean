/-
  ScriptingBindings.Template.Filter
  ──────────────────────────────────
  **FILTERS.**

  What a template does to a value before it writes it: put a comment marker
  before every line, indent every line, join the items, or encode a
  four-character code.  A line of nothing but blanks gets the bare marker, and
  no indentation.
-/
import ScriptingBindings.FourCharCode
import ScriptingBindings.Json.Sequence
import ScriptingBindings.Text.Blank
import ScriptingBindings.Text.Lines

namespace ScriptingBindings.Template

open Text

/-! ## §1. Lines. -/

/-- A text with a change made to every line. -/
def mapLines (f : List Char → List Char) (s : List Char) : List Char :=
  unlines ((lines s).map f)

/-- A line after a comment marker. -/
def commentLine (marker line : List Char) : List Char :=
  if isAllBlank line then marker else marker ++ ' ' :: line

/-- A line after some spaces. -/
def indentLine (spaces : Nat) (line : List Char) : List Char :=
  if isAllBlank line then line else List.replicate spaces ' ' ++ line

/-- A text with a comment marker before every line. -/
def comment (marker : List Char) (s : List Char) : List Char :=
  mapLines (commentLine marker) s

/-- A text with every line indented. -/
def indent (spaces : Nat) (s : List Char) : List Char :=
  mapLines (indentLine spaces) s

/-! ## §2. Values. -/

/-- The character of a text of one character. -/
def character? : Json → Option Char
  | .str s =>
    match s.toList with
    | [c] => some c
    | _ => none
  | _ => none

/-- The code of a value: a text, or four characters in a sequence. -/
def fourCharCode : Json → Except Misuse String
  | .str s => .ok (FourCharCode.encode s)
  | .broken b => .ok (FourCharCode.encode b.shown)
  | .arr vs =>
    if vs.length = 4 then
      match vs.mapM character? with
      | some cs => .ok (FourCharCode.encode (String.ofList cs))
      | none => .error .wrongKind
    else .error .noMember
  | .obj fields =>
    match fields.length, (fields.map (fun field => Json.str field.1)).mapM character? with
    | 4, some cs => .ok (FourCharCode.encode (String.ofList cs))
    | _, _ => .error .wrongKind
  | _ => .error .wrongKind

/-- A filter. -/
inductive Filter where
  /-- Comment markers before the lines. -/
  | comment
  /-- The lines indented by one level. -/
  | indent
  /-- The items with a comma between neighbours. -/
  | join
  /-- The literal of a four-character code. -/
  | fourCharCode
  deriving Repr, DecidableEq

/-- The marker of documentation comments. -/
def commentMarker : String := "///"

/-- The spaces of one level. -/
def levelWidth : Nat := 4

/-- The value that a filter makes of a value. -/
def Filter.apply : Filter → Json → Except Misuse Json
  | comment, v =>
    .ok (.str (String.ofList (Template.comment commentMarker.toList v.display.toList)))
  | indent, v => .ok (.str (String.ofList (Template.indent levelWidth v.display.toList)))
  | join, v => v.sequence.map (fun vs => .str (", ".intercalate (vs.map Json.display)))
  | fourCharCode, v => (Template.fourCharCode v).map .str

end ScriptingBindings.Template
