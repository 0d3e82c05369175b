/-
  ScriptingBindings.Json.Writer
  ──────────────────────────────────
  **WRITING JSON.**

  Two forms of one grammar: on a single line, and with one member or item a
  line, indented by two spaces a level.  Only the quote, the backslash and the
  control characters are escaped.
-/
import ScriptingBindings.Json.Display

namespace ScriptingBindings.Json

/-! ## §1. Texts. -/

/-- A character as it stands inside a JSON string. -/
def writtenChar (c : Char) : List Char :=
  if c = '"' then ['\\', '"']
  else if c = '\\' then ['\\', '\\']
  else if c = '\n' then ['\\', 'n']
  else if c = '\r' then ['\\', 'r']
  else if c = '\t' then ['\\', 't']
  else if c = '\x08' then ['\\', 'b']
  else if c = '\x0c' then ['\\', 'f']
  else if c.toNat < 0x20 then '\\' :: 'u' :: Text.hexDigits 4 c.toNat
  else [c]

/-- A text as a JSON string. -/
def writtenText (s : String) : List Char :=
  '"' :: s.toList.flatMap writtenChar ++ ['"']

/-- A code point as it stands inside a JSON string. -/
def writtenCode : Text.Code → List Char
  | .char c => writtenChar c
  | .half n => '\\' :: 'u' :: Text.hexDigits 4 (Text.Code.numberOf n)

/-! ## §2. Layouts. -/

/-- What stands around and between the parts of a container. -/
structure Layout where
  /-- After an opening bracket and after each comma, at a nesting level. -/
  breakAt : Nat → List Char
  /-- After the colon of a member. -/
  gap : List Char

/-- Everything on one line. -/
def Layout.compact : Layout where
  breakAt _ := []
  gap := []

/-- One member or item a line, two spaces a level. -/
def Layout.indented : Layout where
  breakAt level := '\n' :: List.replicate (2 * level) ' '
  gap := [' ']

/-! ## §3. Values. -/

/-- The words among the values of a file. -/
def inJson : NumberWords := ⟨"Infinity", "NaN"⟩

mutual

/-- A value at a nesting level. -/
def written (layout : Layout) (level : Nat) : Json → List Char
  | null => "null".toList
  | bool b => (if b then "true" else "false").toList
  | int n => (toString n).toList
  | fractional x => (x.text inJson).toList
  | str s => writtenText s
  | broken b => '"' :: b.codes.flatMap writtenCode ++ ['"']
  | arr [] => ['[', ']']
  | arr (v :: rest) =>
    '[' :: layout.breakAt (level + 1) ++ written layout (level + 1) v
      ++ writtenItems layout (level + 1) rest ++ layout.breakAt level ++ [']']
  | obj [] => ['\x7b', '\x7d']
  | obj ((k, v) :: rest) =>
    '\x7b' :: layout.breakAt (level + 1) ++ writtenText k ++ ':' :: layout.gap
      ++ written layout (level + 1) v
      ++ writtenFields layout (level + 1) rest ++ layout.breakAt level ++ ['\x7d']

/-- The items after the first, each after a comma. -/
def writtenItems (layout : Layout) (level : Nat) : List Json → List Char
  | [] => []
  | v :: rest =>
    ',' :: layout.breakAt level ++ written layout level v ++ writtenItems layout level rest

/-- The members after the first, each after a comma. -/
def writtenFields (layout : Layout) (level : Nat) : List (String × Json) → List Char
  | [] => []
  | (k, v) :: rest =>
    ',' :: layout.breakAt level ++ writtenText k ++ ':' :: layout.gap
      ++ written layout level v ++ writtenFields layout level rest

end

/-- A value on one line. -/
def compact (v : Json) : String :=
  String.ofList (written .compact 0 v)

/-- A value with one member or item a line. -/
def pretty (v : Json) : String :=
  String.ofList (written .indented 0 v)

end ScriptingBindings.Json
