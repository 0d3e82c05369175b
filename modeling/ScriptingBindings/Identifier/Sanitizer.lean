/-
  ScriptingBindings.Identifier.Sanitizer
  ──────────────────────────────────
  **LEGAL IDENTIFIERS.**

  A name becomes an identifier by joining its words in the case asked for.  An
  identifier that would start with a digit gets an underscore in front, one of
  which nothing is left is refused, and one that is a reserved word can be
  written in a pattern.
-/
import ScriptingBindings.Identifier.Casing
import ScriptingBindings.Identifier.Pattern

namespace ScriptingBindings.Identifier

open Text

/-! ## §1. Legality. -/

/-- A word character that is no decimal digit, then word characters; one line feed
may end the text. -/
def isLegal : List Char → Bool
  | [] => false
  | c :: rest =>
    isWordChar c && !isDecimal c &&
      (match rest.dropWhile isWordChar with
        | [] => true
        | ['\n'] => true
        | _ => false)

/-- A name of which no identifier can be made. -/
structure InvalidName where
  name : String
  deriving Repr, DecidableEq

/-- The text of the refusal of a name. -/
def InvalidName.message (e : InvalidName) : String :=
  "Invalid Swift identifier: " ++ e.name

/-! ## §2. Conversion. -/

/-- The two ways to join the words of a name. -/
inductive Style where
  /-- `homeURL` -/
  | camel
  /-- `HomeURL` -/
  | pascal
  deriving Repr, DecidableEq

/-- The words of a name joined in a style. -/
def Style.join : Style → List Char → List Char
  | .camel => camelCase
  | .pascal => pascalCase

/-- An identifier that starts with a digit gets an underscore in front. -/
def guardDigit : List Char → List Char
  | [] => []
  | c :: rest => if isDigit c then '_' :: c :: rest else c :: rest

/-- The identifier made of a name, before any escaping. -/
def identifier (style : Style) (name : String) : Except InvalidName String :=
  let converted := guardDigit (style.join name.toList)
  if isLegal converted then .ok (String.ofList converted) else .error ⟨name⟩

/-! ## §3. Escaping. -/

/-- The reserved words of a target language and what is written for them. -/
structure Sanitizer where
  reserved : List String := []
  pattern : Pattern := .graves

/-- Why a name is not sanitized. -/
inductive Refusal where
  /-- Nothing usable is left of it. -/
  | invalid (e : InvalidName)
  /-- The pattern cannot be filled with it. -/
  | pattern (m : Misuse)
  deriving Repr, DecidableEq

namespace Sanitizer

/-- Fill the pattern with an identifier that is a reserved word. -/
def escape (s : Sanitizer) (name : String) : Except Misuse String :=
  if s.reserved.contains name then s.pattern.fill name else .ok name

/-- The identifier made of a name, escaped if that is asked for and needed. -/
def sanitize (s : Sanitizer) (style : Style) (escaped : Bool) (name : String) :
    Except Refusal String := do
  let made ← (identifier style name).mapError .invalid
  if escaped then (s.escape made).mapError .pattern else return made

end Sanitizer

end ScriptingBindings.Identifier
