/-
  ScriptingBindings.Config.Validation
  ──────────────────────────────────
  **CHECKING A CONFIGURATION.**

  The name that all generated names start with has to be an identifier of
  ASCII letters, digits and underscores, the application's identifier a text
  of letters, digits, dots and hyphens, the indentation positive, and the type
  overrides an object.  A line feed at the end of a name passes.
-/
import ScriptingBindings.Config.Basic

namespace ScriptingBindings.Config

/-! ## §1. Names. -/

/-- Whether a text starts with a character of one kind, goes on with characters of another,
and ends there or with one line feed. -/
def isShaped (first rest : Char → Bool) : List Char → Bool
  | [] => false
  | c :: cs =>
    first c &&
      (match cs.dropWhile rest with
        | [] => true
        | ['\n'] => true
        | _ => false)

/-- A text that generated names can start with. -/
def isBasename (s : String) : Bool :=
  isShaped (fun c => c.isAlpha || c == '_') (fun c => c.isAlphanum || c == '_') s.toList

/-- A text that can identify an application. -/
def isBundleIdentifier (s : String) : Bool :=
  isShaped Char.isAlphanum (fun c => c.isAlphanum || c == '.' || c == '-') s.toList

/-! ## §2. Warnings. -/

/-- The warning for an optional text that fails a test, with the text between quotes.  No broken
text passes. -/
def textWarning (test : String → Bool) (warning : String → String) :
    Json → Except Misuse (List String)
  | .null => .ok []
  | .str s => .ok (if test s then [] else [warning (Text.quoted s)])
  | .broken b => .ok [warning b.quoted]
  | _ => .error .wrongKind

/-- The warning about the basename. -/
def basenameWarning : Json → Except Misuse (List String) :=
  textWarning isBasename fun quoted =>
    "Invalid basename: " ++ quoted ++ " (use letters, digits and underscores only)"

/-- The warning about the identifier of the application. -/
def bundleWarning : Json → Except Misuse (List String) :=
  textWarning isBundleIdentifier ("Invalid bundle_identifier: " ++ ·)

/-- Whether a number is less than one. -/
def isBelowOne : Json → Except Misuse Bool
  | .int n => .ok (n < 1)
  | .bool b => .ok !b
  | .fractional x => .ok x.isBelowOne
  | _ => .error .wrongKind

/-- The warning about the indentation. -/
def indentWarning (v : Json) : Except Misuse (List String) :=
  (isBelowOne v).map fun low => if low then ["Invalid indent_size: " ++ v.display] else []

/-- The warning about the type overrides. -/
def overridesWarning : Json → Except Misuse (List String)
  | .obj fields =>
    match OrderedMap.get? fields "type_overrides" with
    | none | some (.obj _) => .ok []
    | some _ => .ok ["type_overrides must map sdef type names to Swift types"]
  | _ => .error .noMember

/-- The warnings about a configuration for a language, in a fixed order. -/
def warnings (c : Config) (language : String := "swift") : Except Misuse (List String) := do
  let basename ← basenameWarning c.basename
  let indent ← indentWarning c.indentSize
  let bundle ← bundleWarning c.bundleIdentifier
  let overrides ← if language = "swift" then overridesWarning c.custom else .ok []
  return basename ++ indent ++ bundle ++ overrides

end ScriptingBindings.Config
