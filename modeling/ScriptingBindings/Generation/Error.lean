/-
  ScriptingBindings.Generation.Error
  ──────────────────────────────────
  **WHY CODE CANNOT BE GENERATED.**

  Most failures are the dictionary's: a name of which nothing usable is left,
  a type without a name, an extension that was not merged.  These are reported
  as results.  The misuse of a configuration value is not; it ends the run.
-/
import ScriptingBindings.Identifier.Sanitizer
import ScriptingBindings.Template.Store

namespace ScriptingBindings

/-- Why code cannot be generated. -/
inductive GenerationError where
  /-- Nothing usable is left of a name. -/
  | invalidName (e : Identifier.InvalidName)
  /-- A type has no name. -/
  | unsupportedType (base : String)
  /-- An extension was not merged with a class. -/
  | unmerged (target suite : String)
  /-- A template gave no text. -/
  | render (e : Template.RenderError)
  /-- A value cannot be used as it is. -/
  | misuse (m : Misuse)
  deriving Repr, DecidableEq

namespace GenerationError

/-- The words for a failure. -/
def message : GenerationError → String
  | invalidName e => e.message
  | unsupportedType base => "Unsupported SDEF type: " ++ Text.quoted base
  | unmerged target suite =>
    "Invalid SDEF model: unresolved class-extension of '" ++ target ++ "' in suite '" ++ suite
      ++ "'"
  | render e => e.message
  | misuse _ => "wrong kind of value"

/-- The refusal of a name as a failure. -/
def ofRefusal : Identifier.Refusal → GenerationError
  | .invalid e => invalidName e
  | .pattern m => misuse m

/-- The misuse behind a failure, which then is not reported as a result. -/
def misuse? : GenerationError → Option Misuse
  | misuse m => some m
  | render ⟨_, .fault (.misuse m)⟩ => some m
  | _ => none

end GenerationError

end ScriptingBindings
