/-
  ScriptingBindings.Misuse
  ──────────────────────────────────
  **VALUES OF THE WRONG KIND.**

  Configuration values keep any kind until a stage uses them.  A use that the
  kind of a value does not allow ends the stage in one of these ways.
-/

namespace ScriptingBindings

/-- How the use of a value can fail. -/
inductive Misuse where
  /-- The operation is not defined for values of this kind. -/
  | wrongKind
  /-- Values of this kind have no such member. -/
  | noMember
  /-- The kind is right but the value is not. -/
  | wrongValue
  /-- A name is looked up that was never set. -/
  | unknownName
  /-- A place is asked for behind the last one. -/
  | outOfRange
  /-- A number is too large to count with. -/
  | tooLarge
  /-- Values are nested too deeply. -/
  | tooDeep
  /-- A text would be longer than can be kept. -/
  | outOfMemory
  /-- Bytes are read as a text and are none. -/
  | undecodable
  /-- A text with half of a pair is printed, written or used as a path. -/
  | unencodable
  deriving Repr, DecidableEq

end ScriptingBindings
