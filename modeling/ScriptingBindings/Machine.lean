/-
  ScriptingBindings.Machine
  ──────────────────────────────────
  **WHAT THE PROGRAM RUNS ON.**

  Some things fail for no reason but that they are too large for the machine.
  How large is too large is the machine's, and nothing else depends on it.
-/

namespace ScriptingBindings

/-- What a machine can hold. -/
class Machine where
  /-- The greatest number of spaces that can be kept in one text. -/
  spaces : Nat
  /-- The greatest number of arrays and objects around a value that is read. -/
  depth : Nat
  /-- The greatest number of arrays and objects around a part of a setting that is copied. -/
  copies : Nat
  /-- The greatest number of missing directories that are made at once, each inside the one
  before. -/
  chain : Nat
  /-- What can be kept can be counted. -/
  spaces_lt : spaces < Nat.pow 2 63
  /-- What can be copied can be read, also as a member of an object. -/
  copies_lt : copies + 1 < depth

/-- A machine as it is set up by default. -/
@[reducible] def Machine.usual : Machine where
  spaces := Nat.pow 2 32
  depth := 985
  copies := 493
  chain := 988
  spaces_lt := by decide
  copies_lt := by decide

end ScriptingBindings
