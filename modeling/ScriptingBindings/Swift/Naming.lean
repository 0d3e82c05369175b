/-
  ScriptingBindings.Swift.Naming
  ──────────────────────────────────
  **STAGES THAT ASK FOR NAMES.**

  What is named and declared depends on the identifiers that the sanitizer
  gives.  A stage asks for them, one after the other, and leaves it open how
  they come about:

      Naming       asks for names and may fail
      Stage        asks for names and leaves records
      Declaring    does all of this

  For one file every identifier is made.  A generator that lives on goes
  through the same stages and keeps the identifiers.
-/
import ScriptingBindings.Generation.Error
import ScriptingBindings.Identifier.Memory
import ScriptingBindings.Swift.Keyword

namespace ScriptingBindings.Swift

open Identifier

variable {α : Type}

/-! ## §1. Stages. -/

/-- A stage that asks for names and may fail. -/
abbrev Naming (α : Type) := ExceptT GenerationError Asking α

/-- A stage that asks for names and leaves records. -/
abbrev Stage (α : Type) := LoggedT Asking α

/-- A stage that asks for names, leaves records and may fail; the records survive the failure. -/
abbrev Declaring (α : Type) := ExceptT GenerationError Stage α

/-- The identifier for a conversion. -/
def Naming.convert (c : Conversion) : Naming String :=
  ExceptT.mk (.ask c fun made => .done (made.mapError .ofRefusal))

/-- A stage that asks for nothing. -/
def Naming.ofExcept (x : Except GenerationError α) : Naming α :=
  ExceptT.mk (pure x)

/-- A stage that asks for nothing. -/
def Stage.ofLogged (x : Logged α) : Stage α :=
  LoggedT.ofLogged x

/-- A stage that goes on after a failure. -/
def Stage.ofNaming (x : Naming α) : Stage (Except GenerationError α) :=
  LoggedT.ofStage x.run

namespace Declaring

/-- A stage that leaves no records. -/
def ofNaming (x : Naming α) : Declaring α :=
  ExceptT.mk (Stage.ofNaming x)

/-- A stage that asks for nothing. -/
def ofRun (x : Run GenerationError α) : Declaring α :=
  ExceptT.mk (Stage.ofLogged x.logged)

/-- A stage that asks for nothing and leaves no records. -/
def ofExcept (x : Except GenerationError α) : Declaring α :=
  ofRun (Run.ofExcept x)

end Declaring

/-! ## §2. Every name made. -/

/-- What a stage comes to if every name is made. -/
def Naming.made (x : Naming α) : Except GenerationError α :=
  Asking.made sanitizer x.run

/-- What a stage comes to if every name is made. -/
def Stage.made (x : Stage α) : Logged α :=
  Asking.made sanitizer x

/-- What a stage comes to if every name is made. -/
def Declaring.made (x : Declaring α) : Run GenerationError α :=
  ExceptT.mk (Stage.made x.run)

/-! ## §3. Names kept. -/

/-- What a stage comes to if names are kept, and what is kept after it. -/
def Stage.recalled (x : Stage α) : StateM Memory (Logged α) :=
  Asking.recalled sanitizer x

end ScriptingBindings.Swift
