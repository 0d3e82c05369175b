/-
  ScriptingBindings.Identifier.Memory
  ──────────────────────────────────
  **IDENTIFIERS REMEMBERED.**

  A sanitizer keeps every identifier that it made and does not make it again.
  An identifier is kept under one text for the name, the style and whether it
  was escaped:

      home URL ⟨NUL⟩ camel ⟨NUL⟩ True

  A refusal is not kept.
-/
import ScriptingBindings.Identifier.Sanitizer
import ScriptingBindings.Log
import ScriptingBindings.OrderedMap

namespace ScriptingBindings.Identifier

/-! ## §1. Conversions. -/

/-- A conversion of a name that a sanitizer is asked for. -/
structure Conversion where
  name : String
  style : Style
  escaped : Bool
  deriving Repr, DecidableEq

/-- The word for a style. -/
def Style.label : Style → String
  | .camel => "camel"
  | .pascal => "pascal"

/-- The word for whether identifiers are escaped. -/
def escapedLabel : Bool → String
  | true => "True"
  | false => "False"

/-- What stands between the parts of a key. -/
def keySeparator : Char := '\x00'

/-- The text under which the identifier for a conversion is kept. -/
def Conversion.key (c : Conversion) : String :=
  c.name ++ keySeparator.toString ++ c.style.label ++ keySeparator.toString
    ++ escapedLabel c.escaped

/-! ## §2. Memory. -/

/-- The identifiers that were made, by their keys. -/
abbrev Memory := OrderedMap String

namespace Sanitizer

/-- The identifier for a conversion, made without looking anything up. -/
def convert (s : Sanitizer) (c : Conversion) : Except Refusal String :=
  s.sanitize c.style c.escaped c.name

/-- The identifier for a conversion: the one that is kept, else one that is made and kept. -/
def recalled (s : Sanitizer) (c : Conversion) (m : Memory) : Except Refusal String × Memory :=
  match m.get? c.key with
  | some made => (.ok made, m)
  | none =>
    match s.convert c with
    | .ok made => (.ok made, m.put c.key made)
    | .error e => (.error e, m)

/-- The identifiers for several conversions, one after the other. -/
def recallAll (s : Sanitizer) : Memory → List Conversion → List (Except Refusal String)
  | _, [] => []
  | m, c :: rest =>
    let (made, m) := s.recalled c m
    made :: s.recallAll m rest

end Sanitizer

/-! ## §3. Stages that ask. -/

/-- A stage that asks for identifiers. -/
inductive Asking (α : Type) where
  /-- It ends. -/
  | done (a : α)
  /-- It asks for an identifier and goes on with what it is told. -/
  | ask (c : Conversion) (next : Except Refusal String → Asking α)

namespace Asking

variable {α β : Type}

/-- A stage after another one. -/
protected def bind : Asking α → (α → Asking β) → Asking β
  | done a, f => f a
  | ask c next, f => ask c fun made => (next made).bind f

instance : Monad Asking where
  pure := done
  bind := Asking.bind

instance : LawfulMonad Asking := LawfulMonad.mk' Asking
  (fun x => by
    show x.bind done = x
    induction x with
    | done a => rfl
    | ask c next ih => exact congrArg (ask c) (funext ih))
  (fun _ _ => rfl)
  (fun x f g => by
    show (x.bind f).bind g = x.bind fun a => (f a).bind g
    induction x with
    | done a => rfl
    | ask c next ih => exact congrArg (ask c) (funext ih))

/-- The run of a stage when each of its questions is answered in some way. -/
def answered {M : Type → Type} [Monad M] (answer : Conversion → M (Except Refusal String)) :
    Asking α → M α
  | done a => pure a
  | ask c next => do
    let made ← answer c
    (next made).answered answer

/-- What a stage comes to if every identifier is made. -/
def made (s : Sanitizer) (x : Asking α) : α :=
  Id.run (x.answered fun c => pure (s.convert c))

/-- What a stage comes to if identifiers are kept, and what is kept after it. -/
def recalled (s : Sanitizer) (x : Asking α) : StateM Memory α :=
  x.answered s.recalled

end Asking

end ScriptingBindings.Identifier
