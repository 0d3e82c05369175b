/-
  ScriptingBindings.Swift.TypeMap
  ──────────────────────────────────
  **FROM TYPES OF THE DICTIONARY TO SWIFT TYPES.**

  What counts of a type's name is what stands before its first dot.  Overrides
  come first, then the table of known types; every other name refers to a
  generated type.  A dotted text type refers to the generated text class.
-/
import ScriptingBindings.Dictionary.Basic
import ScriptingBindings.Swift.Names
import ScriptingBindings.Swift.Options
import ScriptingBindings.Swift.TypeRef

namespace ScriptingBindings.Swift

open Text

/-- The spelling of a type in the overrides or the table; an override may be empty. -/
def spelling? (overrides : OrderedMap Json) (name : String) : Option Json :=
  let key := lower name
  match overrides.get? key with
  | some .null => none
  | some v => some v
  | none => (knownTypes.lookup key).map Json.str

/-- The class that dotted text types refer to. -/
def dottedTextClass : String := "text"

namespace Naming

/-- The reference for the name of a type. -/
def mapBase (overrides : OrderedMap Json) (names : Names) (base : String) : Naming TypeRef :=
  if isAllBlank base.toList then throw (.unsupportedType base)
  else
    let head := String.ofList (base.toList.takeWhile (· != '.'))
    if base.toList.contains '.' && lower head == dottedTextClass then do
      return .generated (← reference names head)
    else
      match spelling? overrides head with
      | some v => return .plain v
      | none => do return .generated (← reference names head)

/-- The reference for a type with its list and optional parts. -/
def mapType (overrides : OrderedMap Json) (names : Names) (t : Dictionary.ValueType) :
    Naming TypeRef := do
  let r ← mapBase overrides names t.base
  let r := if t.isList then r.asList else r
  return if t.isOptional then r.asOptional else r

end Naming

/-- The reference for the name of a type, with every name made. -/
def mapBase (overrides : OrderedMap Json) (names : Names) (base : String) :
    Except GenerationError TypeRef :=
  (Naming.mapBase overrides names base).made

/-- The reference for a type, with every name made. -/
def mapType (overrides : OrderedMap Json) (names : Names) (t : Dictionary.ValueType) :
    Except GenerationError TypeRef :=
  (Naming.mapType overrides names t).made

end ScriptingBindings.Swift
