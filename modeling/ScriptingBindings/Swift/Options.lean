/-
  ScriptingBindings.Swift.Options
  ──────────────────────────────────
  **OPTIONS FOR SWIFT CODE.**

  What a configuration says about the generated code.  Switches take any value
  for what it counts as; the lists of further imports and of type overrides
  have to be of the right kind.
-/
import ScriptingBindings.Config.Basic
import ScriptingBindings.Text.Casing

namespace ScriptingBindings.Swift

/-- The modules that every file imports. -/
def Options.defaultImports : List String := ["Foundation", "ScriptingBridge"]

/-- What code is generated, and how. -/
structure Options where
  addComments : Bool := true
  classNames : Bool := false
  typedAccessors : Bool := false
  namespaceAliases : Bool := false
  flatAliases : Bool := false
  bundleIdentifier : Json := .null
  indentSize : Json := .int 4
  imports : List Json := Options.defaultImports.map Json.str
  /-- Spellings of types that differ from the usual ones, by lower case name. -/
  overrides : OrderedMap Json := []

namespace Options

/-- Whether a value is one of the modules that every file imports. -/
def isDefaultImport : Json → Bool
  | .str s => defaultImports.contains s
  | _ => false

/-- The imports with further ones after the usual ones. -/
def importsWith (more : Json) : Except Misuse (List Json) :=
  more.sequence.map fun vs =>
    defaultImports.map Json.str ++ vs.filter (fun v => !isDefaultImport v)

/-- Overrides by lower case name, of two that agree in it the later one. -/
def overridesOf : Json → Except Misuse (OrderedMap Json)
  | .obj fields =>
    .ok (OrderedMap.putAll [] (fields.map (fun field => (Text.lower field.1, field.2))))
  | _ => .error .noMember

/-- The custom settings as entries; a value that counts as false has none. -/
def customEntries (custom : Json) : Except Misuse (OrderedMap Json) :=
  if custom.isTruthy then
    match custom with
    | .obj fields => .ok fields
    | _ => .error .noMember
  else .ok []

/-- The options of a configuration. -/
def ofConfig (c : Config) : Except Misuse Options := do
  let custom ← customEntries c.custom
  let imports ← importsWith ((custom.get? "extra_imports").getD (.arr []))
  let overrides ← overridesOf ((custom.get? "type_overrides").getD (.obj []))
  return {
    addComments := c.addComments.isTruthy
    classNames := c.generateClassNamesEnum.isTruthy
    typedAccessors := c.generateStronglyTypedExtensions.isTruthy
    namespaceAliases := c.generateNamespaceTypealiases.isTruthy
    flatAliases := c.generateFlatTypealiases.isTruthy
    bundleIdentifier := c.bundleIdentifier
    indentSize := c.indentSize
    imports := imports
    overrides := overrides }

end Options

end ScriptingBindings.Swift
