/-
  ScriptingBindings.Config.Basic
  ──────────────────────────────────
  **CONFIGURATION.**

  Twelve settings and a group of custom ones.  Each may hold any value; what
  uses a setting finds out whether it can.  Settings are merged as entries,
  later ones in place of earlier ones, and entries that are no setting become
  custom ones.
-/
import ScriptingBindings.Json.Sequence
import ScriptingBindings.Text.Casing

namespace ScriptingBindings

/-! ## §1. Settings. -/

/-- The configuration of a run. -/
structure Config where
  /-- What all generated names start with; the name of the input if absent. -/
  basename : Json := .null
  outputDirectory : Json := .str "."
  includeHidden : Json := .bool false
  /-- Whether included documents are generated as well. -/
  generateRecursively : Json := .bool false
  /-- Where the standard definitions are; the usual place if absent. -/
  standardDefinitionsPath : Json := .null
  generateClassNamesEnum : Json := .bool false
  generateStronglyTypedExtensions : Json := .bool false
  generateNamespaceTypealiases : Json := .bool false
  generateFlatTypealiases : Json := .bool false
  bundleIdentifier : Json := .null
  addComments : Json := .bool true
  /-- The number of spaces in one level of indentation. -/
  indentSize : Json := .int 4
  custom : Json := .obj []

namespace Config

/-- The settings other than the custom ones, by name. -/
def settings (c : Config) : OrderedMap Json :=
  [("basename", c.basename), ("output_directory", c.outputDirectory),
   ("include_hidden", c.includeHidden), ("generate_recursively", c.generateRecursively),
   ("standard_definitions_path", c.standardDefinitionsPath),
   ("generate_class_names_enum", c.generateClassNamesEnum),
   ("generate_strongly_typed_extensions", c.generateStronglyTypedExtensions),
   ("generate_namespace_typealiases", c.generateNamespaceTypealiases),
   ("generate_flat_typealiases", c.generateFlatTypealiases),
   ("bundle_identifier", c.bundleIdentifier), ("add_comments", c.addComments),
   ("indent_size", c.indentSize)]

/-- The name of the group of custom settings. -/
def customName : String := "custom"

/-- The names of all settings. -/
def settingNames : List String :=
  ({} : Config).settings.keys ++ [customName]

/-- A configuration from settings by name; those that are missing have their defaults. -/
def ofSettings (m : OrderedMap Json) : Config :=
  let base : Config := {}
  { basename := (m.get? "basename").getD base.basename
    outputDirectory := (m.get? "output_directory").getD base.outputDirectory
    includeHidden := (m.get? "include_hidden").getD base.includeHidden
    generateRecursively := (m.get? "generate_recursively").getD base.generateRecursively
    standardDefinitionsPath :=
      (m.get? "standard_definitions_path").getD base.standardDefinitionsPath
    generateClassNamesEnum :=
      (m.get? "generate_class_names_enum").getD base.generateClassNamesEnum
    generateStronglyTypedExtensions :=
      (m.get? "generate_strongly_typed_extensions").getD base.generateStronglyTypedExtensions
    generateNamespaceTypealiases :=
      (m.get? "generate_namespace_typealiases").getD base.generateNamespaceTypealiases
    generateFlatTypealiases :=
      (m.get? "generate_flat_typealiases").getD base.generateFlatTypealiases
    bundleIdentifier := (m.get? "bundle_identifier").getD base.bundleIdentifier
    addComments := (m.get? "add_comments").getD base.addComments
    indentSize := (m.get? "indent_size").getD base.indentSize
    custom := (m.get? customName).getD base.custom }

/-- A configuration from settings by name, none of which may be unknown. -/
def ofKnownSettings (m : OrderedMap Json) : Except Misuse Config :=
  if m.keys.all settingNames.contains then .ok (ofSettings m) else .error .wrongKind

/-! ## §2. Merging. -/

/-- The settings that a language starts from. -/
def defaults (language : String) : OrderedMap Json :=
  if Text.lower language = "swift" then
    ((({} : Config).settings.erase "basename").erase "standard_definitions_path").put customName
      (.obj [("type_overrides", .obj [])])
  else []

/-- A configuration from entries; those that are no setting join the custom ones. -/
def ofEntries (m : OrderedMap Json) : Except Misuse Config :=
  let known : OrderedMap Json := m.filter (fun entry => settingNames.contains entry.1)
  let others : OrderedMap Json := m.filter (fun entry => !settingNames.contains entry.1)
  if others.isEmpty then .ok (ofSettings known)
  else do
    let given ← ((known.get? customName).getD (.obj [])).entries
    return ofSettings (known.put customName (.obj (OrderedMap.putAll given others)))

/-- Entries with those of a value written over them; a value that counts as false has none. -/
def overlaid (m : OrderedMap Json) (v : Json) : Except Misuse (OrderedMap Json) :=
  if v.isTruthy then v.entries.map m.putAll else .ok m

/-- All settings as entries: the custom ones come last, unless one has the name of a setting. -/
def entries (c : Config) : Except Misuse (OrderedMap Json) :=
  c.custom.entries.map c.settings.putAll

/-- A configuration with one custom setting written. -/
def setCustom (c : Config) (key : String) (value : Json) : Except Misuse Config :=
  match c.custom with
  | .obj fields => .ok { c with custom := .obj (OrderedMap.put fields key value) }
  | _ => .error .wrongKind

/-- The configuration for an included document, which has no flat aliases and does not
reach for the application. -/
def forInclusion (c : Config) : Config :=
  { c with generateFlatTypealiases := .bool false, bundleIdentifier := .null }

end Config

end ScriptingBindings
