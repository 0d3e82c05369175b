/-
  ScriptingBindings.Config.File
  ──────────────────────────────────
  **CONFIGURATION FILES.**

  A configuration file holds a JSON object whose members are settings.  They
  are written over the defaults of the language, and settings that are given
  directly are written over those of the file.  A configuration is copied
  before it is saved, and one that is nested too deeply is not written at all.
-/
import ScriptingBindings.Config.Basic
import ScriptingBindings.FileSystem.Basic
import ScriptingBindings.Json.Reader

namespace ScriptingBindings

open FileSystem (Path PathError)

/-! ## §1. Failures. -/

/-- Why a configuration cannot be loaded or saved. -/
inductive ConfigError where
  /-- There is no such file. -/
  | fileNotFound (path : Path)
  /-- The name of the file does not end in `.json`. -/
  | wrongExtension (path : Path)
  /-- The file holds no JSON value. -/
  | invalidJson (path : Path)
  /-- The file cannot be read. -/
  | unreadable (e : PathError)
  /-- The file holds a value other than an object. -/
  | notAnObject (path : Path)
  /-- The file cannot be written. -/
  | unwritable (e : PathError)
  deriving Repr, DecidableEq

/-- The words for a failure. -/
def ConfigError.message : ConfigError → String
  | fileNotFound path => "Configuration file not found: " ++ path.text
  | wrongExtension path => "Configuration file must be JSON: " ++ path.text
  | invalidJson path => "Invalid JSON in configuration file " ++ path.text
  | unreadable e => "Failed to load configuration file " ++ e.path.text ++ ": " ++ e.message
  | notAnObject path => "Configuration file must contain a JSON object: " ++ path.text
  | unwritable e => "Failed to save configuration to " ++ e.path.text ++ ": " ++ e.message

/-- How loading or saving a configuration ends without one. -/
inductive ConfigFailure where
  /-- For a reason that configuration knows of. -/
  | error (e : ConfigError)
  /-- The path cannot even be looked for. -/
  | path (e : PathError)
  /-- A value cannot be used as it is. -/
  | misuse (m : Misuse)
  deriving Repr, DecidableEq

namespace Config

variable [Machine]

/-! ## §2. Loading. -/

/-- The extension of configuration files. -/
def fileExtension : String := ".json"

/-- The members of the object in a file. -/
def readFile (files : FileSystem) (path : Path) : Except ConfigFailure (OrderedMap Json) := do
  if !(← (files.hasPath path).mapError .path) then throw (.error (.fileNotFound path))
  else if !path.hasExtension fileExtension then throw (.error (.wrongExtension path))
  else
    let content ← (files.read path).mapError (fun e => .error (.unreadable e))
    match content.text?.map Json.read with
    | none => throw (.misuse .undecodable)
    | some (.error .malformed) => throw (.error (.invalidJson path))
    | some (.error .tooManyDigits) => throw (.misuse .wrongValue)
    | some (.error .tooDeep) => throw (.misuse .tooDeep)
    | some (.ok (.obj fields)) => return fields
    | some (.ok _) => throw (.error (.notAnObject path))

/-- The entries of a file, if one is given. -/
def fileEntries (files : FileSystem) (file : Json) : Except ConfigFailure (OrderedMap Json) :=
  if file.isTruthy then
    match file.name? with
    | some path => readFile files (.ofString path)
    | none => .error (.misuse .wrongKind)
  else .ok []

/-- The configuration for a language with the settings of a file and then those of a value
written over its defaults. -/
def load (files : FileSystem) (language : String) (custom file : Json) :
    Except ConfigFailure Config := do
  let m := (defaults language).putAll (← fileEntries files file)
  let m ← (overlaid m custom).mapError .misuse
  (ofEntries m).mapError .misuse

/-! ## §3. Saving. -/

/-- Whether all settings can be copied. -/
def isCopied (c : Config) : Bool :=
  (c.custom :: c.settings.map Prod.snd).all (fun v => v.nesting ≤ Machine.copies)

/-- The members of a configuration file. -/
def fileMembers (c : Config) : Except Misuse (OrderedMap Json) :=
  if c.isCopied then c.entries else .error .tooDeep

/-- Write a configuration to a file. -/
def save (files : FileSystem) (c : Config) (path : Path) : Except ConfigFailure FileSystem := do
  let m ← c.fileMembers.mapError .misuse
  let files ← (files.write path (Json.obj m).pretty).mapError fun e =>
    if e.fault = .noPath then .path e else .error (.unwritable e)
  -- What cannot be written is met only when the file is there.
  match (Json.obj m).writeFault? with
  | none => return files
  | some fault => throw (.misuse fault)

end Config

end ScriptingBindings
