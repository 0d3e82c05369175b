/-
  ScriptingBindings.Generation.Request
  ──────────────────────────────────
  **ASKING FOR CODE.**

  A request names a language and says where its configuration comes from: the
  defaults, an object of settings, a file, or a finished configuration.  It is
  made for a merged dictionary, for the dictionaries that one includes, for a
  file, or for the content of a document.
-/
import ScriptingBindings.Build
import ScriptingBindings.Config.File
import ScriptingBindings.Generation.Result

namespace ScriptingBindings

open FileSystem (Path)

/-! ## §1. Generators by language. -/

/-- Where a configuration comes from. -/
inductive ConfigSource where
  /-- A value: nothing, settings, or the path of a file. -/
  | value (v : Json)
  /-- A finished configuration. -/
  | ready (c : Config)

/-- Why there is no generator. -/
inductive CreationError where
  /-- No language has that name. -/
  | unknownLanguage (name : String)
  /-- The configuration is given as a value of a kind that says nothing. -/
  | badConfig (kind : String)
  /-- The configuration cannot be loaded or used. -/
  | failed (language : String) (cause : Option ConfigError)
  deriving Repr, DecidableEq

/-- The words for a missing generator. -/
def CreationError.message : CreationError → String
  | unknownLanguage name =>
    "No generator registered for language: " ++ name ++ ". Available: "
      ++ ", ".intercalate Language.names
  | badConfig kind => "Invalid config type: <class '" ++ kind ++ "'>"
  | failed language cause =>
    "Failed to create " ++ language ++ " generator" ++
      match cause with
      | some e => ": " ++ e.message
      | none => ""

/-- A generation as it was asked for. -/
structure Request where
  language : String := "swift"
  config : ConfigSource := .value .null

namespace Request

variable [Machine]

/-- The name of a kind of values that is no source of a configuration. -/
def badKind? : Json → Option String
  | .null | .str _ | .broken _ | .obj _ => none
  | .bool _ => some "bool"
  | .int _ => some "int"
  | .fractional _ => some "float"
  | .arr _ => some "list"

/-- The configuration from its source. -/
def loadConfig (files : FileSystem) (language : Language) :
    ConfigSource → Except ConfigFailure Config
  | .ready c => .ok c
  | .value v =>
    if v.name?.isSome then Config.load files language.name .null v
    else Config.load files language.name v .null

/-- A failure of configuration as the failure to make a generator. -/
def creationError (language : String) : ConfigFailure → CreationError
  | .error e => .failed language (some e)
  | .path _ | .misuse _ => .failed language none

/-- The configuration and the generator of a request. -/
def generator (r : Request) (files : FileSystem) : Except CreationError (Config × Generator) :=
  match Language.find? r.language with
  | none => .error (.unknownLanguage r.language)
  | some language =>
    match r.config with
    | .value v =>
      match badKind? v with
      | some kind => .error (.badConfig kind)
      | none => make language r.config
    | .ready _ => make language r.config
where
  /-- The configuration and the generator for a known language. -/
  make (language : Language) (source : ConfigSource) : Except CreationError (Config × Generator) :=
    (do
      let c ← loadConfig files language source
      let g ← (Generator.ofConfig c).mapError .misuse
      return (c, g)).mapError (creationError r.language)

/-! ## §2. Requests. -/

/-- Why a request is not answered. -/
inductive Refusal where
  /-- There is no generator for it. -/
  | creation (e : CreationError)
  /-- A value cannot be used as it is. -/
  | misuse (m : Misuse)
  /-- There is no dictionary for it. -/
  | build (e : BuildError)
  /-- The generation failed where only code is an answer. -/
  | failed (e : GenerationError)
  /-- There is code where only a text is an answer, and it shows a broken one. -/
  | unencodable (shown : String)
  deriving Repr, DecidableEq

/-- Run a generator once. -/
def run (g : Generator) (d : Dictionary) (basename : String) : Run Refusal Generated := do
  let (_, result) ← Run.ofLogged (g.generate d basename)
  Run.ofExcept (result.mapError .misuse)

/-- Generate code for a merged dictionary. -/
def ofDictionary (r : Request) (files : FileSystem) (d : Dictionary) (basename : String) :
    Run Refusal Generated := do
  let (_, g) ← Run.ofExcept ((r.generator files).mapError .creation)
  run g d basename

/-- Generate code for every dictionary that a merged one includes, by basename. -/
def ofInclusions (r : Request) (files : FileSystem) (d : Dictionary) :
    Run Refusal (OrderedMap Generated) := do
  let (c, _) ← Run.ofExcept ((r.generator files).mapError .creation)
  let included : Request := { r with config := .ready c.forInclusion }
  let (_, g) ← Run.ofExcept ((included.generator files).mapError .creation)
  d.inclusions.foldlM (fun results i => do
    return OrderedMap.put results i.basename (← run g i.content i.basename)) []

/-- Generate code for the document in a file, named after it unless a name is given. -/
def ofFile (r : Request) (files : FileSystem) (settings : BuildSettings) (path basename : String) :
    Run Refusal Generated := do
  let d ← (Build.load { files := files } settings path "").mapError .build
  let basename := if basename.isEmpty then (Path.ofString path).stem else basename
  r.ofDictionary files d basename

/-- The settings for building that are among the settings of a configuration. -/
def quickSettings (options : OrderedMap Json) : BuildSettings where
  includeHidden := ((options.get? "include_hidden").getD (.bool false)).isTruthy
  standard := (options.get? "standard_definitions_path").getD .null

/-- The name of the option that is no setting but the language of the code. -/
def languageName : String := "language"

/-- The names that a quick generation has for the content and the basename, which are given by
their places. -/
def placeNames : List String := ["sdef_xml", "basename"]

/-- The language that is asked for among options, Swift if none is. -/
def languageOf (options : OrderedMap Json) : Except Misuse String :=
  match options.get? languageName with
  | none => .ok Language.swift.name
  | some v => v.name?.elim (.error .noMember) .ok

/-- The code for the content of a document, in one step.  All options but the language are
settings. -/
def quick (files : FileSystem) (content : Content) (basename : String)
    (options : OrderedMap Json) : Run Refusal String := do
  if options.keys.any placeNames.contains then throw (.misuse .wrongKind)
  else
    let settings := options.erase languageName
    let document ← (Document.ofContent content).mapError (fun e => .build (.load e))
    let d ← (Build.ofRoot files (quickSettings settings) (some document.root)).mapError .build
    let language ← Run.ofExcept ((languageOf options).mapError .misuse)
    let r : Request := ⟨language, .value (.obj settings)⟩
    match ← r.ofDictionary files d basename with
    | .code text _ _ => return text
    | .unencodable shown _ _ => throw (.unencodable shown)
    | .failed e => throw (.failed e)

end Request

end ScriptingBindings
