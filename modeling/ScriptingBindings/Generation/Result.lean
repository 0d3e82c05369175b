/-
  ScriptingBindings.Generation.Result
  ──────────────────────────────────
  **THE RESULT OF A GENERATION.**

  A generation checks the dictionary, writes the code and lays it out.  It
  ends with the code, warnings and some counts, or with the reason of its
  failure.  A generator keeps the names of its last run, so that it can be
  asked for single names and declarations afterwards.
-/
import ScriptingBindings.Language
import ScriptingBindings.Layout
import ScriptingBindings.Swift.Unit

namespace ScriptingBindings

open Dictionary

/-! ## §1. Checking. -/

namespace Generation

/-- The first extension that was not merged, with its suite. -/
def firstExtension? (suites : List Suite) : Option (Extension × Suite) :=
  suites.findSome? (fun s => s.extensions.head?.map (fun e => (e, s)))

/-- The warnings about a class. -/
def classWarnings (suite : String) (c : Dictionary.Class) : List String :=
  (if c.name.isEmpty then ["Suite '" ++ suite ++ "' has a class without a name"] else [])
    ++ if !c.code.isEmpty && c.code.length != 4 then
        ["Class '" ++ c.name ++ "' has a code that is not four characters: '" ++ c.code ++ "'"]
      else []

/-- The warnings about a suite. -/
def suiteWarnings (s : Suite) : List String :=
  (if s.classes.isEmpty && s.enumerations.isEmpty && s.commands.isEmpty then
      ["Suite '" ++ s.name ++ "' declares nothing"]
    else [])
    ++ s.classes.flatMap (classWarnings s.name)

/-- The warnings about a dictionary, which must have no extensions left. -/
def check (d : Dictionary) : Except GenerationError (List String) :=
  match firstExtension? d.suites with
  | some (e, s) => .error (.unmerged e.target s.name)
  | none => .ok (d.suites.flatMap suiteWarnings)

end Generation

/-! ## §2. Results. -/

/-- What is told about generated code. -/
structure Metadata where
  language : String
  fileExtension : String
  basename : String
  suites : Nat
  classes : Nat
  enumerations : Nat
  commands : Nat
  inclusions : Nat
  usesFallback : Bool
  deriving Repr, DecidableEq

/-- What is told about code for a dictionary. -/
def Metadata.of (language : Language) (d : Dictionary) (basename : String) : Metadata where
  language := language.name
  fileExtension := language.fileExtension
  basename := basename
  suites := d.suites.length
  classes := d.classes.length
  enumerations := d.enumerations.length
  commands := d.commands.length
  inclusions := d.inclusions.length
  usesFallback := d.usesFallback

/-- How a generation ends. -/
inductive Generated where
  /-- With code. -/
  | code (text : String) (warnings : List String) (metadata : Metadata)
  /-- With code that shows a broken text, which neither a file nor a console can hold.  It is
kept as far as characters can show it. -/
  | unencodable (shown : String) (warnings : List String) (metadata : Metadata)
  /-- Without, for a reason. -/
  | failed (e : GenerationError)
  deriving Repr, DecidableEq

/-- Whether there is code, and a file can hold it. -/
def Generated.succeeded : Generated → Bool
  | .code .. => true
  | .unencodable .. | .failed _ => false

/-- The warnings about a dictionary that there is code for. -/
def Generated.warnings : Generated → List String
  | .code _ warnings _ | .unencodable _ warnings _ => warnings
  | .failed _ => []

/-! ## §3. Generators. -/

/-- A generator: its options, and the names of its last run. -/
structure Generator where
  options : Swift.Options
  names : Swift.Names := {}

namespace Generator

variable [Machine]

/-- The language of the code. -/
def language (_ : Generator) : Language := .swift

/-- A generator for a configuration, before its first run. -/
def ofConfig (c : Config) : Except Misuse Generator :=
  (Swift.Options.ofConfig c).map (⟨·, {}⟩)

/-- Code laid out as the options ask for. -/
def layOut (g : Generator) (code : String) : Except Misuse String :=
  Layout.format g.options.indentSize code

/-- The end of a run with code that was laid out. -/
def finish (g : Generator) (d : Dictionary) (basename : String) (warnings : List String)
    (text : String) : Generated :=
  let metadata := Metadata.of g.language d basename
  if Swift.isEncodable g.options d basename then .code text warnings metadata
  else .unencodable text warnings metadata

/-- The end of a failed run, which is recorded unless a value was misused. -/
def fail (basename : String) (e : GenerationError) : Logged (Except Misuse Generated) :=
  match e.misuse? with
  | some m => return .error m
  | none => do
    Logged.record .emission .error
      ("Code generation failed for " ++ basename ++ ": " ++ e.message)
    return .ok (.failed e)

/-- A generation for a merged dictionary.  The generator comes back with the names of this
run, or as it was if the dictionary does not pass the check. -/
def generation (g : Generator) (d : Dictionary) (basename : String) :
    Swift.Stage (Generator × Except Misuse Generated) :=
  match Generation.check d with
  | .error e => do
    let result ← .ofLogged (fail basename e)
    return (g, result)
  | .ok warnings => do
    let (names, code) ← Swift.Naming.generate g.options d basename
    let g := { g with names := names }
    match code with
    | .error e => do
      let result ← .ofLogged (fail basename e)
      return (g, result)
    | .ok code =>
      return (g, (g.layOut code).map (g.finish d basename warnings))

/-- Generate code for a merged dictionary, with every name made. -/
def generate (g : Generator) (d : Dictionary) (basename : String) :
    Logged (Generator × Except Misuse Generated) :=
  (g.generation d basename).made

end Generator

end ScriptingBindings
