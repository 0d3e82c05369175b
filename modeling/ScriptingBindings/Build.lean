/-
  ScriptingBindings.Build
  ──────────────────────────────────
  **FROM A DOCUMENT TO A MERGED DICTIONARY.**

  The suites of a document are read, its standard definitions found, and both
  merged.  Included documents are merged by themselves, with an empty catalog.
-/
import ScriptingBindings.Catalog.Resolution
import ScriptingBindings.Json.Basic
import ScriptingBindings.Merge

namespace ScriptingBindings

open Dictionary
open FileSystem (Path)

/-! ## §1. Settings. -/

/-- How a dictionary is built. -/
structure BuildSettings where
  includeHidden : Bool := false
  trackInclusions : Bool := false
  /-- Where the standard definitions are; any value may be given. -/
  standard : Json := .null

/-- Why a dictionary cannot be built. -/
inductive BuildError where
  /-- The document cannot be had. -/
  | load (e : LoadError)
  /-- The place of the standard definitions is not a text. -/
  | notAPath
  deriving Repr, DecidableEq

/-- The place of the standard definitions: a text, or the usual place for any value that
counts as false. -/
def standardPath? (v : Json) : Option Path :=
  if v.isTruthy then v.name?.map Path.ofString else some (.ofString Catalog.standardPath)

/-- The settings of the catalog. -/
def BuildSettings.catalog? (s : BuildSettings) : Option Catalog.Settings :=
  (standardPath? s.standard).map fun standard =>
    { includeHidden := s.includeHidden, trackInclusions := s.trackInclusions, standard := standard }

namespace Build

/-! ## §2. Building. -/

/-- The included documents of a dictionary, each merged with an empty catalog. -/
def mergedInclusions (inclusions : List (Inclusion Dictionary)) :
    Logged (List (Inclusion Dictionary)) :=
  Logged.forEach (fun i => do
    let content ← Merge.merge i.content {}
    return { i with content := content }) inclusions

/-- What is recorded about a dictionary that was built. -/
def noteBuilt (d : Dictionary) : Logged Unit := do
  Logged.record .build .info
    ("Found " ++ toString d.classes.length ++ " classes and "
      ++ toString d.enumerations.length ++ " enumerations")
  let _ ← Logged.forEach (fun (s : Suite) => Logged.record .build .debug
    ("Suite '" ++ s.name ++ "' has " ++ toString s.commands.length ++ " commands")) d.suites
  return ()

/-- The merged dictionary of suites and their catalog. -/
def ofSuites (suites : List Suite) (catalog : Catalog) : Logged Dictionary := do
  let d ← Merge.merge { suites := suites } catalog
  let inclusions ← mergedInclusions d.inclusions
  let d := { d with inclusions := inclusions }
  noteBuilt d
  return d

/-- The merged dictionary of a document, which may lack a root. -/
def ofRoot (files : FileSystem) (settings : BuildSettings) :
    Option Markup.Element → Run BuildError Dictionary
  | none => throw (.load .noRoot)
  | some root => do
    let suites ← Run.ofLogged (readSuites settings.includeHidden root)
    match settings.catalog? with
    | none => throw .notAPath
    | some catalog => do
      let catalog ← (Catalog.resolve files catalog root suites).mapError .load
      Run.ofLogged (ofSuites suites catalog)

/-- The merged dictionary of a document that was loaded. -/
def ofDocument (files : FileSystem) (settings : BuildSettings) (document : Document) :
    Run BuildError Dictionary := do
  Run.record .build .info ("Parsed SDEF XML from " ++ document.source)
  ofRoot files settings (some document.root)

/-- The merged dictionary in a file or at an address. -/
def load (around : Surroundings) (settings : BuildSettings) (file url : String) :
    Run BuildError Dictionary := do
  let document ← (Document.load around file url).mapError .load
  ofDocument around.files settings document

end Build

end ScriptingBindings
