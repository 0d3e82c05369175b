/-
  ScriptingBindings.Catalog.Resolution
  ──────────────────────────────────
  **FINDING THE STANDARD DEFINITIONS.**

  A document that includes the standard definitions gets the classes and
  enumerations of the standard file.  If that file cannot be read, or if it is
  not included but the document has an application class, the built-in
  definitions take its place.
-/
import ScriptingBindings.Catalog.BuiltIn
import ScriptingBindings.Dictionary.Reader
import ScriptingBindings.Source

namespace ScriptingBindings.Catalog

open Dictionary
open FileSystem (Path)

/-! ## §1. Inclusions. -/

/-- The namespace of inclusion directives. -/
def inclusionSpace : String := "http://www.w3.org/2003/XInclude"

/-- An inclusion directive, with its namespace or plain. -/
def isDirective (e : Markup.Element) : Bool :=
  e.isNamed "include" || e.name == ⟨inclusionSpace, "include"⟩

/-- Where the inclusion directives below an element lead, in document order. -/
def inclusionTargets (root : Markup.Element) : List String :=
  ((root.descendants.filter isDirective).filterMap (fun e => e.value? "href")).filter
    (fun href => !href.isEmpty)

/-- The name of the file with the standard definitions. -/
def standardFileName : String := "CocoaStandard.sdef"

/-- The name of what is generated from the standard definitions. -/
def standardBasename : String := "CocoaStandard"

/-- Where the standard definitions are unless another place is given. -/
def standardPath : String := "/System/Library/ScriptingDefinitions/CocoaStandard.sdef"

/-- Where documents include the standard definitions from. -/
def standardAddress : String :=
  "file://localhost/System/Library/ScriptingDefinitions/CocoaStandard.sdef"

/-- Whether an inclusion leads to the standard definitions. -/
def leadsToStandard (href : String) : Bool :=
  Markup.hasMark standardFileName.toList href.toList

/-- Whether a name is that of the application class, in any letter case. -/
def namesApplication (name : String) : Bool :=
  Text.lower name == "application"

/-- Whether some suite defines or extends an application class. -/
def impliesStandard (suites : List Suite) : Bool :=
  suites.any fun s =>
    s.classes.any (fun c => namesApplication c.name)
      || s.extensions.any (fun e => namesApplication e.target)

/-! ## §2. Loading. -/

/-- What a catalog is made from. -/
structure Settings where
  includeHidden : Bool := false
  /-- Whether the included documents are kept. -/
  trackInclusions : Bool := false
  /-- Where the standard definitions are. -/
  standard : Path := .ofString standardPath

/-- The suites of the standard file. -/
def standardSuites (files : FileSystem) (settings : Settings) : Run LoadError (List Suite) := do
  let document ← Document.ofOrigin { files := files } (.file settings.standard)
  Run.ofLogged (readSuites settings.includeHidden document.root)

/-- A catalog with the definitions of the standard file added. -/
def withStandard (c : Catalog) (settings : Settings) (suites : List Suite) : Catalog :=
  let inclusion : Inclusion Dictionary :=
    ⟨standardAddress, standardBasename, { suites := suites }⟩
  { c.addSuites suites with
    inclusions := c.inclusions ++ if settings.trackInclusions then [inclusion] else [] }

/-- Add the definitions of the standard file, or the built-in ones if that fails. -/
def loadStandard (files : FileSystem) (settings : Settings) (c : Catalog) :
    Run LoadError Catalog := do
  if !(← Run.ofExcept ((files.hasPath settings.standard).mapError .unusable)) then
    Run.record .catalog .warning
      (standardFileName ++ " not found at " ++ settings.standard.text
        ++ ", adding fallback standard definitions")
    Run.ofLogged c.fallBack
  else
    match ← Run.attempt (standardSuites files settings) with
    | .error e =>
      Run.record .catalog .warning
        ("Failed to load " ++ standardFileName ++ ": " ++ e.message
          ++ ", adding fallback definitions")
      Run.ofLogged c.fallBack
    | .ok suites =>
      let c := c.withStandard settings suites
      Run.record .catalog .info
        ("Loaded " ++ toString c.classes.length ++ " standard classes and "
          ++ toString c.enumerations.length ++ " standard enums")
      return c

/-- The catalog for a document with the given root and suites. -/
def resolve (files : FileSystem) (settings : Settings) (root : Markup.Element)
    (suites : List Suite) : Run LoadError Catalog := do
  let c : Catalog ←
    match (inclusionTargets root).filter leadsToStandard with
    | [] => pure {}
    | href :: _ => do
      Run.record .catalog .debug ("Found standard definitions include: " ++ href)
      loadStandard files settings {}
  if c.isEmpty && impliesStandard suites then
    Run.record .catalog .debug
      ("No standard classes loaded but the document defines or extends 'application', "
        ++ "adding fallback definitions")
    Run.ofLogged c.fallBack
  else return c

end ScriptingBindings.Catalog
