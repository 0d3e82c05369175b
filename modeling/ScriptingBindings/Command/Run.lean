/-
  ScriptingBindings.Command.Run
  ──────────────────────────────────
  **A RUN OF THE PROGRAM.**

  The input is checked, the configuration made, the dictionary built and the
  code generated, for included documents too if that is asked for.  Only when
  all of it has succeeded is any code printed or written.
-/
import ScriptingBindings.Command.Arguments
import ScriptingBindings.Command.Session
import ScriptingBindings.Config.Validation
import ScriptingBindings.Console.Table
import ScriptingBindings.Output

namespace ScriptingBindings.Command

open FileSystem (Path PathError)
open Step

variable [Machine]

/-! ## §1. Configuration. -/

/-- The settings that the arguments make, by name. -/
def Arguments.settings (a : Arguments) : OrderedMap Json :=
  text "output_directory" .outputDirectory ++ text "basename" .basename
    ++ flag "include_hidden" .includeHidden ++ flag "generate_recursively" .recursive
    ++ text "standard_definitions_path" .standardDefinitions
    ++ flag "generate_class_names_enum" .classNamesEnum
    ++ flag "generate_strongly_typed_extensions" .stronglyTypedExtensions
    ++ flag "generate_namespace_typealiases" .namespaceTypealiases
    ++ flag "generate_flat_typealiases" .flatTypealiases
    ++ text "bundle_identifier" .bundleIdentifier
    ++ (if a.has .noComments then [("add_comments", .bool false)] else [])
where
  /-- A setting with the value of a switch, if it is not empty. -/
  text (name : String) (s : Switch) : OrderedMap Json :=
    if (a.value s).isEmpty then [] else [(name, .str (a.value s))]
  /-- A setting that a switch turns on. -/
  flag (name : String) (s : Switch) : OrderedMap Json :=
    if a.has s then [(name, .bool true)] else []

/-- What the generated names start with: a setting, or the name of the file. -/
def Arguments.basename (a : Arguments) : Json → Except Failure String
  | .str b => .ok b
  -- It is refused, but the line that says so cannot be shown.
  | .broken _ => .error (.misuse .unencodable)
  | .null => if a.path.isEmpty then .error .noBasename else .ok (Path.ofString a.path).stem
  | _ => .error (.misuse .wrongKind)

/-- The configuration of a run and its basename. -/
def Arguments.configure (a : Arguments) (files : FileSystem) :
    Except Failure (Config × String) := do
  let loaded := Config.load files Language.swift.name (.obj a.settings) (.str (a.value .config))
  let c ← loaded.mapError Failure.ofConfig
  let basename ← a.basename c.basename
  if !Config.isBasename basename then throw (.badBasename basename)
  else
    let c := { c with basename := .str basename }
    let ws ← c.warnings.mapError .misuse
    if ws.isEmpty then return (c, basename) else throw (.warnings ws)

/-- Whether the input can be a dictionary at all. -/
def Arguments.checkInput (a : Arguments) (files : FileSystem) : Except Failure Unit :=
  if a.path.isEmpty then
    if (a.value .url).isEmpty then .error .noInput else .ok ()
  else do
    let path := Path.ofString a.path
    if !(← (files.hasPath path).mapError .path) then throw (.fileNotFound path)
    else if !path.hasExtension Document.fileExtension then throw (.notDictionary path)

/-- How the dictionary of a run is built. -/
def buildSettings (c : Config) : BuildSettings where
  includeHidden := c.includeHidden.isTruthy
  trackInclusions := c.generateRecursively.isTruthy
  standard := c.standardDefinitionsPath

/-! ## §2. Generation. -/

/-- A generator for a configuration. -/
def makeGenerator (files : FileSystem) (c : Config) : Except Failure Generator :=
  (({ config := .ready c } : Request).generator files).map Prod.snd |>.mapError .creation

/-- Generate code for one dictionary. -/
def generate (g : Generator) (d : Dictionary) (basename : String) : Step Generated := do
  let (_, result) ← ofLogged (g.generate d basename)
  ofExcept .misuse result

/-- The results so far and those of included dictionaries, each under a basename of its own. -/
def generateInclusions (g : Generator) (results : OrderedMap Generated) :
    List (Dictionary.Inclusion Dictionary) → Step (OrderedMap Generated)
  | [] => return results
  | i :: rest =>
    if results.has i.basename then throw (.clash i.basename i.href)
    else do
      let result ← generate g i.content i.basename
      generateInclusions g (results.put i.basename result) rest

/-- The dictionary of a run.  The file for the records may be one of the files that are read, so
each of them is read as it is by then. -/
def build (around : Surroundings) (a : Arguments) (settings : BuildSettings) : Step Dictionary := do
  let origin ← ofRun .load (Document.Origin.choose a.path (a.value .url))
  ofRun .load origin.announce
  let document ← ofRun .load (origin.fetch { around with files := ← files })
  ofRun Failure.ofBuild (Build.ofDocument (← files) settings document)

/-- The results of a run by basename, the main one first. -/
def generateAll (around : Surroundings) (a : Arguments) (c : Config) (basename : String) :
    Step (OrderedMap Generated) := do
  let g ← ofExcept id (makeGenerator around.files c)
  let d ← build around a (buildSettings c)
  let result ← generate g d basename
  if c.generateRecursively.isTruthy then
    let g ← ofExcept id (makeGenerator around.files c.forInclusion)
    generateInclusions g [(basename, result)] d.inclusions
  else return [(basename, result)]

/-! ## §3. What is printed. -/

/-- The table of the target languages. -/
def languageTable : Console.Table where
  title := "Supported Languages"
  frame := .rounded
  headings := ["Language", "Extension", "Generator Class", "Aliases"]
  rows := Language.all.map fun l =>
    [l.name, l.fileExtension, l.generatorName, ", ".intercalate l.aliases]

/-- A truth value in a table. -/
def truthText (b : Bool) : String :=
  if b then "True" else "False"

/-- The table of what is told about generated code. -/
def metadataTable (m : Metadata) : Console.Table where
  title := "Generation Metadata"
  frame := .plain
  headings := ["Property", "Value"]
  rows :=
    [["Language", m.language], ["File Extension", m.fileExtension], ["Basename", m.basename],
     ["Suite Count", toString m.suites], ["Class Count", toString m.classes],
     ["Enumeration Count", toString m.enumerations], ["Command Count", toString m.commands],
     ["Include Count", toString m.inclusions],
     ["Uses Fallback Definitions", truthText m.usesFallback]]

/-- Print lines, each with style tags. -/
def printAll : List String → Step Unit
  | [] => return ()
  | line :: rest => do
    print line
    printAll rest

/-- The line about a failed result. -/
def failureLine? : Generated → Option String
  | .failed e => some ("[red]✗ Code generation failed:[/red] " ++ e.message)
  | .code .. | .unencodable .. => none

/-- The lines about the warnings of a result. -/
def warningLines (result : Generated) : List String :=
  result.warnings.map ("  [yellow]•[/yellow] " ++ ·)

/-- The line about a file that was written. -/
def writtenLine (path : Path) : String :=
  "[green]✓[/green] Generated [cyan]" ++ path.text ++ "[/cyan]"

/-- The code of a result. -/
def codeText : Generated → String
  | .code text _ _ => text
  | .unencodable .. | .failed _ => ""

/-- Print the code of results, up to one that no console can show. -/
def printCode : OrderedMap Generated → Step Unit
  | [] => return ()
  | (_, .unencodable ..) :: _ => throw (.misuse .unencodable)
  | (_, result) :: rest => do
    printRaw (codeText result)
    printCode rest

/-! ## §4. Results. -/

/-- The directory to write into. -/
def outputDirectory (c : Config) : Except Failure Path :=
  match c.outputDirectory with
  | .str s => .ok (.ofString s)
  | .broken _ => .error (.misuse .unencodable)
  | _ => .error (.misuse .wrongKind)

/-- Write results one by one into a directory that is there, and the paths of the files. -/
def writeEach (directory : Path) : OrderedMap Generated → Step (List Path)
  | [] => return []
  | (basename, result) :: rest => do
    let path ← change .writing fun files =>
      Output.writeItem directory (Language.fileExtension .swift) files
        (basename, Output.item result)
    let paths ← writeEach directory rest
    return path.toList ++ paths

/-- Write the results of a run and tell where they are. -/
def writeAll (c : Config) (results : OrderedMap Generated) : Step Unit := do
  let directory ← ofExcept id (outputDirectory c)
  change .writing fun files =>
    match files.makeDirectories directory with
    | .ok files => return (files, .ok ())
    | .error e => return (files, .error e)
  let paths ← writeEach directory results
  printAll (paths.map writtenLine)

/-- Print what is told about the code of a basename. -/
def printMetadata (results : OrderedMap Generated) (basename : String) : Step Unit :=
  match results.get? basename with
  | some (.code _ _ m) => printRaw ((metadataTable m).text Console.consoleWidth)
  | _ => return ()

/-- Print or write the results of a run; the status of the run. -/
def deliver (a : Arguments) (c : Config) (basename : String) (results : OrderedMap Generated) :
    Step Nat := do
  let failures := results.filterMap (fun (_, result) => failureLine? result)
  if !failures.isEmpty then
    printAll failures
    return 1
  else
    printAll (results.flatMap (fun (_, result) => warningLines result))
    if a.has .stdout then printCode results
    else writeAll c results
    if a.has .verbose then printMetadata results basename
    return 0

/-! ## §5. The run. -/

/-- The steps of a run; the status of the run. -/
def perform (around : Surroundings) (a : Arguments) : Step Nat :=
  if a.has .listLanguages then do
    printRaw (languageTable.text Console.consoleWidth)
    return 0
  else do
    ofExcept id (a.checkInput around.files)
    let (c, basename) ← ofExcept id (a.configure around.files)
    let results ← generateAll around a c basename
    deliver a c basename results

/-- Print the line that tells a failure, which gives the run status 1, unless the line cannot be
shown. -/
def tellIn (s : Session) (line : String) : Except Escape Nat × Session :=
  match Console.shown line with
  | .ok text => (.ok 1, { s with printed := s.printed ++ text })
  | .error e => (.error (.text e), s)

/-- Tell a failure; the status of the run, or the cause that escapes. -/
def tell (failure : Failure) (s : Session) : Logged (Except Escape Nat × Session) :=
  match failure.report with
  | .escaped e => return (.error e, s)
  | .error message recorded => do
    let record := if recorded then Logged.record .command .debug "Generation aborted" else pure ()
    let _ ← record
    return tellIn (s.keep record.log) ("[red]✗ Error:[/red] " ++ message)
  | .output message => return tellIn s ("[red]✗ Failed to write output:[/red] " ++ message)

/-- The steps of a run with its failure told. -/
def conclude (around : Surroundings) (a : Arguments) (s : Session) :
    Logged (Except Escape Nat × Session) := do
  let (outcome, s) ← (perform around a).start s
  match outcome with
  | .ok status => return (.ok status, s)
  | .error failure => tell failure s

/-- How the program ends. -/
inductive Ending where
  /-- With a status. -/
  | finished (status : Nat)
  /-- With a refusal of the command line, and status 2. -/
  | refused (e : UsageError)
  /-- With a cause that is not told on the console. -/
  | escaped (e : Escape)
  deriving Repr, DecidableEq

/-- The end of the program, with the files as it leaves them and what it printed. -/
structure Ended where
  files : FileSystem
  printed : String := ""
  ending : Ending

/-- The lowest level to record. -/
def Arguments.level (a : Arguments) : Level :=
  .ofSwitches (a.has .verbose) (a.has .debug)

/-- The file for the records, if there is to be one. -/
def Arguments.sink? (a : Arguments) : Option Sink :=
  if (a.value .logFile).isEmpty then none
  else some ⟨(Path.ofString (a.value .logFile)).settled, a.level⟩

/-- Open the file for the records, which makes it if it is not there. -/
def Arguments.openSink (a : Arguments) (files : FileSystem) : Except PathError FileSystem :=
  match a.sink? with
  | none => .ok files
  | some k => files.append k.path ""

/-- Run with arguments.  The file for the records is opened before anything else. -/
def Arguments.run (a : Arguments) (around : Surroundings) : Ended :=
  match a.openSink around.files with
  | .error e => ⟨around.files, "", .escaped (.path e)⟩
  | .ok files =>
    let run := conclude { around with files := files } a { files := files, sink := a.sink? }
    let (outcome, s) := run.value
    ⟨s.files, s.printed,
      match outcome with
      | .ok status => .finished status
      | .error e => .escaped e⟩

/-! ## §6. The program. -/

/-- The name of the program. -/
def programName : String := "sdef-explorer"

/-- The version of the program. -/
def programVersion : String := "0.1.0"

/-- The line for a refusal of the command line. -/
def usageLine (e : UsageError) : String :=
  programName ++ ": error: " ++ e.message

/-- The words about one switch. -/
def helpLine (s : Switch) : String :=
  "  " ++ ", ".intercalate s.spellings ++ (if s.takesValue then " VALUE" else "") ++ "\n      "
    ++ s.purpose ++ "\n"

/-- The words about all switches. -/
def helpText : String :=
  "usage: " ++ programName ++ " [switches] [" ++ fileLabel ++ "]\n\n"
    ++ String.join (Switch.all.map helpLine)

/-- The paths that arguments name: what is read and where is written. -/
def Arguments.paths (a : Arguments) : List Path :=
  ([a.path, a.value .config, a.value .standardDefinitions, a.value .outputDirectory,
    a.value .logFile].filter (!·.isEmpty)).map .ofString

/-- The paths that the configuration of a run names: the standard definitions, the directory to
write into, and the main file in it. -/
def Arguments.configuredPaths (a : Arguments) (files : FileSystem) : List Path :=
  match a.configure files with
  | .error _ => []
  | .ok (c, basename) =>
    (standardPath? c.standardDefinitionsPath).toList
      ++ match outputDirectory c with
        | .error _ => []
        | .ok directory =>
          [directory, Output.filePath directory basename (Language.fileExtension .swift)]

/-- Run the program on a command line. -/
def run (around : Surroundings) (line : List String) : Ended :=
  match Arguments.read line with
  | .ok a => a.run around
  | .error .help => ⟨around.files, helpText, .finished 0⟩
  | .error .version => ⟨around.files, programName ++ " " ++ programVersion ++ "\n", .finished 0⟩
  | .error (.refused e) => ⟨around.files, "", .refused e⟩

end ScriptingBindings.Command
