/-
  ScriptingBindings.Command.Switch
  ──────────────────────────────────
  **SWITCHES OF THE COMMAND LINE.**

  A switch is a word that starts with a hyphen.  It has one or two spellings,
  and some take a value.
-/

namespace ScriptingBindings.Command

/-- A switch. -/
inductive Switch where
  | help
  /-- The address of the document. -/
  | url
  | outputDirectory
  /-- What all generated names start with. -/
  | basename
  /-- The configuration file. -/
  | config
  /-- Print the code, write no files. -/
  | stdout
  | includeHidden
  /-- Generate code for included documents too. -/
  | recursive
  /-- The file of the standard definitions. -/
  | standardDefinitions
  | classNamesEnum
  | stronglyTypedExtensions
  | namespaceTypealiases
  | flatTypealiases
  | bundleIdentifier
  /-- Leave descriptions out. -/
  | noComments
  | listLanguages
  | verbose
  | debug
  /-- Write records to a file as well. -/
  | logFile
  | version
  deriving Repr, DecidableEq

namespace Switch

/-- All switches, in the order in which they are listed. -/
def all : List Switch :=
  [help, url, outputDirectory, basename, config, stdout, includeHidden, recursive,
   standardDefinitions, classNamesEnum, stronglyTypedExtensions, namespaceTypealiases,
   flatTypealiases, bundleIdentifier, noComments, listLanguages, verbose, debug, logFile, version]

/-- The spellings of a switch, the first one first. -/
def spellings : Switch → List String
  | help => ["-h", "--help"]
  | url => ["--url"]
  | outputDirectory => ["--output-directory", "-o"]
  | basename => ["--basename", "-b"]
  | config => ["--config"]
  | stdout => ["--stdout"]
  | includeHidden => ["--include-hidden"]
  | recursive => ["--recursive"]
  | standardDefinitions => ["--standard-definitions"]
  | classNamesEnum => ["--class-names-enum"]
  | stronglyTypedExtensions => ["--strongly-typed-extensions"]
  | namespaceTypealiases => ["--namespace-typealiases"]
  | flatTypealiases => ["--flat-typealiases"]
  | bundleIdentifier => ["--bundle-identifier"]
  | noComments => ["--no-comments"]
  | listLanguages => ["--list-languages"]
  | verbose => ["--verbose", "-v"]
  | debug => ["--debug"]
  | logFile => ["--log-file"]
  | version => ["--version"]

/-- Whether a switch takes a value. -/
def takesValue : Switch → Bool
  | url | outputDirectory | basename | config | standardDefinitions | bundleIdentifier
  | logFile => true
  | _ => false

/-- What a switch is for. -/
def purpose : Switch → String
  | help => "Show this help and exit"
  | url => "Address of the document"
  | outputDirectory => "Directory for the generated files (the current one by default)"
  | basename => "What all generated names start with (the name of the input by default)"
  | config => "Configuration file"
  | stdout => "Print the code instead of writing files"
  | includeHidden => "Keep hidden definitions"
  | recursive => "Generate a file for every included document as well"
  | standardDefinitions => "File of the standard definitions"
  | classNamesEnum => "Add an enum of the names of the classes"
  | stronglyTypedExtensions => "Add typed accessors for collections"
  | namespaceTypealiases => "Add short aliases inside an enum"
  | flatTypealiases => "Add short aliases at the top level"
  | bundleIdentifier => "Identifier of the application to reach for"
  | noComments => "Leave descriptions out"
  | listLanguages => "List the target languages and exit"
  | verbose => "Tell more"
  | debug => "Tell everything"
  | logFile => "File for the records"
  | version => "Show the version and exit"

/-- The name of a switch in messages. -/
def label (s : Switch) : String :=
  "/".intercalate s.spellings

/-- All spellings with their switches. -/
def table : List (String × Switch) :=
  all.flatMap (fun s => s.spellings.map (·, s))

/-- The switch of a spelling. -/
def find? (spelling : String) : Option Switch :=
  table.lookup spelling

/-- The switch that is spelled with a hyphen and one character. -/
def ofChar? (c : Char) : Option Switch :=
  find? (String.ofList ['-', c])

end Switch

end ScriptingBindings.Command
