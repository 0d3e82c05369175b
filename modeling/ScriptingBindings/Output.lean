/-
  ScriptingBindings.Output
  ──────────────────────────────────
  **WRITING RESULTS.**

  Each result with code goes to a file of its own, named by its basename,
  inside a directory that is made if it is missing.  Failed results are
  skipped.  Files written before a failure stay.
-/
import ScriptingBindings.FileSystem.Basic
import ScriptingBindings.Generation.Result

namespace ScriptingBindings.Output

open FileSystem (Path PathError)

/-- Leave a record about writing. -/
def note (level : Level) (message : String) : Logged Unit :=
  Logged.record .output level message

/-- What there is to write. -/
inductive Item where
  /-- Code. -/
  | code (text : String)
  /-- Code that no file can hold. -/
  | unencodable
  /-- Nothing, with the words for why. -/
  | none (reason : String)

/-- A generated result as it is written. -/
def item : Generated → Item
  | .code text _ _ => .code text
  | .unencodable .. => .unencodable
  | .failed e => .none e.message

/-- The path of the file for a basename. -/
def filePath (directory : Path) (basename fileExtension : String) : Path :=
  directory.join (.ofString (basename ++ fileExtension))

/-- Write one item into a directory that is there, and the path of its file if there is one.
The file is there before it turns out that it cannot hold what is to be written. -/
def writeItem (directory : Path) (fileExtension : String) (files : FileSystem)
    (entry : String × Item) : Logged (FileSystem × Except PathError (Option Path)) :=
  match entry with
  | (basename, .none reason) => do
    note .warning ("Skipping " ++ basename ++ ": " ++ reason)
    return (files, .ok none)
  | (basename, .unencodable) =>
    let path := filePath directory basename fileExtension
    match files.write path "" with
    | .error e => return (files, .error e)
    | .ok files => return (files, .error ⟨.unencodable, path⟩)
  | (basename, .code code) => do
    let path := filePath directory basename fileExtension
    match files.write path code with
    | .error e => return (files, .error e)
    | .ok files => do
      note .info ("Wrote " ++ path.text)
      return (files, .ok (some path))

/-- Write the items in order into a directory that is there. -/
def writeItems (directory : Path) (fileExtension : String) :
    FileSystem → List (String × Item) → Logged (FileSystem × Except PathError (List Path))
  | files, [] => return (files, .ok [])
  | files, entry :: rest => do
    let (files, path) ← writeItem directory fileExtension files entry
    match path with
    | .error e => return (files, .error e)
    | .ok path => do
      let (files, written) ← writeItems directory fileExtension files rest
      return (files, written.map (path.toList ++ ·))

/-- Write results into a directory, and the paths of the files written. -/
def write [Machine] (files : FileSystem) (results : OrderedMap Item) (directory : Path)
    (fileExtension : String := Language.fileExtension .swift) :
    Logged (FileSystem × Except PathError (List Path)) :=
  match files.makeDirectories directory with
  | .error e => return (files, .error e)
  | .ok files => writeItems directory fileExtension files results

end ScriptingBindings.Output
