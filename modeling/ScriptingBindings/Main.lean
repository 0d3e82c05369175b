/-
  ScriptingBindings.Main
  ──────────────────────────────────
  **THE PROGRAM.**

  The files that a run may look at are taken into a file system value, the run
  is made on that value, and what it changed is written back.  Addresses are
  not reached from here.
-/
import ScriptingBindings.Command.Run

namespace ScriptingBindings.Main

open FileSystem (Path Entry Location Access)

/-! ## §1. Files. -/

/-- What was found at a path. -/
inductive Finding where
  /-- Nothing. -/
  | nothing
  /-- Something that can be used. -/
  | entry (e : Entry)
  /-- Something that must not be looked for. -/
  | hidden
  /-- A file that must not be read. -/
  | closed

/-- What is at a path. -/
def look (path : String) : IO Finding := do
  try
    let place ← IO.FS.realPath path
    if ← place.isDir then return .entry .directory
    else
      let bytes ← (IO.FS.readBinFile place).toBaseIO
      match bytes with
      | .ok bytes => return .entry (.file (.ofBytes bytes))
      | .error _ => return .closed
  catch
    | .permissionDenied .. => return .hidden
    | _ => return .nothing

/-- A file system in which one more place is barred. -/
def bar (files : FileSystem) (path : Path) (access : Access) : FileSystem :=
  let barred := ⟨path.isAbsolute, path.parts⟩
  { files with terms := { files.terms with barred := (barred, access) :: files.terms.barred } }

/-- Take a path and the directories on the way to it into a file system. -/
def takeIn (files : FileSystem) (path : Path) : IO FileSystem :=
  (List.range path.parts.length).foldlM (fun files n => do
    let place := { path with parts := path.parts.take (n + 1) }.settled
    match ← look place.text with
    | .entry e => return files.provide place e
    | .hidden => return bar files place.parent .search
    | .closed => return bar (files.provide place (.file (.text ""))) place .read
    | .nothing => return files) files

/-- The files that a run may look at. -/
def gather [Machine] (a : Command.Arguments) : IO FileSystem := do
  let files ← a.paths.foldlM takeIn {}
  (a.configuredPaths files).foldlM takeIn files

/-- The path of a place. -/
def placeText (place : Location) : String :=
  (if place.fromRoot then "/" else "") ++ "/".intercalate place.names

/-- Write back what changed. -/
def writeBack (before after : FileSystem) : IO Unit :=
  after.entries.forM fun (place, entry) => do
    if before.entries.lookup place != some entry then
      match entry with
      | .file content => IO.FS.writeBinFile (placeText place) content.bytes
      | .directory => IO.FS.createDirAll (placeText place)

/-! ## §2. The end. -/

/-- Tell how the program ended; the status of the process. -/
def status : Command.Ending → IO UInt32
  | .finished n => return UInt32.ofNat n
  | .refused e => do
    IO.eprintln (Command.usageLine e)
    return 2
  | .escaped e => do
    IO.eprintln (Command.programName ++ ": " ++ e.message)
    return 1

end ScriptingBindings.Main

/-- Run the program on the arguments of the process. -/
def main (args : List String) : IO UInt32 := do
  have : ScriptingBindings.Machine := .usual
  let files ←
    match ScriptingBindings.Command.Arguments.read args with
    | .ok a => ScriptingBindings.Main.gather a
    | .error _ => pure {}
  let ended := ScriptingBindings.Command.run { files := files } args
  ScriptingBindings.Main.writeBack files ended.files
  IO.print ended.printed
  ScriptingBindings.Main.status ended.ending
