/-
  ScriptingBindings.Command.Session
  ──────────────────────────────────
  **THE STATE OF A RUN.**

  A run changes files and prints.  Both survive a failure, as records do.
-/
import ScriptingBindings.Command.Failure

namespace ScriptingBindings.Command

/-! ## §1. The file for the records. -/

/-- A file that takes every record at or above a level as soon as it is left. -/
structure Sink where
  path : FileSystem.Path
  level : Level

/-- The records that a sink takes, as lines. -/
def Sink.lines (k : Sink) (records : List Record) : String :=
  String.join ((records.filter (fun r => k.level.rank ≤ r.level.rank)).map (·.line ++ "\n"))

/-- The files after records are left. -/
def Sink.take (k : Sink) (files : FileSystem) (records : List Record) : FileSystem :=
  match files.append k.path (k.lines records) with
  | .ok files => files
  | .error _ => files

/-! ## §2. Sessions. -/

/-- The files and what was printed so far. -/
structure Session where
  files : FileSystem
  printed : String := ""
  sink : Option Sink := none

/-- The session after records are left. -/
def Session.keep (s : Session) (records : List Record) : Session :=
  match s.sink with
  | none => s
  | some k => { s with files := k.take s.files records }

/-- A step of a run. -/
abbrev Step (α : Type) := ExceptT Failure (StateT Session Logged) α

namespace Step

variable {α : Type}

/-! ## §3. Steps. -/

/-- The outcome of a step in a session, and the session after it. -/
def start (x : Step α) (s : Session) : Logged (Except Failure α × Session) :=
  (x.run).run s

/-- A step that may fail and neither prints nor changes files. -/
def ofExcept {ε : Type} (f : ε → Failure) (x : Except ε α) : Step α :=
  ExceptT.mk (pure (x.mapError f))

/-- A step that leaves records and may fail.  What it changes stays if it fails, and its
records reach their file before the next step. -/
def ofSession {ε : Type} (f : ε → Failure)
    (act : Session → Logged (Session × Except ε α)) : Step α :=
  ExceptT.mk (fun s =>
    let x := act s
    ⟨(x.value.2.mapError f, x.value.1.keep x.log), x.log⟩)

/-- A step that leaves records and may fail, and neither prints nor changes files. -/
def ofRun {ε : Type} (f : ε → Failure) (x : Run ε α) : Step α :=
  ofSession f (fun s => do return (s, ← x.logged))

/-- A step that leaves records and neither prints nor changes files. -/
def ofLogged (x : Logged α) : Step α :=
  ofRun id (Run.ofLogged x)

/-- Change the files in a way that may fail; what changed before the failure stays. -/
def change {ε : Type} (f : ε → Failure)
    (act : FileSystem → Logged (FileSystem × Except ε α)) : Step α :=
  ofSession f (fun s => do
    let (files, x) ← act s.files
    return ({ s with files := files }, x))

/-- Print a text as it is. -/
def printRaw (text : String) : Step Unit :=
  modify fun s => { s with printed := s.printed ++ text }

/-- Print a line that may hold style tags. -/
def print (line : String) : Step Unit :=
  match Console.shown line with
  | .ok text => printRaw text
  | .error e => throw (.text e)

/-- The files as they are. -/
def files : Step FileSystem := do
  let s ← get
  return s.files

end Step

end ScriptingBindings.Command
