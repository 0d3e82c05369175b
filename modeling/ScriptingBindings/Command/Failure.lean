/-
  ScriptingBindings.Command.Failure
  ──────────────────────────────────
  **HOW A RUN FAILS.**

  Most failures are told on the console in one line and end the run with
  status 1.  Some are nobody's business but the caller's: they escape, and the
  caller learns their cause.
-/
import ScriptingBindings.Console.Text
import ScriptingBindings.Generation.Request

namespace ScriptingBindings.Command

open FileSystem (Path PathError)

/-! ## §1. Causes. -/

/-- Why a run ends early. -/
inductive Failure where
  /-- Neither a file nor an address is given. -/
  | noInput
  /-- There is no such file. -/
  | fileNotFound (path : Path)
  /-- The file has the wrong extension. -/
  | notDictionary (path : Path)
  /-- The configuration cannot be loaded. -/
  | config (e : ConfigError)
  /-- Nothing says what the names start with. -/
  | noBasename
  /-- Names cannot start like this. -/
  | badBasename (basename : String)
  /-- The configuration has faults. -/
  | warnings (ws : List String)
  /-- Two results have one basename. -/
  | clash (basename href : String)
  /-- There is no generator. -/
  | creation (e : CreationError)
  /-- The document cannot be had. -/
  | load (e : LoadError)
  /-- A path cannot even be looked for. -/
  | path (e : PathError)
  /-- The code cannot be written. -/
  | writing (e : PathError)
  /-- A value cannot be used as it is. -/
  | misuse (m : Misuse)
  /-- A line cannot be shown. -/
  | text (e : Console.TextError)
  deriving Repr, DecidableEq

/-- The failure to build a dictionary as the failure of a run. -/
def Failure.ofBuild : BuildError → Failure
  | .load e => .load e
  | .notAPath => .misuse .wrongKind

/-- The failure to load a configuration as the failure of a run. -/
def Failure.ofConfig : ConfigFailure → Failure
  | .error e => .config e
  | .path e => .path e
  | .misuse m => .misuse m

/-- A cause that is not told on the console. -/
inductive Escape where
  /-- A value was misused. -/
  | misuse (m : Misuse)
  /-- A path could not be used. -/
  | path (e : PathError)
  /-- An address was refused. -/
  | address
  /-- A line could not be shown. -/
  | text (e : Console.TextError)
  deriving Repr, DecidableEq

/-- The words for a cause, for the caller. -/
def Escape.message : Escape → String
  | misuse _ => "a value cannot be used as it is"
  | path e => e.message
  | address => "the address is refused"
  | text .tag => "a style tag closes what is not open"
  | text .colour => "a colour lacks one of its shares"

/-! ## §2. Telling. -/

/-- A failure as it is told: in words, some of which leave a record, or not at all. -/
inductive Report where
  /-- A line about the error; `recorded` says whether a record is left as well. -/
  | error (message : String) (recorded : Bool)
  /-- A line about writing. -/
  | output (message : String)
  /-- Nothing. -/
  | escaped (e : Escape)
  deriving Repr, DecidableEq

/-- A path that cannot be used, as it is told.  What is missing is an error like any other. -/
def Report.ofPath (e : PathError) : Report :=
  match e.fault with
  | .noPath | .tooDeep | .unencodable => escaped (.path e)
  | .missing => error e.message false
  | _ => output e.message

/-- A document that cannot be had, as it is told. -/
def Report.ofLoad (e : LoadError) : Report :=
  match e with
  | .fileNotFound _ => error e.message false
  | .unusable e => ofPath e
  | .refusedAddress => escaped .address
  | _ => error e.message true

/-- A failure as it is told. -/
def Failure.report : Failure → Report
  | noInput => .error "Input source required (sdef file or --url)" false
  | fileNotFound p => .error ("File not found: " ++ p.text) false
  | notDictionary p => .error ("Not an sdef file: " ++ p.text) false
  | config e => .error ("Configuration error: " ++ e.message) false
  | noBasename => .error "--basename is required when reading from a URL" false
  | badBasename basename =>
    .error ("Invalid basename '" ++ basename ++ "': use letters, digits and underscores only") false
  | warnings ws => .error ("Configuration error: " ++ "; ".intercalate ws) false
  | clash basename href =>
    .error ("Basename '" ++ basename ++ "' clashes with included document " ++ href
      ++ "; choose another --basename") false
  | creation e => .error e.message true
  | load e => .ofLoad e
  | path e => .ofPath e
  | writing e => .ofPath e
  | misuse m => .escaped (.misuse m)
  | text e => .escaped (.text e)

end ScriptingBindings.Command
