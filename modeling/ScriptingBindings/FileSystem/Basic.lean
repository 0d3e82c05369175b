/-
  ScriptingBindings.FileSystem.Basic
  ──────────────────────────────────
  **FILES AND DIRECTORIES.**

  A file system holds files and directories, and has terms on which they are
  to be had: how long names may be, and what is barred.  Following a path
  takes one step for each part and needs a directory before every step; double
  dots step back.  Reading and writing fail for the reason that the last step
  or one before it gives.
-/
import ScriptingBindings.Content
import ScriptingBindings.FileSystem.Path
import ScriptingBindings.Machine
import ScriptingBindings.Text.Quoted

namespace ScriptingBindings

namespace FileSystem

/-! ## §1. Faults. -/

/-- Why a path cannot be used. -/
inductive Fault where
  /-- There is nothing, or no directory to hold it. -/
  | missing
  /-- There is something already. -/
  | taken
  /-- A part before the last is a file. -/
  | notDirectory
  /-- The path names a directory. -/
  | isDirectory
  /-- The path, or some part of it, is too long. -/
  | tooLong
  /-- A place is barred. -/
  | denied
  /-- Too many directories would have to be made, each inside the one before. -/
  | tooDeep
  /-- The text holds a zero character and is no path at all. -/
  | noPath
  /-- What is to be written to the path is a broken text. -/
  | unencodable
  deriving Repr, DecidableEq

/-- A fault with the path at which it occurred. -/
structure PathError where
  fault : Fault
  path : Path
  deriving Repr, DecidableEq

/-- The number of a fault and its description. -/
def Fault.description : Fault → String
  | missing => "[Errno 2] No such file or directory"
  | taken => "[Errno 17] File exists"
  | notDirectory => "[Errno 20] Not a directory"
  | isDirectory => "[Errno 21] Is a directory"
  | tooLong => "[Errno 36] File name too long"
  | denied => "[Errno 13] Permission denied"
  | tooDeep => "too many missing directories"
  | noPath => "embedded null byte"
  | unencodable => "surrogates not allowed"

/-- A fault and its path in words. -/
def PathError.message (e : PathError) : String :=
  match e.fault with
  | .noPath | .tooDeep | .unencodable => e.fault.description
  | fault => fault.description ++ ": " ++ Text.quoted e.path.text

end FileSystem

/-! ## §2. Contents. -/

namespace FileSystem

/-- A place: names from the root or from the working directory on. -/
structure Location where
  fromRoot : Bool := false
  names : List String := []
  deriving Repr, DecidableEq

/-- What can be at a place. -/
inductive Entry where
  /-- A file with what it holds. -/
  | file (content : Content)
  /-- A directory. -/
  | directory
  deriving DecidableEq

/-- What a place can be used for. -/
inductive Access where
  /-- To look for something inside. -/
  | search
  /-- To see what it holds. -/
  | read
  /-- To change what it holds: the content of a file, or the names in a directory. -/
  | write
  deriving Repr, DecidableEq

/-- The terms on which files are to be had. -/
structure Terms where
  /-- The greatest number of bytes in a name. -/
  longestName : Nat := 255
  /-- The greatest number of bytes in a path. -/
  longestPath : Nat := 4095
  /-- The places that must not be used for something. -/
  barred : List (Location × Access) := []
  deriving Repr, DecidableEq

end FileSystem

/-- The files and directories by their places, and the terms on which they are to be had. -/
structure FileSystem where
  entries : List (FileSystem.Location × FileSystem.Entry) := []
  terms : FileSystem.Terms := {}

namespace FileSystem

/-- The place of a name inside a directory. -/
def Location.child (l : Location) (name : String) : Location :=
  { l with names := l.names ++ [name] }

/-- The directory that holds a place.  Above the working directory come further
directories, above the root there is only the root. -/
def Location.back (l : Location) : Location :=
  if l.names.all (· == "..") then
    if l.fromRoot then l else l.child ".."
  else { l with names := l.names.dropLast }

/-- The working directory, the root and what lies above them are always there. -/
def Location.isGiven (l : Location) : Bool :=
  l.names.all (· == "..")

/-- What is at a place. -/
def entry? (fs : FileSystem) (l : Location) : Option Entry :=
  if l.isGiven then some .directory else fs.entries.lookup l

/-- Whether a place must not be used for something. -/
def bars (fs : FileSystem) (l : Location) (access : Access) : Bool :=
  fs.terms.barred.contains (l, access)

/-- Put an entry at a place. -/
def put (fs : FileSystem) (l : Location) (e : Entry) : FileSystem :=
  { fs with entries :=
      if (fs.entries.lookup l).isSome then
        fs.entries.map (fun old => if old.1 = l then (l, e) else old)
      else fs.entries ++ [(l, e)] }

/-! ## §3. Following paths. -/

/-- One step from a place to a part inside it. -/
def step (fs : FileSystem) (l : Location) (part : String) : Except Fault Location :=
  match fs.entry? l with
  | none => .error .missing
  | some (.file _) => .error .notDirectory
  | some .directory =>
    if fs.bars l .search then .error .denied
    else if part = ".." then .ok l.back
    else if part.utf8ByteSize > fs.terms.longestName then .error .tooLong
    else .ok (l.child part)

/-- The place of a path. -/
def locate (fs : FileSystem) (p : Path) : Except PathError Location :=
  if (p.parts.any (fun part => part.toList.contains (Char.ofNat 0))) then .error ⟨.noPath, p⟩
  else if p.text.utf8ByteSize > fs.terms.longestPath then .error ⟨.tooLong, p⟩
  else (p.parts.foldlM fs.step { fromRoot := p.isAbsolute }).mapError (⟨·, p⟩)

/-- A fault with which it cannot even be asked whether there is something at a path. -/
def Fault.preventsAsking : Fault → Bool
  | tooLong | denied => true
  | _ => false

/-- Whether there is something at a path.  With most faults on the way there is nothing. -/
def hasPath (fs : FileSystem) (p : Path) : Except PathError Bool :=
  match fs.locate p with
  | .ok l => .ok (fs.entry? l).isSome
  | .error e => if e.fault.preventsAsking then .error e else .ok false

/-- What the file at a path holds. -/
def read (fs : FileSystem) (p : Path) : Except PathError Content := do
  let l ← fs.locate p
  match fs.entry? l with
  | none => throw ⟨.missing, p⟩
  | some e =>
    if fs.bars l .read then throw ⟨.denied, p⟩
    else
      match e with
      | .file content => return content
      | .directory => throw ⟨.isDirectory, p⟩

/-- Put something at a place where nothing is.  The names in the directory around it change. -/
def putNew (fs : FileSystem) (l : Location) (e : Entry) : Except Fault FileSystem :=
  if fs.bars l .write || fs.bars l.back .write then .error .denied else .ok (fs.put l e)

/-- Write a file, of which `revise` makes the new content from the old one. -/
def writeWith (fs : FileSystem) (p : Path) (revise : Option Content → Content) :
    Except PathError FileSystem := do
  let l ← fs.locate p
  match fs.entry? l with
  | some (.file content) =>
    if fs.bars l .write then throw ⟨.denied, p⟩
    else return fs.put l (.file (revise (some content)))
  | some .directory => throw ⟨.isDirectory, p⟩
  | none => (fs.putNew l (.file (revise none))).mapError (⟨·, p⟩)

/-- Write a file, in place of any that is there. -/
def write (fs : FileSystem) (p : Path) (text : String) : Except PathError FileSystem :=
  fs.writeWith p (fun _ => .text text)

/-- Write at the end of a file, which is made if it is not there. -/
def append (fs : FileSystem) (p : Path) (text : String) : Except PathError FileSystem :=
  fs.writeWith p (fun old => (old.getD (.text "")).append text)

/-! ## §4. Directories. -/

/-- Make a directory at a place whose own directory is there.  One that is there already
will do. -/
def makeAt (fs : FileSystem) (l : Location) : Except Fault FileSystem :=
  match fs.entry? l with
  | some .directory => .ok fs
  | some (.file _) => .error .taken
  | none => fs.putNew l .directory

/-- The parts of a path that are left where the directories on the way to it end. -/
def missingParts (fs : FileSystem) (l : Location) : List String → List String
  | [] => []
  | part :: rest =>
    match fs.step l part with
    | .ok inner => missingParts fs inner rest
    | .error _ => part :: rest

/-- Make a directory for each part in turn, starting at the directory at a place and at the
part `n` of a path.  A fault is told of the path up to the part at which it occurs. -/
def makeChain (p : Path) (fs : FileSystem) (l : Location) (n : Nat) :
    List String → Except PathError FileSystem
  | [] => .ok fs
  | part :: rest => do
    let told (fault : Fault) : PathError := ⟨fault, { p with parts := p.parts.take (n + 1) }⟩
    let inner ← (fs.step l part).mapError told
    let fs ← (fs.makeAt inner).mapError told
    makeChain p fs inner (n + 1) rest

/-- Make a directory and the ones above it that are missing. -/
def makeDirectories [Machine] (fs : FileSystem) (p : Path) : Except PathError FileSystem :=
  let start : Location := { fromRoot := p.isAbsolute }
  match fs.locate p with
  | .ok l => (fs.makeAt l).mapError (⟨·, p⟩)
  | .error e =>
    if e.fault ≠ .missing then .error e
    else if (fs.missingParts start p.parts).length > Machine.chain then .error ⟨.tooDeep, p⟩
    else fs.makeChain p start 0 p.parts

/-! ## §5. Setting up. -/

/-- Put a file or a directory at a path, and directories above it where they are missing. -/
def provide (fs : FileSystem) (p : Path) (e : Entry) : FileSystem :=
  let l : Location := ⟨p.isAbsolute, p.parts⟩
  let above := (List.range p.parts.length).map (fun n => Location.mk p.isAbsolute (p.parts.take n))
  let fs := above.foldl
    (fun fs l => if (fs.entry? l).isSome then fs else fs.put l .directory) fs
  if (fs.entry? l).isSome && e == .directory then fs else fs.put l e

/-- The texts of the files below the working directory with their paths. -/
def files (fs : FileSystem) : List (String × String) :=
  fs.entries.filterMap fun
    | (l, .file (.text text)) =>
      if l.fromRoot || l.names.contains ".." then none else some ("/".intercalate l.names, text)
    | _ => none

end FileSystem

end ScriptingBindings
