/-
  ScriptingBindings.FileSystem.Path
  ──────────────────────────────────
  **PATHS.**

  A path is a list of parts, below the root or below the working directory.
  Empty parts and single dots say nothing and are dropped when a path is read;
  double dots stay, since what they mean depends on what is there.

      text "a//b/./c/" = "a/b/c"
-/
import ScriptingBindings.Text.Lines
import ScriptingBindings.Text.Casing

namespace ScriptingBindings.FileSystem

open Text

/-! ## §1. Reading and writing. -/

/-- A path. -/
structure Path where
  /-- The slashes at the start: none for a path below the working directory. -/
  root : String := ""
  parts : List String := []
  deriving Repr, DecidableEq

namespace Path

/-- The slashes that the root of a path is written with.  Exactly two of them are kept as
two, any other number counts as one. -/
def rootOf (s : List Char) : String :=
  match s with
  | '/' :: '/' :: '/' :: _ => "/"
  | '/' :: '/' :: _ => "//"
  | '/' :: _ => "/"
  | _ => ""

/-- The parts of a path between its slashes. -/
def partsOf (s : List Char) : List String :=
  ((cutAt '/' s).map String.ofList).filter (fun part => part != "" && part != ".")

/-- The path that a text denotes. -/
def ofString (s : String) : Path :=
  ⟨rootOf s.toList, partsOf s.toList⟩

/-- The text of a path; the working directory itself is a dot. -/
def text (p : Path) : String :=
  if p.root.isEmpty && p.parts.isEmpty then "." else p.root ++ "/".intercalate p.parts

/-- Whether a path starts at the root. -/
def isAbsolute (p : Path) : Bool :=
  !p.root.isEmpty

/-- A path below another one; an absolute path replaces it. -/
def join (p q : Path) : Path :=
  if q.isAbsolute then q else ⟨p.root, p.parts ++ q.parts⟩

/-- The parts with one more behind them.  A step back takes the part before it away; at the
root it does nothing. -/
def settle (fromRoot : Bool) (parts : List String) (part : String) : List String :=
  if part = ".." && parts.all (· == "..") then
    if fromRoot then parts else parts ++ [part]
  else if part = ".." then parts.dropLast
  else parts ++ [part]

/-- The path in which every step back has taken the part before it away, whatever is there. -/
def settled (p : Path) : Path :=
  ⟨p.root, p.parts.foldl (settle p.isAbsolute) []⟩

/-- The path without its last part. -/
def parent (p : Path) : Path :=
  ⟨p.root, p.parts.dropLast⟩

/-! ## §2. The last part. -/

/-- The last part, or the empty text. -/
def name (p : Path) : String :=
  p.parts.getLast?.getD ""

/-- A name cut before its last dot.  A dot at either end does not count. -/
def cutName (name : List Char) : List Char × List Char :=
  let tail := (name.reverse.takeWhile (· != '.')).reverse
  let head := name.take (name.length - tail.length - 1)
  if name.contains '.' && !head.isEmpty && !tail.isEmpty then (head, '.' :: tail) else (name, [])

/-- The last part without its extension. -/
def stem (p : Path) : String :=
  String.ofList (cutName p.name.toList).1

/-- The extension of the last part with its dot, or the empty text. -/
def extension (p : Path) : String :=
  String.ofList (cutName p.name.toList).2

/-- Whether a path has an extension, in any letter case. -/
def hasExtension (p : Path) (wanted : String) : Bool :=
  lower p.extension == wanted

end Path

end ScriptingBindings.FileSystem
