/-
  ScriptingBindings.Markup.Scan
  ──────────────────────────────────
  **READING STEP BY STEP.**

  A step of reading takes something off the text, may leave remarks and may
  add to what is known about the document.  A step that fails refuses the
  document as a whole.
-/
import ScriptingBindings.Markup.Definitions
import ScriptingBindings.Markup.Remarks

namespace ScriptingBindings.Markup

/-- The state of reading a document. -/
structure Progress where
  /-- What is left of the text. -/
  rest : List Char
  /-- The number of bytes of the document. -/
  total : Nat := 0
  remarks : Remarks := {}
  definitions : Definitions := {}
  /-- The document says that it needs no definitions from elsewhere. -/
  isStandalone : Bool := false
  /-- The names of elements that were given so far. -/
  identities : List (List Char) := []
  /-- The number of texts of entities around the text. -/
  depth : Nat := 0
  /-- The number of bytes of the document before the outermost of these. -/
  before : Nat := 0
  /-- The number of bytes that the references in the text stand for so far. -/
  spent : Nat := 0

/-- The number of bytes of the document that were read.  Inside an entity the document stands
still. -/
def Progress.consumed (p : Progress) : Nat :=
  if p.depth = 0 then p.total - byteSize p.rest else p.before

/-- A step of reading. -/
abbrev Scan (α : Type) := StateT Progress Option α

namespace Scan

variable {α : Type}

/-! ## §1. Steps. -/

/-- Refuse the document. -/
def refuse : Scan α := fun _ => none

/-- Refuse the document unless something holds. -/
def require (b : Bool) : Scan Unit :=
  if b then pure () else refuse

/-- Leave a warning. -/
def warn : Scan Unit :=
  modify fun p => { p with remarks := p.remarks.warn }

/-- Leave a fault. -/
def fault : Scan Unit :=
  modify fun p => { p with remarks := p.remarks.fault }

/-- Leave a fault if something holds. -/
def faultIf (b : Bool) : Scan Unit :=
  if b then fault else pure ()

/-- The text that is left. -/
def rest : Scan (List Char) := do
  return (← get).rest

/-- Go on with another text. -/
def goOn (s : List Char) : Scan Unit :=
  modify fun p => { p with rest := s }

/-- The definitions so far. -/
def definitions : Scan Definitions := do
  return (← get).definitions

/-- Change the definitions. -/
def define (f : Definitions → Definitions) : Scan Unit :=
  modify fun p => { p with definitions := f p.definitions }

/-- Change what is known about an entity. -/
def update (name : List Char) (f : Entity → Entity) : Scan Unit :=
  define (·.updateEntity name f)

/-- What a function takes off the text. -/
def take (read? : List Char → Option (α × List Char)) : Scan α := do
  match read? (← rest) with
  | some (a, after) =>
    goOn after
    return a
  | none => refuse

/-- Go on after a mark, which has to come next. -/
def mark (m : String) : Scan Unit :=
  take (fun s => (after? m.toList s).map (fun s => ((), s)))

/-- Go on after a mark if it comes next; whether it does. -/
def mark? (m : String) : Scan Bool := do
  match after? m.toList (← rest) with
  | some after =>
    goOn after
    return true
  | none => return false

/-- Go on after blanks; whether there are any. -/
def blanks : Scan Bool := do
  let s ← rest
  goOn (skipSpace s)
  return s.head?.any Char.isWhitespace

/-- Go on after blanks, of which there has to be one. -/
def needBlanks : Scan Unit := do
  require (← blanks)

/-- The character that comes next. -/
def next? : Scan (Option Char) := do
  return (← rest).head?

/-- Whether a quote comes next. -/
def startsLiteral : Scan Bool := do
  return (← next?).any (fun c => c == '"' || c == '\'')

/-- The text between a mark that was read and the next occurrence of another one. -/
def upTo (m : String) : Scan (List Char) :=
  take (splitAtMark? m.toList)

/-! ## §2. Entities. -/

/-- What to do about the name of an entity that is not defined: where all definitions were read,
the document is refused. -/
def undefinedEntity : Scan Unit := do
  let p ← get
  if p.isStandalone || !p.definitions.mayBeIncomplete then refuse else warn

/-- What a reference to an entity stands for. -/
inductive Referent where
  /-- A character with a name in every document. -/
  | char (c : Char)
  /-- An entity that is no resource without markup. -/
  | entity (e : Entity)
  /-- Nothing that is known. -/
  | unknown

/-- What the name in a reference stands for.  An attribute may not refer to other resources. -/
def referent (inAttribute : Bool) (name : List Char) : Scan Referent := do
  match predefined? name with
  | some c => return .char c
  | none =>
    match (← definitions).entities.lookup name with
    | none =>
      undefinedEntity
      return .unknown
    | some e =>
      match e.content with
      | .internal _ => return .entity e
      | .external => if inAttribute then refuse else return .entity e
      | .unparsed => refuse

/-- The most texts of entities around a text, one inside the other. -/
def depthLimit : Nat := 20

/-- What a reference counts for, apart from what it stands for. -/
def referenceCost : Nat := 20

/-- The size up to which any document may grow. -/
def growthLimit : Nat := 1000000

/-- The factor by which a document may grow in any case. -/
def growthFactor : Nat := 5

/-- Count a reference to so many bytes.  What was read of the document so far tells how much it may
grow. -/
def spend (size : Nat) : Scan Unit := do
  let p ← get
  let spent := p.spent + size + referenceCost
  set { p with spent := spent }
  require (spent ≤ growthLimit || spent / growthFactor ≤ p.consumed)

/-- Read the text of an entity inside the text that is being read; what its references stand for
is counted apart. -/
def inside (text : List Char) (read : Scan α) : Scan (α × Nat) := do
  let p ← get
  require (p.depth < depthLimit)
  set { p with rest := text, depth := p.depth + 1, before := p.consumed, spent := 0 }
  let a ← read
  let q ← get
  require q.rest.isEmpty
  set { q with rest := p.rest, depth := p.depth, before := p.before, spent := p.spent }
  return (a, q.spent)

end Scan

end ScriptingBindings.Markup
