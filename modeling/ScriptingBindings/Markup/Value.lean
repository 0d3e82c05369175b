/-
  ScriptingBindings.Markup.Value
  ──────────────────────────────────
  **VALUES OF ATTRIBUTES.**

  A value is kept with its references to entities, which are resolved when it
  is asked for.  Before that, each entity is checked: neither its own text nor
  any text that it refers to may hold the start of markup, refer to another
  resource or contain itself.
-/
import ScriptingBindings.Markup.Scan

namespace ScriptingBindings.Markup

/-! ## §1. Values. -/

/-- A part of a value. -/
inductive ValuePart where
  /-- A character. -/
  | char (c : Char)
  /-- A reference to an entity. -/
  | entity (name : List Char)
  deriving Repr, DecidableEq

/-- A value with its references. -/
abbrev Value := List ValuePart

namespace Value

/-- A value of characters only. -/
def ofChars (s : List Char) : Value := s.map .char

/-- The characters of a value without references. -/
def chars? (v : Value) : Option (List Char) :=
  v.mapM fun
    | .char c => some c
    | .entity _ => none

/-- The names of the entities that a value refers to. -/
def references (v : Value) : List (List Char) :=
  v.filterMap fun
    | .char _ => none
    | .entity name => some name

/-- A value as it is kept: its references as they are written, and `&` as one. -/
def written (v : Value) : List Char :=
  v.flatMap fun
    | .char c => if c = '&' then "&#38;".toList else [c]
    | .entity name => '&' :: name ++ [';']

/-- A value with one space in place of several, after a part that is a space or not. -/
def singleSpaced (afterSpace : Bool) : Value → Value
  | [] => []
  | part :: rest =>
    if part = .char ' ' then
      if afterSpace then singleSpaced true rest else part :: singleSpaced true rest
    else part :: singleSpaced false rest

/-- A value with one space in place of several and none at either end. -/
def normalized (v : Value) : Value :=
  let v := singleSpaced true v
  if v.getLast? = some (.char ' ') then v.dropLast else v

end Value

/-- Space inside a value is a plain space. -/
def valueChar (c : Char) : Char :=
  if c.isWhitespace then ' ' else c

/-! ## §2. Resolving. -/

namespace Definitions

/-- The characters that a name in a reference stands for.  The fuel bounds the depth of
references. -/
def resolveName (d : Definitions) : Nat → List Char → List Char
  | 0, _ => []
  | fuel + 1, name =>
    match predefined? name, d.entities.lookup name with
    | some c, _ => [c]
    | none, some e => ((pieces? e.text).getD []).flatMap fun
      | .char c | .charRef c => [c]
      | .entityRef inner => resolveName d fuel inner
    | none, none => []

/-- The text of a value with all references resolved. -/
def resolve (d : Definitions) (v : Value) : List Char :=
  v.flatMap fun
    | .char c => [c]
    | .entity name => resolveName d (d.entities.length + 1) name

/-- The definitions after the texts behind a reference were read as parts of a value. -/
def markParsed (d : Definitions) : Nat → List Char → Definitions
  | 0, _ => d
  | fuel + 1, name =>
    match d.entities.lookup name with
    | none => d
    | some e =>
      if e.isParsed || e.isOpen then d
      else
        (((pieces? e.text).getD []).filterMap fun
          | .entityRef inner => some inner
          | _ => none).foldl (fun d inner => d.markParsed fuel inner)
          (d.updateEntity name (fun e => { e with isParsed := true }))

end Definitions

namespace Scan

/-! ## §3. Checking. -/

/-- Whether an entity needs no more checks; the definitions do not yet hold all entities. -/
def isSettled (inDefinitions : Bool) (e : Entity) : Bool :=
  e.isValidated && (inDefinitions || e.isChecked)

/-- Check the text of an entity.  The first number bounds the levels of references. -/
def checkEntity (inDefinitions : Bool) : Nat → List Char → Entity → Scan Unit
  | 0, _, _ => refuse
  | levels + 1, name, e => do
    require (!e.isOpen && !e.text.contains '<')
    match pieces? e.text with
    | none => refuse
    | some pieces =>
      update name (fun e => { e with isOpen := true })
      let size ← pieces.foldlM (fun size piece => do
        match piece with
        | .char _ | .charRef _ => return size
        | .entityRef inner =>
          match ← referent true inner with
          | .char _ | .unknown => return size
          | .entity e =>
            if !isSettled inDefinitions e then checkEntity inDefinitions levels inner e
            return size + (← sizeOf inner) + referenceCost) (byteSize e.text)
      update name (fun e =>
        { e with
          isOpen := false
          isValidated := true
          isChecked := e.isChecked || !inDefinitions
          size := if inDefinitions then e.size else size })
where
  /-- The number of bytes that a reference to an entity stands for. -/
  sizeOf (name : List Char) : Scan Nat := do
    return ((← definitions).entities.lookup name).elim 0 Entity.size

/-- The part of a value that a reference makes, if it makes any. -/
def referencePart (inDefinitions : Bool) (name : List Char) : Scan (Option ValuePart) := do
  match ← referent true name with
  | .char c => return some (.char c)
  | .unknown => return none
  | .entity e =>
    let levels := depthLimit - 1 - (← get).depth
    if !isSettled inDefinitions e then checkEntity inDefinitions levels name e
    spend (← checkEntity.sizeOf name)
    return some (.entity name)

/-- The value between quotes. -/
def value (inDefinitions : Bool) : Scan Value := do
  let raw ← take literal?
  require (!raw.contains '<')
  match pieces? raw with
  | none => refuse
  | some pieces =>
    pieces.foldlM (fun parts piece => do
      match piece with
      | .char c => return .char (valueChar c) :: parts
      | .charRef c => return .char c :: parts
      | .entityRef name => return (← referencePart inDefinitions name).toList ++ parts) []
      <&> List.reverse

end Scan

end ScriptingBindings.Markup
