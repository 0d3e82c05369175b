/-
  ScriptingBindings.Template.Basic
  ──────────────────────────────────
  **TEMPLATES.**

  A template is text with places to fill, parts that appear under conditions
  and parts that repeat.  It is filled from named values.  A name without a
  value is an error wherever it is used: written, tested or looped over.  Of
  several conditions the later ones are tested only while the earlier hold.
-/
import ScriptingBindings.OrderedMap
import ScriptingBindings.Template.Filter

namespace ScriptingBindings

/-! ## §1. Syntax. -/

namespace Template

/-- A named value or one of its members. -/
structure Ref where
  base : String
  part : Option String := none
  deriving Repr, DecidableEq

/-- A part of a template. -/
inductive Node where
  /-- Fixed text. -/
  | text (s : String)
  /-- A value after some filters. -/
  | value (ref : Ref) (filters : List Filter)
  /-- A part that appears if all conditions hold. -/
  | when (conditions : List Ref) (body : List Node)
  /-- One of two parts. -/
  | choose (condition : Ref) (yes no : List Node)
  /-- A part that repeats, each time with the next item under a name. -/
  | each (name : String) (items : Ref) (body : List Node)

end Template

/-- A template. -/
abbrev Template := List Template.Node

namespace Template

/-! ## §2. Looking up. -/

/-- Why a template cannot be filled. -/
inductive Fault where
  /-- A name has no value. -/
  | undefined (name : String)
  /-- A value has no such member. -/
  | noPart (kind name : String)
  /-- A value is of the wrong kind. -/
  | misuse (m : Misuse)
  deriving Repr, DecidableEq

/-- The words for a fault. -/
def Fault.message : Fault → String
  | undefined name => Text.quoted name ++ " is undefined"
  | noPart kind name => Text.quoted kind ++ " has no attribute " ++ Text.quoted name
  | misuse _ => "wrong kind of value"

/-- The name of the kind of a value. -/
def kindName : Json → String
  | .null => "None"
  | .bool _ => "bool object"
  | .int _ => "int object"
  | .fractional _ => "float object"
  | .str _ | .broken _ => "str object"
  | .arr _ => "list object"
  | .obj _ => "dict object"

/-- The values by name, the innermost first. -/
abbrev Scope := OrderedMap Json

/-- What a reference stands for. -/
def Ref.find (scope : Scope) (r : Ref) : Except Fault Json :=
  match scope.get? r.base with
  | none => .error (.undefined r.base)
  | some v =>
    match r.part with
    | none => .ok v
    | some part =>
      match v.member? part with
      | some w => .ok w
      | none => .error (.noPart (kindName v) part)

/-- A value after some filters. -/
def filtered (filters : List Filter) (v : Json) : Except Fault Json :=
  filters.foldlM (fun v f => (f.apply v).mapError .misuse) v

/-- Whether all conditions hold; those after the first that fails are not looked at. -/
def allHold (scope : Scope) : List Ref → Except Fault Bool
  | [] => .ok true
  | r :: rest => do
    if (← r.find scope).isTruthy then allHold scope rest else return false

/-! ## §3. Filling. -/

mutual

/-- The text of a part. -/
def fillNode : Node → Scope → Except Fault String
  | .text s, _ => .ok s
  | .value ref filters, scope => do
    let v ← filtered filters (← ref.find scope)
    return v.display
  | .when conditions body, scope => do
    if ← allHold scope conditions then fillNodes body scope else return ""
  | .choose condition yes no, scope => do
    if (← condition.find scope).isTruthy then fillNodes yes scope else fillNodes no scope
  | .each name items body, scope => do
    let vs ← (← items.find scope).sequence.mapError .misuse
    let parts ← vs.mapM (fun v => fillNodes body ((name, v) :: scope))
    return String.join parts

/-- The text of several parts. -/
def fillNodes : List Node → Scope → Except Fault String
  | [], _ => .ok ""
  | n :: rest, scope => do
    let s ← fillNode n scope
    let t ← fillNodes rest scope
    return s ++ t

end

/-- The text of a template filled from the members of an object. -/
def fill (t : Template) (values : Scope) : Except Fault String :=
  fillNodes t values

end Template

end ScriptingBindings
