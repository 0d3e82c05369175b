/-
  ScriptingBindings.Json.Basic
  ──────────────────────────────────
  **JSON VALUES.**

  Configuration is loosely typed: any field may hold any JSON value, and only
  the stage that uses a field finds out.  A value therefore is kept as it was
  read.  Integers are exact, numbers with a point or an exponent are rounded,
  and the members of an object keep their order.  What a file spells as a text
  need not be one in Unicode; the name of a member then only spells what it is.
-/
import ScriptingBindings.Decimal.Fractional
import ScriptingBindings.Misuse
import ScriptingBindings.OrderedMap
import ScriptingBindings.Text.Codes

namespace ScriptingBindings

/-- A JSON value. -/
inductive Json where
  /-- The absent value. -/
  | null
  /-- A truth value. -/
  | bool (b : Bool)
  /-- A number written without point and exponent. -/
  | int (n : Int)
  /-- A number written with a point or an exponent. -/
  | fractional (x : Fractional)
  /-- A text. -/
  | str (s : String)
  /-- A text with half of a pair in it. -/
  | broken (b : Text.Broken)
  /-- A sequence of values. -/
  | arr (items : List Json)
  /-- Named values in the order in which they were written. -/
  | obj (fields : List (String × Json))

instance : Inhabited Json := ⟨.null⟩

namespace Json

/-- Whether a value counts as true where a truth value is asked for. -/
def isTruthy : Json → Bool
  | null => false
  | bool b => b
  | int n => n != 0
  | fractional x => x.isTruthy
  | str s => !s.isEmpty
  | broken _ => true
  | arr items => !items.isEmpty
  | obj fields => !fields.isEmpty

/-- Whether a value is a broken text. -/
def isBroken : Json → Bool
  | broken _ => true
  | _ => false

/-- A text value as a name or a path.  One that is broken names nothing. -/
def name? : Json → Option String
  | str s => some s
  | broken b => some b.name
  | _ => none

/-- The members of an object. -/
def fields? : Json → Option (OrderedMap Json)
  | obj fields => some fields
  | _ => none

/-- The items of an array. -/
def items? : Json → Option (List Json)
  | arr items => some items
  | _ => none

/-- The value of a member of an object. -/
def member? (v : Json) (key : String) : Option Json :=
  v.fields?.bind (fun fields => OrderedMap.get? fields key)

mutual

/-- How many arrays and objects stand around the innermost part of a value. -/
def nesting : Json → Nat
  | arr items => nestingItems items
  | obj fields => nestingFields fields
  | _ => 0

/-- The same for the items of an array, counting it. -/
def nestingItems : List Json → Nat
  | [] => 0
  | v :: rest => max (nesting v + 1) (nestingItems rest)

/-- The same for the members of an object, counting it. -/
def nestingFields : List (String × Json) → Nat
  | [] => 0
  | (_, v) :: rest => max (nesting v + 1) (nestingFields rest)

end

/-- The text of code points, broken if one of them is half of a pair. -/
def ofCodes (codes : List Text.Code) : Json :=
  if h : codes.any Text.Code.isHalf = true then broken ⟨codes, h⟩
  else str (String.ofList (codes.map Text.Code.shown))

/-- The text of characters is whole. -/
theorem ofCodes_map_char (cs : List Char) : ofCodes (cs.map .char) = str (String.ofList cs) := by
  rw [ofCodes, dif_neg (by rw [Text.any_isHalf_map_char]; exact Bool.false_ne_true), List.map_map]
  exact congrArg (fun cs => str (String.ofList cs)) (List.map_id cs)

/-- The greatest number of digits of an integer that is read or written. -/
def digitLimit : Nat := 4300

mutual

/-- Why a value cannot be written, if it cannot: an integer has too many digits or a text is
broken, whichever comes first. -/
def writeFault? : Json → Option Misuse
  | int n => if (Nat.toDigits 10 n.natAbs).length ≤ digitLimit then none else some .wrongValue
  | broken _ => some .unencodable
  | arr items => itemsFault? items
  | obj fields => fieldsFault? fields
  | _ => none

/-- The same for the items of an array. -/
def itemsFault? : List Json → Option Misuse
  | [] => none
  | v :: rest => (writeFault? v).or (itemsFault? rest)

/-- The same for the members of an object. -/
def fieldsFault? : List (String × Json) → Option Misuse
  | [] => none
  | (_, v) :: rest => (writeFault? v).or (fieldsFault? rest)

end

/-- Whether a value can be written. -/
def isWritable (v : Json) : Bool :=
  v.writeFault?.isNone

/-- A text or, if there is none, the absent value. -/
def ofText? : Option String → Json
  | some s => str s
  | none => null

end Json

end ScriptingBindings
