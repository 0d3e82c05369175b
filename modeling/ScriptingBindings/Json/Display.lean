/-
  ScriptingBindings.Json.Display
  ──────────────────────────────────
  **VALUES INSIDE TEXT.**

  Generated code and messages may show any configuration value.  A text stands
  for itself there, with the replacement character for each half of a pair that
  it has; inside an array or an object it is quoted.  Numbers with a
  fraction are positional from 10⁻⁴ up to 10¹⁶ and have an exponent of at
  least two digits outside.
-/
import ScriptingBindings.Json.Basic
import ScriptingBindings.Text.Quoted

namespace ScriptingBindings

/-! ## §1. Numbers. -/

/-- An exponent with its sign and at least two digits. -/
def exponentText (e : Int) : String :=
  let digits := toString e.natAbs
  (if e < 0 then "-" else "+") ++ (if digits.length < 2 then "0" ++ digits else digits)

/-- The text of digits with a point after the first `point` of them, zeros filling either side. -/
def positionalText (digits : List Char) (point : Int) : List Char :=
  if point ≤ 0 then
    '0' :: '.' :: (List.replicate (-point).toNat '0' ++ digits)
  else if digits.length ≤ point.toNat then
    digits ++ List.replicate (point.toNat - digits.length) '0' ++ ['.', '0']
  else
    digits.take point.toNat ++ '.' :: digits.drop point.toNat

/-- The text of digits with a point after the first and the exponent `e`. -/
def scientificText (digits : List Char) (e : Int) : List Char :=
  (match digits with
    | [] => []
    | [d] => [d]
    | d :: rest => d :: '.' :: rest) ++ 'e' :: (exponentText e).toList

/-- The text of a decimal number. -/
def Decimal.text (d : Decimal) : String :=
  let digits := Nat.toDigits 10 d.digits
  let body :=
    if -4 < d.point ∧ d.point ≤ 16 then positionalText digits d.point
    else scientificText digits (d.point - 1)
  String.ofList (if d.negative then '-' :: body else body)

/-- The words for numbers that have no digits. -/
structure NumberWords where
  infinite : String
  undefined : String

/-- The text of a number with a fraction. -/
def Fractional.text (words : NumberWords) : Fractional → String
  | finite d => d.text
  | infinite negative => (if negative then "-" else "") ++ words.infinite
  | undefined => words.undefined

/-- The words inside a text. -/
def NumberWords.inText : NumberWords := ⟨"inf", "nan"⟩

/-! ## §2. Values. -/

namespace Json

mutual

/-- A value as it stands inside an array or an object. -/
def nested : Json → String
  | null => "None"
  | bool b => if b then "True" else "False"
  | int n => toString n
  | fractional x => x.text .inText
  | str s => Text.quoted s
  | broken b => b.quoted
  | arr items => "[" ++ ", ".intercalate (nestedItems items) ++ "]"
  | obj fields => "\x7b" ++ ", ".intercalate (nestedFields fields) ++ "\x7d"

/-- The items of an array. -/
def nestedItems : List Json → List String
  | [] => []
  | v :: rest => nested v :: nestedItems rest

/-- The members of an object, each a quoted name and a value. -/
def nestedFields : List (String × Json) → List String
  | [] => []
  | (k, v) :: rest => (Text.quoted k ++ ": " ++ nested v) :: nestedFields rest

end

/-- A value as it stands in text. -/
def display : Json → String
  | str s => s
  | broken b => b.shown
  | v => v.nested

@[simp] theorem display_str (s : String) : (str s).display = s := rfl

/-- A value as it stands between two texts.  It stays broken. -/
def within (before after : String) : Json → Json
  | broken b => broken (b.within before after)
  | v => str (before ++ v.display ++ after)

@[simp] theorem display_within (before after : String) (v : Json) :
    (v.within before after).display = before ++ v.display ++ after := by
  cases v with
  | broken b => exact b.shown_within before after
  | null | bool _ | int _ | fractional _ | str _ | arr _ | obj _ => rfl

/-- What stands between two texts is broken exactly if it was. -/
@[simp] theorem isBroken_within (before after : String) (v : Json) :
    (v.within before after).isBroken = v.isBroken := by
  cases v with
  | broken b => rfl
  | null | bool _ | int _ | fractional _ | str _ | arr _ | obj _ => rfl

end Json

end ScriptingBindings
