/-
  ScriptingBindings.FourCharCode
  ──────────────────────────────────
  **FOUR-CHARACTER CODES.**

  The scripting protocol names things by four characters, which code writes
  as one number: two hexadecimal digits a character, a character outside
  ASCII counting as zero.  A text that already is a hexadecimal number is
  passed on with the prefix `0x`, and anything else is quoted.

      encode "yes " = "0x79657320"      decode "0x79657320" = "yes "
-/
import ScriptingBindings.Text.Quoted
import ScriptingBindings.Text.Casing
import ScriptingBindings.Json.Reader

namespace ScriptingBindings.FourCharCode

open Text

/-! ## §1. Hexadecimal texts. -/

/-- A hexadecimal digit in either case. -/
def isHexDigit (c : Char) : Bool :=
  (Json.hexValue? c).isSome

/-- One or more hexadecimal digits; one line feed may end the text. -/
def isHexadecimal (s : List Char) : Bool :=
  match s.span isHexDigit with
  | ([], _) => false
  | (_, []) => true
  | (_, ['\n']) => true
  | _ => false

/-- Whether a text starts with `0x`, in either case. -/
def hasPrefix (s : List Char) : Bool :=
  lowerChars (s.take 2) = ['0', 'x']

/-! ## §2. Encoding. -/

/-- The two digits of a character. -/
def encodeChar (c : Char) : List Char :=
  if c.toNat < 128 then hexDigits 2 c.toNat else ['0', '0']

/-- The literal for a code. -/
def encodeChars (code : List Char) : List Char :=
  if code.length = 4 then '0' :: 'x' :: code.flatMap encodeChar
  else if hasPrefix code && isHexadecimal (code.drop 2) then '0' :: 'x' :: code.drop 2
  else if isHexadecimal code then '0' :: 'x' :: code
  else '\'' :: code ++ ['\'']

/-- The literal for a code. -/
def encode (code : String) : String :=
  String.ofList (encodeChars code.toList)

/-! ## §3. Decoding. -/

/-- Why a literal cannot be decoded. -/
inductive DecodeError where
  /-- The text is not eight hexadecimal digits. -/
  | notACode (literal : String)
  /-- Eight characters pass for hexadecimal, but the last of them is a line feed. -/
  | oddDigits (literal : String)
  deriving Repr, DecidableEq

/-- The text of the refusal of a literal.  Seven digits have no second half for the last byte, which
is missed where the line feed stands. -/
def DecodeError.message : DecodeError → String
  | .notACode literal => "Not a four-character code literal: " ++ quoted literal
  | .oddDigits _ => "non-hexadecimal number found in fromhex() arg at position 7"

/-- The bytes that pairs of hexadecimal digits denote. -/
def bytes? : List Char → Option (List Nat)
  | [] => some []
  | a :: b :: rest => do
    let high ← Json.hexValue? a
    let low ← Json.hexValue? b
    let bytes ← bytes? rest
    return (16 * high + low) :: bytes
  | [_] => none

/-- The four characters that a literal stands for. -/
def decode (literal : String) : Except DecodeError String :=
  let s := literal.toList
  let digits := if hasPrefix s then s.drop 2 else s
  if digits.length ≠ 8 || !isHexadecimal digits then .error (.notACode literal)
  else
    match bytes? digits with
    | some bytes => .ok (String.ofList (bytes.map Char.ofNat))
    | none => .error (.oddDigits literal)

end ScriptingBindings.FourCharCode
