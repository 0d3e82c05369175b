/-
  ScriptingBindings.Markup.Encoding.Units
  ──────────────────────────────────
  **UNITS OF SIXTEEN BITS.**

  A unit stands for one character, or two of them for one.  Two encodings are
  made of units.  UTF-16 has two bytes for each; a document in it is known by
  the mark at its start, or by the first characters of its declaration, which
  tell which byte of a unit comes first.  UTF-7 is ASCII: between a plus sign
  and a hyphen units are written in digits of six bits each, and all else
  stands for itself.

      Utf16.decode? true [0x00, 0x61, 0x00, 0xE9] = some "aé"
      Utf7.decode? "a+AOk-" = some "aé"
-/

namespace ScriptingBindings.Markup

/-! ## §1. Two bytes a unit. -/

namespace Utf16

/-- The characters of units; two units may stand for one character. -/
def characters? : List Nat → Option (List Char)
  | [] => some []
  | a :: rest =>
    if a < 0xD800 || 0xE000 ≤ a then (characters? rest).map (Char.ofNat a :: ·)
    else
      match rest with
      | b :: rest =>
        if a < 0xDC00 && 0xDC00 ≤ b && b < 0xE000 then
          (characters? rest).map
            (Char.ofNat (0x10000 + (a - 0xD800) * 0x400 + (b - 0xDC00)) :: ·)
        else none
      | [] => none

/-- Bytes in pairs, the high one first or last. -/
def pairs? (highFirst : Bool) : List Nat → Option (List Nat)
  | [] => some []
  | [_] => none
  | a :: b :: rest =>
    (pairs? highFirst rest).map ((if highFirst then 0x100 * a + b else a + 0x100 * b) :: ·)

/-- Which byte of a unit comes first in a document that starts with some bytes, if these show that
it is in units: the high one or the low one. -/
def highFirst? : List Nat → Option Bool
  | 0xFE :: 0xFF :: _ => some true
  | 0x00 :: 0x3C :: 0x00 :: 0x3F :: _ => some true
  | 0xFF :: 0xFE :: _ => some false
  | 0x3C :: 0x00 :: 0x3F :: 0x00 :: _ => some false
  | _ => none

/-- The characters of a document. -/
def decode? (highFirst : Bool) (bytes : List Nat) : Option (List Char) :=
  (pairs? highFirst bytes).bind characters?

end Utf16

/-! ## §2. Seven bits. -/

namespace Utf7

/-- The digits in the order of their values. -/
def digits : List Char :=
  "ABCDEFGHIJKLMNOPQRSTUVWXYZabcdefghijklmnopqrstuvwxyz0123456789+/".toList

/-- A character that stands for itself. -/
def isDirect (c : Char) : Bool :=
  c == '\t' || c == '\n' || c == '\r'
    || (' ' ≤ c && c ≤ '}' && c != '\\' && c != '+')

/-- The units of sixteen bits that digits write, after some bits that are left.  Bits that are left
at the end are zero. -/
def units? (bits width : Nat) : List Char → Option (List Nat)
  | [] => if width < 6 && bits = 0 then some [] else none
  | c :: rest =>
    let bits := bits * 64 + digits.idxOf c
    let width := width + 6
    if width < 16 then units? bits width rest
    else
      let left := width - 16
      (units? (bits % 2 ^ left) left rest).map (bits / 2 ^ left :: ·)

/-- The characters of a text.  The fuel is the number of characters. -/
def decodeWithin (done : List Char) : Nat → List Char → Option (List Char)
  | _, [] => some done.reverse
  | 0, _ => none
  | fuel + 1, '+' :: '-' :: rest => decodeWithin ('+' :: done) fuel rest
  | fuel + 1, '+' :: rest => do
    let run := rest.takeWhile digits.contains
    if run.isEmpty then none
    else
      let decoded ← (units? 0 0 run).bind Utf16.characters?
      let rest := rest.drop run.length
      let rest := if rest.head? = some '-' then rest.drop 1 else rest
      decodeWithin (decoded.reverse ++ done) fuel rest
  | fuel + 1, c :: rest => if isDirect c then decodeWithin (c :: done) fuel rest else none

/-- The characters of a text. -/
def decode? (s : List Char) : Option (List Char) :=
  decodeWithin [] s.length s

end Utf7

end ScriptingBindings.Markup
