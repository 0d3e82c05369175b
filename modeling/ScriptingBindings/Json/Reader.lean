/-
  ScriptingBindings.Json.Reader
  ──────────────────────────────────
  **READING JSON.**

  The grammar of RFC 8259 with one value to a text, and three words for numbers
  without digits.  A byte order mark, a control character inside a string, a
  comma before a closing bracket and anything after the value are refused, and
  so are integers of very many digits and values nested very deeply.  Of two
  members of one name the later value is kept, in the place of the earlier one.
-/
import ScriptingBindings.Json.Basic
import ScriptingBindings.Machine

namespace ScriptingBindings.Json

open Text (Code)

/-! ## §1. Blanks and words. -/

/-- Why a text cannot be read. -/
inductive ReadError where
  /-- It does not follow the grammar. -/
  | malformed
  /-- An integer has too many digits. -/
  | tooManyDigits
  /-- Values are nested too deeply. -/
  | tooDeep
  deriving Repr, DecidableEq

/-- A text without the gap at its start: blanks, tabs and line ends may stand between two tokens. -/
def skipGap (s : List Char) : List Char :=
  s.dropWhile Char.isWhitespace

/-- The text after a word that it starts with. -/
def afterWord? : List Char → List Char → Option (List Char)
  | [], s => some s
  | c :: word, d :: s => if c = d then afterWord? word s else none
  | _ :: _, [] => none

/-! ## §2. Numbers. -/

/-- The number that a sequence of digits denotes. -/
def numeralValue (digits : List Char) : Nat :=
  digits.foldl (fun n c => 10 * n + (c.toNat - '0'.toNat)) 0

/-- The digits before the point: a lone zero, or digits that do not start with one. -/
def wholePart? : List Char → Option (List Char × List Char)
  | '0' :: rest => some (['0'], rest)
  | s =>
    match s.span Char.isDigit with
    | ([], _) => none
    | (digits, rest) => some (digits, rest)

/-- The digits after a point; none and no point taken if the point has no digit after it. -/
def fractionPart (s : List Char) : List Char × List Char :=
  match s with
  | '.' :: rest =>
    match rest.span Char.isDigit with
    | ([], _) => ([], s)
    | (digits, after) => (digits, after)
  | _ => ([], s)

/-- An exponent, if the text starts with a complete one. -/
def exponentPart (s : List Char) : Option Int × List Char :=
  match s with
  | e :: rest =>
    if e = 'e' || e = 'E' then
      let signed : Bool × List Char :=
        match rest with
        | '-' :: r => (true, r)
        | '+' :: r => (false, r)
        | r => (false, r)
      match signed.2.span Char.isDigit with
      | ([], _) => (none, s)
      | (digits, after) =>
        let n : Int := numeralValue digits
        (some (if signed.1 then -n else n), after)
    else (none, s)
  | [] => (none, s)

/-- A number without its sign. -/
def readUnsigned (negative : Bool) (s : List Char) : Except ReadError (Json × List Char) :=
  match wholePart? s with
  | none => .error .malformed
  | some (whole, s) =>
    let (fraction, s) := fractionPart s
    let (exponent, s) := exponentPart s
    if fraction.isEmpty && exponent.isNone then
      if whole.length > digitLimit then .error .tooManyDigits
      else
        let n : Int := numeralValue whole
        .ok (int (if negative then -n else n), s)
    else
      let digits := numeralValue (whole ++ fraction)
      let d : Decimal := .ofParts negative digits (exponent.getD 0 - fraction.length)
      .ok (fractional (.ofDecimal d), s)

/-- A word that must come next, and the text after it. -/
def expectWord (word : String) (v : Json) (s : List Char) : Except ReadError (Json × List Char) :=
  match afterWord? word.toList s with
  | some rest => .ok (v, rest)
  | none => .error .malformed

/-- A number. -/
def readNumber : List Char → Except ReadError (Json × List Char)
  | '-' :: 'I' :: rest => expectWord "Infinity" (fractional (.infinite true)) ('I' :: rest)
  | '-' :: rest => readUnsigned true rest
  | s => readUnsigned false s

/-! ## §3. Strings. -/

/-- The value of a hexadecimal digit. -/
def hexValue? (c : Char) : Option Nat :=
  if c.isDigit then some (c.toNat - 0x30)
  else if 'a' ≤ c && c ≤ 'f' then some (c.toNat - 0x57)
  else if 'A' ≤ c && c ≤ 'F' then some (c.toNat - 0x37)
  else none

/-- The number that four hexadecimal digits denote, and the text after them. -/
def fourHex? : List Char → Option (Nat × List Char)
  | a :: b :: c :: d :: rest => do
    let a ← hexValue? a
    let b ← hexValue? b
    let c ← hexValue? c
    let d ← hexValue? d
    return (((a * 16 + b) * 16 + c) * 16 + d, rest)
  | _ => none

/-- The code point with a number. -/
def codeOf (n : Nat) : Code :=
  if h : 0xD800 ≤ n ∧ n < 0xE000 then .half ⟨n - 0xD800, by omega⟩ else .char (Char.ofNat n)

/-- The code point after `\u`.  Two escapes that form a surrogate pair are one character. -/
def unicodeEscape? (s : List Char) : Option (Code × List Char) := do
  let (high, rest) ← fourHex? s
  if 0xD800 ≤ high && high ≤ 0xDBFF then
    match rest with
    | '\\' :: 'u' :: after =>
      match fourHex? after with
      | some (low, after) =>
        if 0xDC00 ≤ low && low ≤ 0xDFFF then
          return (codeOf (0x10000 + (high - 0xD800) * 0x400 + (low - 0xDC00)), after)
        else return (codeOf high, rest)
      | none => none
    | _ => return (codeOf high, rest)
  else return (codeOf high, rest)

/-- The code point that an escape denotes, and the text after it. -/
def escape? : List Char → Option (Code × List Char)
  | '"' :: rest => some (.char '"', rest)
  | '\\' :: rest => some (.char '\\', rest)
  | '/' :: rest => some (.char '/', rest)
  | 'b' :: rest => some (.char '\x08', rest)
  | 'f' :: rest => some (.char '\x0c', rest)
  | 'n' :: rest => some (.char '\n', rest)
  | 'r' :: rest => some (.char '\r', rest)
  | 't' :: rest => some (.char '\t', rest)
  | 'u' :: rest => unicodeEscape? rest
  | _ => none

/-- The code points of a string after its opening quote, and the text after its closing one.
The code points before are given last one first. -/
def stringBody? : Nat → List Code → List Char → Option (List Code × List Char)
  | 0, _, _ => none
  | fuel + 1, before, s =>
    match s with
    | [] => none
    | '"' :: rest => some (before.reverse, rest)
    | '\\' :: rest =>
      match escape? rest with
      | some (c, rest) => stringBody? fuel (c :: before) rest
      | none => none
    | c :: rest => if c.toNat < 0x20 then none else stringBody? fuel (.char c :: before) rest

/-- A string after its opening quote. -/
def readString (s : List Char) : Except ReadError (List Code × List Char) :=
  match stringBody? (s.length + 1) [] s with
  | some found => .ok found
  | none => .error .malformed

/-! ## §4. Values. -/

mutual

/-- A value at the start of a text, inside so many more arrays and objects at most. -/
def readValue : Nat → Nat → List Char → Except ReadError (Json × List Char)
  | 0, _, _ => .error .malformed
  | fuel + 1, depth, s =>
    match s with
    | '"' :: rest => do
      let (codes, rest) ← readString rest
      return (ofCodes codes, rest)
    | '[' :: rest =>
      match depth with
      | 0 => .error .tooDeep
      | depth + 1 =>
        match skipGap rest with
        | ']' :: rest => .ok (arr [], rest)
        | rest => do
          let (items, rest) ← readItems fuel depth [] rest
          return (arr items, rest)
    | '\x7b' :: rest =>
      match depth with
      | 0 => .error .tooDeep
      | depth + 1 =>
        match skipGap rest with
        | '\x7d' :: rest => .ok (obj [], rest)
        | rest => do
          let (fields, rest) ← readMembers fuel depth [] rest
          return (obj fields, rest)
    | 'n' :: _ => expectWord "null" null s
    | 't' :: _ => expectWord "true" (bool true) s
    | 'f' :: _ => expectWord "false" (bool false) s
    | 'N' :: _ => expectWord "NaN" (fractional .undefined) s
    | 'I' :: _ => expectWord "Infinity" (fractional (.infinite false)) s
    | _ => readNumber s

/-- The items up to the closing bracket of an array, after those of `before`, last one first. -/
def readItems : Nat → Nat → List Json → List Char → Except ReadError (List Json × List Char)
  | 0, _, _, _ => .error .malformed
  | fuel + 1, depth, before, s => do
    let (v, rest) ← readValue fuel depth s
    match skipGap rest with
    | ']' :: rest => return ((v :: before).reverse, rest)
    | ',' :: rest => readItems fuel depth (v :: before) (skipGap rest)
    | _ => throw .malformed

/-- The members up to the closing bracket of an object, written after `before`. -/
def readMembers :
    Nat → Nat → List (String × Json) → List Char →
      Except ReadError (List (String × Json) × List Char)
  | 0, _, _, _ => .error .malformed
  | fuel + 1, depth, before, s =>
    match s with
    | '"' :: rest => do
      let (codes, rest) ← readString rest
      match skipGap rest with
      | ':' :: rest =>
        let (v, rest) ← readValue fuel depth (skipGap rest)
        let fields := OrderedMap.put before (Text.nameOf codes) v
        match skipGap rest with
        | '\x7d' :: rest => return (fields, rest)
        | ',' :: rest => readMembers fuel depth fields (skipGap rest)
        | _ => throw .malformed
      | _ => throw .malformed
    | _ => .error .malformed

end

/-- The value that a text denotes. -/
def read [Machine] (s : String) : Except ReadError Json := do
  let cs := skipGap s.toList
  let (v, rest) ← readValue (cs.length + 1) Machine.depth cs
  if (skipGap rest).isEmpty then return v else throw .malformed

/-- The value that a text denotes, if it denotes one. -/
def read? [Machine] (s : String) : Option Json :=
  (read s).toOption

end ScriptingBindings.Json
