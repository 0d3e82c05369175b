/-
  ScriptingBindings.Address
  ──────────────────────────────────
  **NETWORK ADDRESSES.**

  The two parts of an address that decide whether a document can be asked for
  there: the scheme before the first colon and the authority between two
  slashes and the path.  Some authorities are refused: those with a lone
  bracket, with anything but an IPv6 address or a future form of one between
  brackets, and those with a character that looks like a delimiter.
-/
import ScriptingBindings.Json.Reader
import ScriptingBindings.Text.Lines
import ScriptingBindings.Text.Casing

namespace ScriptingBindings

open Text

/-- The parts of an address. -/
structure Address where
  scheme : String := ""
  authority : String := ""
  deriving Repr, DecidableEq

namespace Address

/-! ## §1. Numeric hosts. -/

/-- One of the four numbers of an IPv4 address, without leading zeros. -/
def isByte (s : List Char) : Bool :=
  !s.isEmpty && s.length ≤ 3 && s.all Char.isDigit && (s.length == 1 || s.head? != some '0')
    && Json.numeralValue s ≤ 255

/-- An IPv4 address. -/
def isIPv4 (s : List Char) : Bool :=
  let parts := cutAt '.' s
  parts.length == 4 && parts.all isByte

/-- One of the numbers of an IPv6 address. -/
def isHextet (s : List Char) : Bool :=
  !s.isEmpty && s.length ≤ 4 && s.all (fun c => (Json.hexValue? c).isSome)

/-- The numbers before and after the gap of an IPv6 address, where a gap may also stand at
either end. -/
def areHextetsAround (before after : List (List Char)) : Bool :=
  let before := if before = [[]] then [] else before
  let after := if after = [[]] then [] else after
  before.all isHextet && after.all isHextet && before.length + after.length ≤ 7

/-- The numbers of an IPv6 address: eight, or fewer with one gap among them. -/
def areHextets (parts : List (List Char)) : Bool :=
  let inner := (parts.drop 1).dropLast
  match inner.count [] with
  | 0 => parts.length == 8 && parts.all isHextet
  | 1 =>
    let gap := 1 + inner.findIdx (· == [])
    areHextetsAround (parts.take gap) (parts.drop (gap + 1))
  | _ => false

/-- An IPv6 address without a zone.  Its last two numbers may be written as an IPv4 address. -/
def isUnzonedIPv6 (s : List Char) : Bool :=
  let parts := cutAt ':' s
  if parts.length < 3 then false
  else
    match parts.getLast? with
    | some last =>
      if last.contains '.' then
        isIPv4 last && areHextets (parts.dropLast ++ [['0'], ['0']])
      else areHextets parts
    | none => false

/-- An IPv6 address, which may name a zone after a percent sign. -/
def isIPv6 (s : List Char) : Bool :=
  match cutAt '%' s with
  | [host] => isUnzonedIPv6 host
  | [host, zone] => isUnzonedIPv6 host && !zone.isEmpty
  | _ => false

/-- The form that is set aside for later versions: `v`, a version, a dot and more. -/
def isFutureHost : List Char → Bool
  | 'v' :: rest =>
    match rest.span (fun c => (Json.hexValue? c).isSome) with
    | (_ :: _, '.' :: more) => !more.isEmpty && !more.contains '\n'
    | _ => false
  | _ => false

/-! ## §2. Authorities. -/

/-- A text after the last occurrence of a character, or all of it. -/
def afterLast (c : Char) (s : List Char) : List Char :=
  (s.reverse.takeWhile (· != c)).reverse

/-- The host of an authority, behind the user and in front of its number.  A host that
starts with a bracket ends with one, and nothing but a number may follow; other hosts hold none. -/
def host? (authority : List Char) : Option (List Char) :=
  let s := afterLast '@' authority
  if s.contains '[' then
    match s with
    | '[' :: inner =>
      let host := inner.takeWhile (· != ']')
      match inner.drop (host.length + 1) with
      | [] => some host
      | ':' :: _ => some host
      | _ => none
    | _ => none
  else some (s.takeWhile (· != ':'))

/-- A host as it may stand between brackets. -/
def isBracketHost (host : List Char) : Bool :=
  if host.head? = some 'v' then isFutureHost host else isIPv6 host

/-- Whether the brackets of an authority hold a legal host, if there are any.  Brackets beside
the host count as well. -/
def hasLegalBrackets (s : List Char) : Bool :=
  match s.contains '[', s.contains ']' with
  | false, false => true
  | true, true => (host? s).any isBracketHost
  | _, _ => false

/-- The characters whose compatibility form contains a delimiter of addresses. -/
def lookalikes : List Nat :=
  [0x2047, 0x2048, 0x2049, 0x2100, 0x2101, 0x2105, 0x2106, 0x2A74, 0xFE13, 0xFE16, 0xFE55, 0xFE56,
   0xFE5F, 0xFE6B, 0xFF03, 0xFF0F, 0xFF1A, 0xFF1F, 0xFF20]

/-- Whether an authority is not refused. -/
def isLegalAuthority (s : List Char) : Bool :=
  hasLegalBrackets s && !s.any (fun c => lookalikes.contains c.toNat)

/-! ## §3. Reading. -/

/-- A character of a scheme. -/
def isSchemeChar (c : Char) : Bool :=
  c.isAlphanum || c == '+' || c == '-' || c == '.'

/-- A character that ends the authority. -/
def endsAuthority (c : Char) : Bool :=
  c == '/' || c == '?' || c == '#'

/-- The scheme of an address and what follows its colon. -/
def splitScheme (s : List Char) : List Char × List Char :=
  match s.span (· != ':') with
  | (c :: scheme, _ :: rest) =>
    if c.isAlpha && scheme.all isSchemeChar then (lowerChars (c :: scheme), rest) else ([], s)
  | _ => ([], s)

/-- The parts of an address, unless its authority is refused.  Control characters and spaces
at the start do not count, nor do tabs and line ends anywhere. -/
def read? (s : String) : Option Address :=
  let s := (s.toList.dropWhile (fun c => c.toNat ≤ 0x20)).filter
    (fun c => c != '\t' && c != '\r' && c != '\n')
  let (scheme, rest) := splitScheme s
  let authority :=
    match rest with
    | '/' :: '/' :: rest => rest.takeWhile (fun c => !endsAuthority c)
    | _ => []
  if isLegalAuthority authority then some ⟨String.ofList scheme, String.ofList authority⟩ else none

/-- Whether an address has both parts. -/
def isComplete (a : Address) : Bool :=
  !a.scheme.isEmpty && !a.authority.isEmpty

end Address

end ScriptingBindings
