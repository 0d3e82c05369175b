/-
  ScriptingBindings.Markup.Locator
  ──────────────────────────────────
  **NAMES OF NAMESPACES.**

  A namespace is named by a resource identifier, which is absolute, with a
  scheme, or relative.  Only its form matters here, and it has ASCII
  characters only.

      isLocator "http://h:80/p?q#f" = true
      isLocator "a#b#c"             = false
-/
import ScriptingBindings.Json.Reader

namespace ScriptingBindings.Markup.Locator

/-! ## §1. Characters. -/

/-- A character that a host may hold. -/
def isHostChar (c : Char) : Bool :=
  c.isAlphanum || "-._~!$&'()*+,;=".contains c

/-- A character of a path. -/
def isPathChar (c : Char) : Bool :=
  isHostChar c || c == ':' || c == '@'

/-- A character of a query. -/
def isQueryChar (c : Char) : Bool :=
  isPathChar c || c == '/' || c == '?'

/-- A character of a fragment. -/
def isFragmentChar (c : Char) : Bool :=
  isQueryChar c || c == '[' || c == ']'

/-- The text after the longest run of some characters and escaped bytes. -/
def skip (accepts : Char → Bool) : List Char → List Char
  | '%' :: a :: b :: rest =>
    if (Json.hexValue? a).isSome && (Json.hexValue? b).isSome then skip accepts rest
    else '%' :: a :: b :: rest
  | c :: rest => if accepts c then skip accepts rest else c :: rest
  | [] => []

/-! ## §2. Authorities. -/

/-- The largest number that may follow a host. -/
def hostNumberLimit : Nat := 2147483647

/-- The text after the number of a host. -/
def afterHostNumber? (s : List Char) : Option (List Char) :=
  let digits := s.takeWhile Char.isDigit
  let number := digits.foldl (fun n c => 10 * n + (c.toNat - '0'.toNat)) 0
  if digits.isEmpty || hostNumberLimit < number then none else some (s.drop digits.length)

/-- The text after a host.  Between brackets anything may stand. -/
def afterHost? (s : List Char) : Option (List Char) :=
  match s with
  | '[' :: rest =>
    match rest.dropWhile (· != ']') with
    | _ :: rest => some rest
    | [] => none
  | _ => some (skip isHostChar s)

/-- The text after an authority: a user, if there is one, a host and its number, if it has one. -/
def afterAuthority? (s : List Char) : Option (List Char) := do
  let hosted :=
    match skip (fun c => isHostChar c || c == ':') s with
    | '@' :: rest => rest
    | _ => s
  let rest ← afterHost? hosted
  match rest with
  | ':' :: rest => afterHostNumber? rest
  | _ => some rest

/-! ## §3. Locators. -/

/-- The text after a path whose first segment has other characters. -/
def afterPath (first : Char → Bool) (s : List Char) : List Char :=
  match skip first s with
  | '/' :: rest => skip (fun c => isPathChar c || c == '/') rest
  | rest => rest

/-- The text after an authority and a path, or a path alone; `first` tells the characters of the
first segment of a path that does not start with a slash. -/
def afterHierarchy? (first : Char → Bool) (s : List Char) : Option (List Char) :=
  match s with
  | '/' :: '/' :: rest => (afterAuthority? rest).map (fun rest =>
      if rest.head? = some '/' then afterPath isPathChar rest else rest)
  | _ => some (afterPath first s)

/-- Whether a text is a query and a fragment, both of which may be left out. -/
def isEnding (s : List Char) : Bool :=
  let rest :=
    match s with
    | '?' :: rest => skip isQueryChar rest
    | _ => s
  match rest with
  | '#' :: rest => (skip isFragmentChar rest).isEmpty
  | _ => rest.isEmpty

/-- The text after a scheme and its colon. -/
def afterScheme? (s : List Char) : Option (List Char) :=
  match s with
  | c :: _ =>
    if c.isAlpha then
      match s.dropWhile (fun c => c.isAlphanum || c == '+' || c == '-' || c == '.') with
      | ':' :: rest => some rest
      | _ => none
    else none
  | [] => none

/-- Whether a text is an absolute locator. -/
def isAbsolute (s : List Char) : Bool :=
  ((afterScheme? s).bind (afterHierarchy? isPathChar)).any isEnding

/-- Whether a text is a relative locator; its first segment has no colon. -/
def isRelative (s : List Char) : Bool :=
  (afterHierarchy? (fun c => isPathChar c && c != ':') s).any isEnding

/-- Whether a text is a locator. -/
def isLocator (s : List Char) : Bool :=
  isAbsolute s || isRelative s

end ScriptingBindings.Markup.Locator
