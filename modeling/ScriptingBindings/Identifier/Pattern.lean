/-
  ScriptingBindings.Identifier.Pattern
  ──────────────────────────────────
  **PATTERNS AROUND IDENTIFIERS.**

  A pattern says what is written for an identifier that is a reserved word.
  Fixed text stands for itself and a doubled brace for one brace.  A field
  between braces stands for the identifier, which it names by nothing or by
  the number zero.  The field may go on to a part of the identifier, quote it,
  and lay it out in a width:

      field = "{" [number] ("." name | "[" place "]")* ["!" quoting] [":" layout] "}"

  A pattern is read in full before it is filled, but its faults only count
  where filling gets to them.
-/
import ScriptingBindings.Misuse
import ScriptingBindings.Text.Digit
import ScriptingBindings.Text.Quoted

namespace ScriptingBindings.Identifier

open Text

/-! ## §1. Patterns. -/

/-- A step from a value to a part of it. -/
inductive Access where
  /-- The character at a place. -/
  | place (n : Nat)
  /-- What a text names inside brackets. -/
  | entry (name : List Char)
  /-- What a name after a dot stands for. -/
  | attribute (name : List Char)
  /-- No step at all: the field is malformed here. -/
  | malformed
  deriving Repr, DecidableEq

/-- What a field starts from. -/
inductive Argument where
  /-- The value of a number. -/
  | position (n : Nat)
  /-- The value of a name. -/
  | named (name : List Char)
  deriving Repr, DecidableEq

/-- A part of a pattern. -/
inductive PatternPart where
  /-- A character that stands for itself. -/
  | literal (c : Char)
  /-- A field: where it starts, the steps from there, the letter of its quoting, its layout. -/
  | field (start : Argument) (steps : List Access) (quoting : Option Char)
      (layout : List PatternPart)
  /-- The end of what can be read. -/
  | fault

/-- What is written for an identifier. -/
abbrev Pattern := List PatternPart

namespace Pattern

/-! ## §2. Reading fields. -/

/-- The first number that is too large to count with. -/
def countLimit : Nat := Nat.pow 2 63

/-- The number at the start of a text, with the rest of the text; zero if there is none, and
nothing if it is too large. -/
def leadingNumber? (s : List Char) : Option (Nat × List Char) :=
  let digits := s.takeWhile isDecimal
  let n := digits.foldl (fun n c => 10 * n + (decimalValue? c).getD 0) 0
  if n < countLimit then some (n, s.drop digits.length) else none

/-- A text of digits only, which is a number. -/
def isNumber (s : List Char) : Bool :=
  !s.isEmpty && s.all isDecimal

/-- How fields name the identifier: by a number or, one after the other, by nothing. -/
inductive Numbering where
  /-- No field has named it so far. -/
  | undecided
  /-- By numbers. -/
  | explicit
  /-- By nothing; so many fields have done so. -/
  | counted (fields : Nat)
  deriving Repr, DecidableEq

/-- What the first part of a field stands for.  Fields with a number and fields without one do
not mix. -/
def Numbering.argument? (numbering : Numbering) (name : List Char) :
    Option (Argument × Numbering) :=
  if name.isEmpty then
    match numbering with
    | .undecided => some (.position 0, .counted 1)
    | .counted n => some (.position n, .counted (n + 1))
    | .explicit => none
  else if isNumber name then
    match numbering, leadingNumber? name with
    | .counted _, _ => none
    | _, none => none
    | _, some (n, _) => some (.position n, .explicit)
  else some (.named name, numbering)

/-- Whether a character starts a step. -/
def startsAccess (c : Char) : Bool :=
  c == '.' || c == '['

/-- The step of a name between brackets. -/
def bracketStep (name : List Char) : Access :=
  if name.isEmpty then .malformed
  else if isNumber name then
    match leadingNumber? name with
    | some (n, _) => .place n
    | none => .malformed
  else .entry name

/-- The steps after the first part of a field. -/
def accesses : Nat → List Char → List Access
  | _, [] => []
  | 0, _ => [.malformed]
  | fuel + 1, '.' :: rest =>
    let name := rest.takeWhile (fun c => !startsAccess c)
    if name.isEmpty then [.malformed]
    else .attribute name :: accesses fuel (rest.drop name.length)
  | fuel + 1, '[' :: rest =>
    let name := rest.takeWhile (· != ']')
    match rest.drop name.length with
    | [] => [.malformed]
    | _ :: after => bracketStep name :: accesses fuel after
  | _ + 1, _ :: _ => [.malformed]

/-- The text of a field up to what ends its name, and that character with what follows it.
Inside brackets nothing ends the name. -/
def cutName : Nat → List Char → Option (List Char × Char × List Char)
  | 0, _ => none
  | _, [] => none
  | fuel + 1, c :: rest =>
    if c = '\x7b' then none
    else if c = '\x7d' || c = ':' || c = '!' then some ([], c, rest)
    else
      -- A bracket is skipped up to the one that closes it.
      let skipped := if c = '[' then rest.takeWhile (· != ']') else []
      (cutName fuel (rest.drop skipped.length)).map
        (fun (name, ending, after) => (c :: skipped ++ name, ending, after))

/-- The layout of a field up to the brace that closes the field, and what follows it. -/
def cutLayout (depth : Nat) : List Char → Option (List Char × List Char)
  | [] => none
  | c :: rest =>
    let inner (depth : Nat) := (cutLayout depth rest).map (fun (s, after) => (c :: s, after))
    if c = '\x7b' then inner (depth + 1)
    else if c = '\x7d' then
      match depth with
      | 0 => some ([], rest)
      | depth + 1 => inner depth
    else inner depth

/-- A field as it is written, and what follows it: its name, the letter of its quoting, and
its layout. -/
def cutField (s : List Char) : Option (List Char × Option Char × List Char × List Char) := do
  let (name, ending, rest) ← cutName (s.length + 1) s
  if ending = '\x7d' then return (name, none, [], rest)
  else if ending = ':' then
    let (layout, rest) ← cutLayout 0 rest
    return (name, none, layout, rest)
  else
    match rest with
    | quoting :: '\x7d' :: rest => return (name, some quoting, [], rest)
    | quoting :: ':' :: rest =>
      let (layout, rest) ← cutLayout 0 rest
      return (name, some quoting, layout, rest)
    | _ => none

/-! ## §3. Reading patterns. -/

/-- The parts of a pattern, and how its fields name the identifier.  A layout that has fields
is a pattern itself, `depth` patterns deep at most. -/
def readParts : Nat → Nat → Numbering → List Char → Pattern × Numbering
  | 0, _, numbering, _ => ([.fault], numbering)
  | _, _, numbering, [] => ([], numbering)
  | fuel + 1, depth, numbering, '\x7b' :: rest =>
    match rest with
    | '\x7b' :: rest =>
      let (parts, numbering) := readParts fuel depth numbering rest
      (.literal '\x7b' :: parts, numbering)
    | _ =>
      match cutField rest with
      | none => ([.fault], numbering)
      | some (name, quoting, layout, rest) =>
        let first := name.takeWhile (fun c => !startsAccess c)
        match numbering.argument? first with
        | none => ([.fault], numbering)
        | some (start, numbering) =>
          let steps := accesses name.length (name.drop first.length)
          let (layout, numbering) :=
            if !layout.contains '\x7b' then (layout.map .literal, numbering)
            else
              match depth with
              | 0 => ([.fault], numbering)
              | depth + 1 => readParts fuel depth numbering layout
          let (parts, numbering) := readParts fuel depth numbering rest
          (.field start steps quoting layout :: parts, numbering)
  | fuel + 1, depth, numbering, '\x7d' :: rest =>
    match rest with
    | '\x7d' :: rest =>
      let (parts, numbering) := readParts fuel depth numbering rest
      (.literal '\x7d' :: parts, numbering)
    | _ => ([.fault], numbering)
  | fuel + 1, depth, numbering, c :: rest =>
    let (parts, numbering) := readParts fuel depth numbering rest
    (.literal c :: parts, numbering)

/-- The pattern that a text denotes. -/
def ofChars (s : List Char) : Pattern :=
  (readParts (s.length + 1) 1 .undecided s).1

/-- The pattern that puts grave accents around an identifier. -/
def graves : Pattern :=
  [.literal '\x60', .field (.position 0) [] none [], .literal '\x60']

/-! ## §4. Values of fields. -/

/-- What a field stands for. -/
inductive FieldValue where
  /-- A text. -/
  | text (s : List Char)
  /-- The kind of all texts. -/
  | kind
  deriving Repr, DecidableEq

/-- The text of a value. -/
def FieldValue.chars : FieldValue → List Char
  | text s => s
  | kind => "<class 'str'>".toList

/-- A part of a value. -/
def FieldValue.access : FieldValue → Access → Except Misuse FieldValue
  | _, .malformed => .error .wrongValue
  | text s, .place n =>
    match s[n]? with
    | some c => .ok (text [c])
    | none => .error .outOfRange
  | text _, .entry _ => .error .wrongKind
  | text _, .attribute name =>
    if name = "__class__".toList then .ok kind else .error .noMember
  | kind, .attribute name =>
    if name = "__name__".toList || name = "__qualname__".toList then .ok (text "str".toList)
    else if name = "__module__".toList then .ok (text "builtins".toList)
    else .error .noMember
  | kind, _ => .error .wrongKind

/-- A value where a field starts: there is one identifier and no name for it. -/
def startValue (name : String) : Argument → Except Misuse FieldValue
  | .position 0 => .ok (.text name.toList)
  | .position _ => .error .outOfRange
  | .named _ => .error .unknownName

/-- A character as ASCII alone. -/
def asciiChar (c : Char) : List Char :=
  if c.toNat < 0x80 then [c]
  else if c.toNat < 0x100 then '\\' :: 'x' :: hexDigits 2 c.toNat
  else if c.toNat < 0x10000 then '\\' :: 'u' :: hexDigits 4 c.toNat
  else '\\' :: 'U' :: hexDigits 8 c.toNat

/-- A value in quotes. -/
def FieldValue.quoted : FieldValue → List Char
  | text s => quotedChars s
  | kind => kind.chars

/-- A value after the quoting of a field. -/
def FieldValue.after (v : FieldValue) : Option Char → Except Misuse FieldValue
  | none => .ok v
  | some 's' => .ok (.text v.chars)
  | some 'r' => .ok (.text v.quoted)
  | some 'a' => .ok (.text (v.quoted.flatMap asciiChar))
  | some _ => .error .wrongValue

/-! ## §5. Layouts. -/

/-- Where a text stands in its width. -/
inductive Alignment where
  | left
  | right
  | centre
  /-- Behind the sign of a number, which a text has not. -/
  | behindSign
  deriving Repr, DecidableEq

/-- The alignment of a character. -/
def Alignment.ofChar? : Char → Option Alignment
  | '<' => some left
  | '>' => some right
  | '^' => some centre
  | '=' => some behindSign
  | _ => none

/-- How a text is laid out. -/
structure TextLayout where
  fill : Char := ' '
  alignment : Alignment := .left
  width : Nat := 0
  /-- The greatest number of characters that are kept. -/
  limit : Option Nat := none
  deriving Repr, DecidableEq

/-- The alignment at the start of a layout, with the character that fills the width. -/
def TextLayout.aligned : List Char → TextLayout × Bool × List Char
  | c :: d :: rest =>
    match Alignment.ofChar? d, Alignment.ofChar? c with
    | some a, _ => ({ fill := c, alignment := a }, true, rest)
    | none, some a => ({ alignment := a }, false, d :: rest)
    | none, none => ({}, false, c :: d :: rest)
  | [c] =>
    match Alignment.ofChar? c with
    | some a => ({ alignment := a }, false, [])
    | none => ({}, false, [c])
  | [] => ({}, false, [])

/-- The greatest number of characters of a layout, after a point. -/
def TextLayout.limited (l : TextLayout) : List Char → Option (TextLayout × List Char)
  | '.' :: rest => do
    let (n, after) ← leadingNumber? rest
    if after.length = rest.length then none else return ({ l with limit := some n }, after)
  | s => some (l, s)

/-- The layout that a text denotes.  What only numbers have is refused. -/
def TextLayout.read? (s : List Char) : Option TextLayout := do
  let (l, filled, s) := TextLayout.aligned s
  -- A zero in front of the width fills it, unless something else does.
  let (l, s) :=
    match s with
    | '0' :: rest => if filled then (l, s) else ({ l with fill := '0' }, rest)
    | _ => (l, s)
  let (width, s) ← leadingNumber? s
  let (l, s) ← { l with width := width }.limited s
  if (s.isEmpty || s = ['s']) && l.alignment != .behindSign then some l else none

/-- A text in its layout. -/
def TextLayout.apply (l : TextLayout) (s : List Char) : List Char :=
  let s := (l.limit.map s.take).getD s
  let room := l.width - s.length
  let before :=
    match l.alignment with
    | .right => room
    | .centre => room / 2
    | .left | .behindSign => 0
  List.replicate before l.fill ++ s ++ List.replicate (room - before) l.fill

/-- The greatest number of characters that a layout can make. -/
def lengthLimit : Nat := Nat.pow 2 32

/-- A value in the layout that a text denotes.  The empty text leaves it as it is. -/
def FieldValue.laidOut (v : FieldValue) (layout : List Char) : Except Misuse (List Char) :=
  if layout.isEmpty then .ok v.chars
  else
    match v with
    | .kind => .error .wrongKind
    | .text s =>
      match TextLayout.read? layout with
      | none => .error .wrongValue
      | some l => if lengthLimit < l.width then .error .outOfMemory else .ok (l.apply s)

/-! ## §6. Filling. -/

mutual

/-- The text of a part for an identifier. -/
def fillPart (name : String) : PatternPart → Except Misuse (List Char)
  | .literal c => .ok [c]
  | .fault => .error .wrongValue
  | .field start steps quoting layout => do
    let v ← startValue name start
    let v ← steps.foldlM FieldValue.access v
    let v ← v.after quoting
    v.laidOut (← fillParts name layout)

/-- The text of parts for an identifier, up to the first that has none. -/
def fillParts (name : String) : List PatternPart → Except Misuse (List Char)
  | [] => .ok []
  | part :: rest => do
    let s ← fillPart name part
    let more ← fillParts name rest
    return s ++ more

end

/-- What a pattern writes for an identifier. -/
def fill (pattern : Pattern) (name : String) : Except Misuse String :=
  (fillParts name pattern).map String.ofList

/-- Grave accents go around an identifier, and nothing else does. -/
theorem fill_graves (name : String) : graves.fill name = .ok ("\x60" ++ name ++ "\x60") := by
  have h : "\x60" ++ name ++ "\x60" = String.ofList ('\x60' :: (name.toList ++ ['\x60'])) := by
    apply String.toList_injective
    simp
  rw [h]
  rfl

end Pattern

end ScriptingBindings.Identifier
