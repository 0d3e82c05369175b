/-
  ScriptingBindings.Console.Literal
  ──────────────────────────────────
  **LITERALS.**

  The parameters of a handler tag are written as a literal: a number, a text,
  bytes, a constant, or a tuple, a set or a dictionary of literals.  What a
  literal stands for does not matter to a console without handlers; whether a
  text is one does.

      isLiteral "(1, 'a')" = true
      isLiteral "1 2"      = false
      isLiteral "{{}}"     = false      -- a set holds no dictionaries
-/
import ScriptingBindings.Text.Alphanumeric

namespace ScriptingBindings.Console.Literal

/-! ## §1. Kinds. -/

/-- What a literal is, as far as its surroundings can tell. -/
inductive Kind where
  /-- A whole number or a number with a point. -/
  | real
  /-- A number with an imaginary unit. -/
  | imaginary
  /-- A number with a sign before it, real or not. -/
  | signed (isReal : Bool)
  /-- Anything else; a key of a dictionary and an element of a set must be hashable. -/
  | value (hashable : Bool)
  /-- The word `set`, which is no literal before it is called. -/
  | setName
  deriving Repr, DecidableEq

namespace Kind

/-- A kind that may be a key. -/
def isHashable : Kind → Bool
  | value hashable => hashable
  | setName => false
  | _ => true

/-- A number with a sign before it.  Only a number takes a sign, and only one. -/
def sign? : Kind → Option Kind
  | real => some (signed true)
  | imaginary => some (signed false)
  | _ => none

/-- A sum or a difference: a real number and an imaginary one without a sign of its own. -/
def sum? : Kind → Kind → Option Kind
  | real, imaginary | signed true, imaginary => some (value true)
  | _, _ => none

/-- A call without arguments. -/
def call? : Kind → Option Kind
  | setName => some (value false)
  | _ => none

/-- A tuple. -/
def tuple? (ks : List Kind) : Option Kind :=
  if ks.contains setName then none else some (value (ks.all isHashable))

/-- A set with elements, or a dictionary with keys. -/
def keyed? (keys : List Kind) : Option Kind :=
  if keys.all isHashable then some (value false) else none

end Kind

/-! ## §2. Blanks. -/

/-- A character that ends a line. -/
def endsLine (c : Char) : Bool := c == '\n' || c == '\r'

/-- What follows blanks and comments.  Between brackets the end of a line is a blank; a backslash
before it makes it one anywhere. -/
def skip (between : Bool) : List Char → List Char
  | [] => []
  | c :: rest =>
    if c = ' ' || c = '\t' || c = '\x0c' || (between && endsLine c) then skip between rest
    else if c = '#' then skipComment between rest
    else
      match c, rest with
      | '\\', '\n' :: rest => skip between rest
      | _, _ => c :: rest
where
  /-- What follows the end of a comment. -/
  skipComment (between : Bool) : List Char → List Char
    | [] => []
    | c :: rest =>
      if endsLine c then (if between then skip between rest else c :: rest)
      else skipComment between rest

/-! ## §3. Numbers. -/

/-- The longest digits of some kind, with single low lines between them, and what follows. -/
def digits? (isDigit : Char → Bool) : List Char → Option (List Char × List Char)
  | [] => none
  | c :: rest =>
    if !isDigit c then none
    else
      let more := if rest.head? = some '_' then digits? isDigit (rest.drop 1) else digits? isDigit rest
      match more with
      | some (ds, rest) => some (c :: ds, rest)
      | none => some ([c], rest)
termination_by s => s.length
decreasing_by all_goals simp only [List.length_drop, List.length_cons]; omega

/-- The most decimal digits of a whole number. -/
def digitLimit : Nat := 4300

/-- An exponent, if there is one; `none` for an exponent without digits. -/
def exponent? (s : List Char) : Option (Bool × List Char) :=
  match s with
  | c :: rest =>
    if c = 'e' || c = 'E' then
      let unsigned := match rest with
        | '+' :: rest | '-' :: rest => rest
        | _ => rest
      (digits? Char.isDigit unsigned).map (fun (_, rest) => (true, rest))
    else some (false, s)
  | [] => some (false, s)

/-- The end of a number: an imaginary unit may follow, but no other letter. -/
def unit? (isWhole : Bool) (digits s : List Char) : Option (Kind × List Char) :=
  let isWord (c : Char) : Bool := Text.isWordChar c || 128 ≤ c.toNat
  match s with
  | c :: rest =>
    if c = 'j' || c = 'J' then
      if rest.head?.any isWord then none else some (.imaginary, rest)
    else if isWord c then none
    else whole s
  | [] => whole s
where
  /-- A real number.  A whole number does not start with a zero unless it is zero. -/
  whole (s : List Char) : Option (Kind × List Char) :=
    if isWhole && (digits.head? == some '0' && digits.any (· != '0')) then none
    else if isWhole && digits.head? != some '0' && digitLimit < digits.length then none
    else some (.real, s)

/-- A number in digits of a base other than ten, after the letter for the base. -/
def based? (isDigit : Char → Bool) (s : List Char) : Option (Kind × List Char) := do
  let s := if s.head? = some '_' then s.drop 1 else s
  let (_, s) ← digits? isDigit s
  if s.head?.any (fun c => Text.isWordChar c || 128 ≤ c.toNat) then none
  else return (.real, s)

/-- A decimal number, with a point and an exponent or without. -/
def decimal? (s : List Char) : Option (Kind × List Char) := do
  let (ds, s) := (digits? Char.isDigit s).getD ([], s)
  let (hasPoint, fraction, s) :=
    match s with
    | '.' :: rest =>
      let (fraction, rest) := (digits? Char.isDigit rest).getD ([], rest)
      (true, fraction, rest)
    | _ => (false, [], s)
  if ds.isEmpty && fraction.isEmpty then none
  else
    let (hasExponent, s) ← exponent? s
    unit? (!hasPoint && !hasExponent) ds s

/-- A number. -/
def number? (s : List Char) : Option (Kind × List Char) :=
  match s with
  | '0' :: 'x' :: rest | '0' :: 'X' :: rest =>
    based? (fun c => c.isDigit || ('a' ≤ c.toLower && c.toLower ≤ 'f')) rest
  | '0' :: 'o' :: rest | '0' :: 'O' :: rest => based? (fun c => '0' ≤ c && c ≤ '7') rest
  | '0' :: 'b' :: rest | '0' :: 'B' :: rest => based? (fun c => c == '0' || c == '1') rest
  | _ => decimal? s

/-! ## §4. Texts. -/

/-- The ways to write a text. -/
structure Style where
  /-- A backslash is a backslash. -/
  isRaw : Bool
  /-- The characters are bytes. -/
  isBytes : Bool
  deriving Repr, DecidableEq

/-- The style for letters before a quote. -/
def Style.ofLetters? (letters : List Char) : Option Style :=
  match letters.map Char.toLower with
  | [] | ['u'] => some ⟨false, false⟩
  | ['r'] => some ⟨true, false⟩
  | ['b'] => some ⟨false, true⟩
  | ['b', 'r'] | ['r', 'b'] => some ⟨true, true⟩
  | _ => none

/-- The number of hexadecimal digits after a letter that follows a backslash. -/
def Style.escapeDigits (style : Style) (c : Char) : Nat :=
  if style.isRaw then 0
  else if c = 'x' then 2
  else if style.isBytes then 0
  else if c = 'u' then 4
  else if c = 'U' then 8
  else 0

/-- The value of hexadecimal digits. -/
def hexNumber? (ds : List Char) : Option Nat :=
  ds.foldl (fun n c => do
    let n ← n
    if c.isDigit then some (16 * n + (c.toNat - '0'.toNat))
    else if 'a' ≤ c.toLower && c.toLower ≤ 'f' then
      some (16 * n + (c.toLower.toNat - 'a'.toNat + 10))
    else none) (some 0)

/-- Whether the digits after a backslash and a letter are there and name a character. -/
def Style.isEscape (style : Style) (c : Char) (rest : List Char) : Bool :=
  let count := style.escapeDigits c
  if c = 'N' && !style.isRaw && !style.isBytes then
    -- A character by its name, in braces.
    rest.head? = some '\x7b' && rest.contains '\x7d'
  else
    (rest.take count).length = count
      && (hexNumber? (rest.take count)).any (· ≤ 0x10FFFF)

/-- What follows the end of a text that is closed by some quotes. -/
def Style.afterText? (style : Style) (closing : List Char) : List Char → Option (List Char)
  | [] => none
  | '\\' :: c :: rest =>
    if style.isBytes && 128 ≤ c.toNat then none
    else if style.isRaw || style.isEscape c rest then style.afterText? closing rest
    else none
  | c :: rest =>
    if closing.isPrefixOf (c :: rest) then some ((c :: rest).drop closing.length)
    else if closing.length = 1 && endsLine c then none
    else if style.isBytes && 128 ≤ c.toNat then none
    else style.afterText? closing rest

/-- A single text after the letters for its style. -/
def Style.text? (style : Style) : List Char → Option (List Char)
  | '\'' :: '\'' :: '\'' :: rest => style.afterText? ['\'', '\'', '\''] rest
  | '"' :: '"' :: '"' :: rest => style.afterText? ['"', '"', '"'] rest
  | '\'' :: rest => style.afterText? ['\''] rest
  | '"' :: rest => style.afterText? ['"'] rest
  | _ => none

/-- A text with the letters for its style, if a text starts here. -/
def text? (s : List Char) : Option (Style × List Char) := do
  let letters := s.takeWhile Char.isAlpha
  let style ← Style.ofLetters? letters
  let rest ← style.text? (s.drop letters.length)
  return (style, rest)

/-- Whether letters for a style and a quote come next. -/
def startsText (s : List Char) : Bool :=
  let letters := s.takeWhile Char.isAlpha
  (Style.ofLetters? letters).isSome
    && (s.drop letters.length).head?.any (fun c => c == '"' || c == '\'')

/-- What follows texts that stand side by side, which are one text.  The fuel is the number of
texts. -/
def texts? : Nat → Bool → List Char → Option (List Char)
  | 0, _, _ => none
  | fuel + 1, between, s => do
    let (style, rest) ← text? s
    let next := skip between rest
    if startsText next then
      let (other, _) ← text? next
      -- Texts and bytes do not go together.
      if style.isBytes = other.isBytes then texts? fuel between next else none
    else return rest

/-! ## §5. Values. -/

/-- The most brackets around a value. -/
def depthLimit : Nat := 200

mutual

/-- A literal, or a sum of two.  The fuel bounds the number of steps; `depth` counts the brackets
around. -/
def item? : Nat → Nat → List Char → Option (Kind × List Char)
  | 0, _, _ => none
  | fuel + 1, depth, s => do
    let (k, s) ← term? fuel depth s
    itemAfter? fuel depth k s

/-- What may follow a term: more terms with signs between them. -/
def itemAfter? : Nat → Nat → Kind → List Char → Option (Kind × List Char)
  | 0, _, _, _ => none
  | fuel + 1, depth, k, s =>
    match skip (0 < depth) s with
    | '+' :: rest | '-' :: rest => do
      let (other, rest) ← term? fuel depth rest
      itemAfter? fuel depth (← k.sum? other) rest
    | rest => some (k, rest)

/-- A term: a literal with a sign or without. -/
def term? : Nat → Nat → List Char → Option (Kind × List Char)
  | 0, _, _ => none
  | fuel + 1, depth, s =>
    match skip (0 < depth) s with
    | '+' :: rest | '-' :: rest => do
      let (k, rest) ← term? fuel depth rest
      return (← k.sign?, rest)
    | rest => do
      let (k, rest) ← atom? fuel depth rest
      calls? fuel depth k rest

/-- What may follow an atom: calls without arguments. -/
def calls? : Nat → Nat → Kind → List Char → Option (Kind × List Char)
  | 0, _, _, _ => none
  | fuel + 1, depth, k, s =>
    match skip (0 < depth) s with
    | '(' :: rest =>
      match skip true rest with
      | ')' :: rest => do calls? fuel depth (← k.call?) rest
      | _ => none
    | rest => some (k, rest)

/-- A literal without a sign, or several in brackets. -/
def atom? : Nat → Nat → List Char → Option (Kind × List Char)
  | 0, _, _ => none
  | fuel + 1, depth, s =>
    match s with
    | '(' :: rest =>
      if depthLimit ≤ depth then none
      else
        match skip true rest with
        | ')' :: rest => some (.value true, rest)
        | rest => do
          let (ks, hasComma, rest) ← items? fuel (depth + 1) rest
          match ks, rest with
          | [k], ')' :: rest => if hasComma then return (← Kind.tuple? [k], rest) else return (k, rest)
          | ks, ')' :: rest => return (← Kind.tuple? ks, rest)
          | _, _ => none
    | '\x7b' :: rest =>
      if depthLimit ≤ depth then none
      else
        match skip true rest with
        | '\x7d' :: rest => some (.value false, rest)
        | rest => do
          let (ks, rest) ← braced? fuel (depth + 1) rest
          return (← Kind.keyed? ks, rest)
    | '.' :: '.' :: '.' :: rest => some (.value true, rest)
    | c :: _ =>
      if startsText s then (texts? s.length (0 < depth) s).map (fun rest => (.value true, rest))
      else if c.isDigit || c = '.' then number? s
      else
        let name := s.takeWhile (fun c => Text.isWordChar c || 128 ≤ c.toNat)
        let rest := s.drop name.length
        if ["True", "False", "None"].contains (String.ofList name) then some (.value true, rest)
        else if name = "set".toList then some (.setName, rest)
        else none
    | [] => none

/-- Literals with commas between them, whether there was a comma, and what follows. -/
def items? : Nat → Nat → List Char → Option (List Kind × Bool × List Char)
  | 0, _, _ => none
  | fuel + 1, depth, s => do
    let (k, rest) ← item? fuel depth s
    match skip (0 < depth) rest with
    | ',' :: rest =>
      let rest := skip (0 < depth) rest
      if rest.isEmpty || rest.head?.any (fun c => c == ')' || endsLine c) then
        return ([k], true, rest)
      else
        let (ks, _, rest) ← items? fuel depth rest
        return (k :: ks, true, rest)
    | rest => return ([k], false, rest)

/-- The elements of a set, or the keys of a dictionary, with the closing brace. -/
def braced? : Nat → Nat → List Char → Option (List Kind × List Char)
  | 0, _, _ => none
  | fuel + 1, depth, s => do
    let (k, rest) ← item? fuel depth s
    match skip true rest with
    | ':' :: rest =>
      let rest ← valueAfter? fuel depth rest
      keysAfter? fuel depth true [k] rest
    | rest => keysAfter? fuel depth false [k] rest

/-- The value of a key. -/
def valueAfter? : Nat → Nat → List Char → Option (List Char)
  | 0, _, _ => none
  | fuel + 1, depth, s => do
    let (k, rest) ← item? fuel depth s
    if k = .setName then none else return rest

/-- The elements or keys after those that were read. -/
def keysAfter? : Nat → Nat → Bool → List Kind → List Char → Option (List Kind × List Char)
  | 0, _, _, _, _ => none
  | fuel + 1, depth, hasValues, ks, s =>
    match skip true s with
    | '\x7d' :: rest => some (ks.reverse, rest)
    | ',' :: rest =>
      match skip true rest with
      | '\x7d' :: rest => some (ks.reverse, rest)
      | rest => do
        let (k, rest) ← item? fuel depth rest
        if hasValues then
          match skip true rest with
          | ':' :: rest =>
            let rest ← valueAfter? fuel depth rest
            keysAfter? fuel depth hasValues (k :: ks) rest
          | _ => none
        else keysAfter? fuel depth hasValues (k :: ks) rest
    | _ => none

end

/-! ## §6. Whole texts. -/

/-- The number of steps that are enough for a text: each step back to a smaller value takes
something off. -/
def fuelFor (s : List Char) : Nat := 8 * s.length + 8

/-- A text that is one literal, or several with commas between them. -/
def isLiteral (s : List Char) : Bool :=
  match items? (fuelFor s) 0 (skip true s) with
  | some (ks, hasComma, rest) =>
    (skip true rest).isEmpty
      && (if hasComma then (Kind.tuple? ks).isSome else !ks.contains .setName)
  | none => false

end ScriptingBindings.Console.Literal
