/-
  ScriptingBindings.Console.Text
  ──────────────────────────────────
  **TEXT WITH STYLE TAGS.**

  A text for the console may hold style tags in square brackets.  A tag opens
  a style, or closes the last style of that name, or closes the last style of
  any name; a backslash before a tag makes it text.  A console without colours
  shows the text alone, but a tag that closes what is not open still makes the
  text unusable.

      shown "[red]a[/red] b" = .ok "a b\n"
      shown "a[/red]"        = .error .tag
-/
import ScriptingBindings.Console.Emoji
import ScriptingBindings.Console.Literal
import ScriptingBindings.Console.Style
import ScriptingBindings.Console.Wrap

namespace ScriptingBindings.Console

/-! ## §1. Tags. -/

/-- The characters that a tag starts with. -/
def startsTag (c : Char) : Bool :=
  ('a' ≤ c && c ≤ 'z') || c == '#' || c == '/' || c == '@'

/-- The inside of the tag that a text starts with, after its opening bracket, and what follows
the closing one. -/
def tag? (s : List Char) : Option (List Char × List Char) :=
  match s with
  | [] => none
  | c :: _ =>
    let inside := s.takeWhile (fun c => c != ']' && c != '[')
    match s.drop inside.length with
    | ']' :: rest => if startsTag c then some (inside, rest) else none
    | _ => none

theorem tag?_length {s inside rest : List Char} (h : tag? s = some (inside, rest)) :
    rest.length < s.length := by
  unfold tag? at h
  split at h
  · contradiction
  · next c cs =>
    simp only at h
    split at h
    · next heq =>
      split at h
      · simp only [Option.some.injEq, Prod.mk.injEq] at h
        have hlen := congrArg List.length heq
        simp only [List.length_drop, List.length_cons] at hlen
        rw [← h.2]
        simp only [List.length_cons]
        omega
      · contradiction
    · contradiction

/-- A text in pieces. -/
inductive Piece where
  /-- Characters between tags, as they are written. -/
  | text (s : List Char)
  /-- The start of a style, with what follows an equals sign. -/
  | opening (name parameters : List Char)
  /-- The end of the last style of a name. -/
  | closing (name : List Char)
  /-- The end of the last style of any name. -/
  | closingLast
  deriving Repr, DecidableEq

/-- The piece that the inside of a tag makes. -/
def Piece.ofTag (inside : List Char) : Piece :=
  let name := inside.takeWhile (· != '=')
  match name with
  | '/' :: name => if Text.isAllBlank name then closingLast else closing name
  | _ => opening name (inside.drop (name.length + 1))

/-- The text that was read since the last tag, backwards, before a number of backslashes. -/
def Piece.ofRead (read : List Char) : List Piece :=
  if read.isEmpty then [] else [.text read.reverse]

/-- The pieces of a text that follows a text without tags and a number of backslashes.  Before a
tag two backslashes stand for one, and an odd one makes the tag text. -/
def piecesAfter (read : List Char) (slashes : Nat) (s : List Char) : List Piece :=
  match s with
  | [] => Piece.ofRead (List.replicate slashes '\\' ++ read)
  | c :: rest =>
    if c = '\\' then piecesAfter read (slashes + 1) rest
    else if c = '[' then
      match h : tag? rest with
      | some (inside, following) =>
        have := tag?_length h
        Piece.ofRead read ++ Piece.ofRead (List.replicate (slashes / 2) '\\') ++
          (if slashes % 2 = 1 then .text ('[' :: inside ++ [']']) else .ofTag inside) ::
          piecesAfter [] 0 following
      | none => piecesAfter (c :: (List.replicate slashes '\\' ++ read)) 0 rest
    else piecesAfter (c :: (List.replicate slashes '\\' ++ read)) 0 rest
termination_by s.length

/-! ## §2. Reading. -/

/-- Why a text cannot be shown. -/
inductive TextError where
  /-- A tag closes what is not open, or hands over what is no literal. -/
  | tag
  /-- A tag asks for a colour that cannot be looked at. -/
  | colour
  deriving Repr, DecidableEq

/-- The failure of a style as the failure of a text.  Only a colour can make a text fail. -/
def TextError.ofStyle : StyleError → TextError
  | _ => colour

/-- A style that is open. -/
structure OpenStyle where
  name : String
  parameters : List Char
  deriving Repr, DecidableEq

/-- The literal that the parameters of a handler hand over: what stands in parentheses after its
name, or all of it. -/
def handedOver (parameters : List Char) : List Char :=
  let p := Text.stripEnd (parameters.dropWhile Text.isBlank)
  let name := p.takeWhile (fun c => Text.isWordChar c || c == '.')
  match p.drop name.length with
  | [] => ['(', ')']
  | '(' :: rest =>
    if rest.getLast? == some ')' && !rest.contains '\n' then '(' :: rest else p
  | _ => p

/-- Whether an open style may be closed: a handler hands over a literal. -/
def OpenStyle.canClose (o : OpenStyle) : Bool :=
  !o.name.startsWith "@" || o.parameters.isEmpty || Literal.isLiteral (handedOver o.parameters)

/-- Whether the parameters of an open style can be looked at, as part of its description. -/
def OpenStyle.canShow (o : OpenStyle) : Bool :=
  match Style.ofText (o.name.toList ++ ' ' :: o.parameters) with
  | .error .badShare => o.name.startsWith "@"
  | _ => true

/-- A text without the backslashes before brackets. -/
def unescaped : List Char → List Char
  | '\\' :: '[' :: rest => '[' :: unescaped rest
  | c :: rest => c :: unescaped rest
  | [] => []

/-- A text with the styles in it. -/
structure Reading where
  /-- The characters so far, backwards. -/
  text : List Char := []
  /-- The styles that are open, the last one first. -/
  styles : List OpenStyle := []
  /-- All styles. -/
  all : List OpenStyle := []

/-- Close an open style. -/
def Reading.close (r : Reading) (o : OpenStyle) : Except TextError Reading :=
  if o.canClose then .ok { r with styles := r.styles.erase o } else .error .tag

/-- Read a piece of a text. -/
def Reading.add (r : Reading) : Piece → Except TextError Reading
  | .text s => .ok { r with text := (withEmoji (unescaped s)).reverse ++ r.text }
  | .opening name parameters =>
    match normalStyle name with
    | .ok name =>
      let o := ⟨name, parameters⟩
      .ok { r with styles := o :: r.styles, all := o :: r.all }
    | .error e => .error (.ofStyle e)
  | .closing name =>
    match normalStyle (name.dropWhile Text.isBlank) with
    | .ok name =>
      -- The innermost style of that name is the first one in the list.
      match r.styles.find? (·.name = name) with
      | some o => r.close o
      | none => .error .tag
    | .error e => .error (.ofStyle e)
  | .closingLast =>
    match r.styles with
    | [] => .error .tag
    | o :: _ => r.close o

/-- A text without its tags and with its emoji. -/
def plain (s : List Char) : Except TextError (List Char) :=
  if !s.contains '[' then .ok (withEmoji s)
  else do
    let r ← (piecesAfter [] 0 s).foldlM Reading.add {}
    if r.all.all OpenStyle.canShow then return r.text.reverse else throw .colour

/-! ## §3. Showing. -/

/-- The characters that a console does not show: bell, backspace, vertical tab, form feed and
carriage return. -/
def isControl (c : Char) : Bool :=
  [7, 8, 11, 12, 13].contains c.toNat

/-- The number of cells in a line of the console. -/
def consoleWidth : Nat := 1000

/-- The lines that a console without colours shows of a text, if it can be shown. -/
def shown (s : String) : Except TextError String := do
  let text ← plain s.toList
  let lines := consoleLines consoleWidth (text.filter (fun c => !isControl c))
  return String.ofList (lines.flatMap (· ++ ['\n']))

end ScriptingBindings.Console
