/-
  ScriptingBindings.Console.Style
  ──────────────────────────────────
  **STYLES.**

  A style is described in words: attributes, a colour, a colour of the
  ground, a link.  Two descriptions of one style have one normal text, by
  which a tag finds the one that it closes.  What describes no style is its
  own normal text.

      normalStyle "b  Red"     = .ok "bold red"
      normalStyle "red not b"  = .ok "not bold red"
      normalStyle "Nothing 1"  = .ok "nothing 1"
-/
import ScriptingBindings.Console.Colour
import ScriptingBindings.Text.Blank
import ScriptingBindings.Text.Casing

namespace ScriptingBindings.Console

/-! ## §1. Styles. -/

/-- The attributes of a style in the order in which they are told. -/
def attributeNames : List String :=
  ["bold", "dim", "italic", "underline", "blink", "blink2", "reverse", "conceal", "strike",
   "underline2", "frame", "encircle", "overline"]

/-- Other names of some attributes. -/
def attributeAliases : List (String × String) :=
  [("b", "bold"), ("c", "conceal"), ("d", "dim"), ("i", "italic"), ("o", "overline"),
   ("r", "reverse"), ("s", "strike"), ("u", "underline"), ("uu", "underline2")]

/-- The attribute of a word. -/
def attribute? (word : String) : Option String :=
  if attributeNames.contains word then some word else attributeAliases.lookup word

/-- A style: the attributes that are turned on or off, the last decision first, the colours and
the link. -/
structure Style where
  attributes : List (String × Bool) := []
  colour : Option String := none
  ground : Option String := none
  link : Option String := none
  deriving Repr, DecidableEq

/-- The words for a style. -/
def Style.words (s : Style) : List String :=
  attributeNames.flatMap (fun name =>
    match s.attributes.lookup name with
    | some true => [name]
    | some false => ["not", name]
    | none => [])
    ++ s.colour.toList
    ++ (s.ground.map (fun colour => ["on", colour])).getD []
    ++ (s.link.map (fun target => ["link", target])).getD []

/-- The text for a style. -/
def Style.text (s : Style) : String :=
  if s.words.isEmpty then "none" else " ".intercalate s.words

/-- Why words describe no style. -/
inductive StyleError where
  /-- A word is out of place. -/
  | unknown
  /-- A colour cannot even be looked at. -/
  | badShare
  deriving Repr, DecidableEq

/-- The failure of a colour as the failure of a style. -/
def StyleError.ofColour : ColourError → StyleError
  | .unknown => unknown
  | .badShare => badShare

/-- The style that words describe, after the words before them.  What follows `not` and `link` is
taken as it is written. -/
def Style.ofWords (s : Style) : List String → Except StyleError Style
  | [] => .ok s
  | word :: rest =>
    match Text.lower word, rest with
    | "on", colour :: rest =>
      match Colour.check colour with
      | .ok colour => ofWords { s with ground := some colour } rest
      | .error e => .error (.ofColour e)
    | "not", name :: rest =>
      match attribute? name with
      | some name => ofWords { s with attributes := (name, false) :: s.attributes } rest
      | none => .error .unknown
    | "link", target :: rest => ofWords { s with link := some target } rest
    | word, rest =>
      match attribute? word with
      | some name => ofWords { s with attributes := (name, true) :: s.attributes } rest
      | none =>
        match Colour.check word with
        | .ok colour => ofWords { s with colour := some colour } rest
        | .error e => .error (.ofColour e)

/-! ## §2. Descriptions. -/

/-- The words of a text, after the characters of a word, the last one first. -/
def blankWordsAfter (word : List Char) : List Char → List String
  | [] => if word.isEmpty then [] else [String.ofList word.reverse]
  | c :: rest =>
    if Text.isBlank c then
      if word.isEmpty then blankWordsAfter [] rest
      else String.ofList word.reverse :: blankWordsAfter [] rest
    else blankWordsAfter (c :: word) rest

/-- The style that a text describes. -/
def Style.ofText (s : List Char) : Except StyleError Style :=
  let words := blankWordsAfter [] s
  if words = ["none"] then .ok {} else ofWords {} words

/-- The normal text for a description.  It fails only for a colour that cannot be looked at. -/
def normalStyle (s : List Char) : Except StyleError String :=
  match Style.ofText s with
  | .ok style => .ok style.text
  | .error .unknown => .ok (Text.lower (String.ofList (Text.stripEnd (s.dropWhile Text.isBlank))))
  | .error .badShare => .error .badShare

end ScriptingBindings.Console
