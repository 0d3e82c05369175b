/-
  ScriptingBindings.Markup.Definitions
  ──────────────────────────────────
  **DEFINITIONS.**

  What a document defines before its elements: entities, parameters for the
  definitions themselves, attributes with types and default values, elements
  and notations.  Of two definitions of one name the first counts.
-/
import ScriptingBindings.Markup.Reference
import ScriptingBindings.Text.Lines

namespace ScriptingBindings.Markup

/-! ## §1. Entities. -/

/-- What an entity stands for. -/
inductive EntityContent where
  /-- Text of the document itself. -/
  | internal (text : List Char)
  /-- Some other resource, which is never fetched. -/
  | external
  /-- Some other resource that is no markup. -/
  | unparsed
  deriving Repr, DecidableEq

/-- An entity and what was found out about it so far. -/
structure Entity where
  content : EntityContent
  /-- Its text may stand in an attribute, as far as definitions go. -/
  isValidated : Bool := false
  /-- Its text may stand in an attribute of an element. -/
  isChecked : Bool := false
  /-- Its text was read as content. -/
  isParsed : Bool := false
  /-- Its text is being read. -/
  isOpen : Bool := false
  /-- The number of bytes that a reference to it stands for. -/
  size : Nat := 0
  deriving Repr, DecidableEq

/-- The text of an internal entity. -/
def Entity.text (e : Entity) : List Char :=
  match e.content with
  | .internal text => text
  | _ => []

/-- The characters that have a name in every document. -/
def predefinedChars : List (String × Char) :=
  [("lt", '<'), ("gt", '>'), ("amp", '&'), ("quot", '"'), ("apos", '\'')]

/-- The character that a name stands for in every document. -/
def predefined? (name : List Char) : Option Char :=
  predefinedChars.lookup (String.ofList name)

/-- Whether a text may be given to the name of a character anew: the character itself, if it is no
start of markup, or a reference to it in two digits. -/
def mayRedefine (c : Char) (text : List Char) : Bool :=
  (text = [c] && c != '<' && c != '&') ||
    match text with
    | '&' :: '#' :: 'x' :: digits => isReference 16 digits
    | '&' :: '#' :: digits => isReference 10 digits
    | _ => false
where
  /-- Two digits for the character and a semicolon. -/
  isReference (base : Nat) (digits : List Char) : Bool :=
    digits.length == 3 && digits.getLast? == some ';'
      && numberOf? base digits.dropLast == some c.toNat

/-! ## §2. Attributes. -/

/-- The types of attributes, by the form of their values. -/
inductive AttributeType where
  /-- Any text. -/
  | text
  /-- A name that no other element has. -/
  | identity
  /-- A name. -/
  | name
  /-- Names. -/
  | names
  /-- A token. -/
  | token
  /-- Tokens. -/
  | tokens
  deriving Repr, DecidableEq

/-- The characters of a text between single spaces, with no part for spaces at the ends. -/
def spacedParts (s : List Char) : List (List Char) :=
  (Text.cutAt ' ' s).filter (!·.isEmpty)

/-- Whether a value whose spaces are normal has the form of a type. -/
def AttributeType.accepts (t : AttributeType) (value : List Char) : Bool :=
  let parts := spacedParts value
  match t with
  | text => true
  | identity | name => isName value
  | names => !parts.isEmpty && parts.all isName
  | token => isWhole token? value
  | tokens => !parts.isEmpty && parts.all (isWhole token?)

/-- The definition of an attribute of an element. -/
structure AttributeDefinition where
  element : List Char
  name : List Char
  type : AttributeType
  /-- The default value, with its references as they are written. -/
  value : Option (List Char) := none
  deriving Repr, DecidableEq

/-- Whether the default value has the form of the type. -/
def AttributeDefinition.isLegal (a : AttributeDefinition) : Bool :=
  a.value.all a.type.accepts

/-! ## §3. Definitions. -/

/-- The definitions of a document. -/
structure Definitions where
  entities : List (List Char × Entity) := []
  /-- The parameters; `none` stands for another resource. -/
  parameters : List (List Char × Option (List Char)) := []
  attributes : List AttributeDefinition := []
  elements : List (List Char) := []
  notations : List (List Char) := []
  /-- There is another resource with definitions. -/
  hasExternalSubset : Bool := false
  /-- Some parameter was referred to. -/
  usesParameters : Bool := false

namespace Definitions

/-- Whether there may be definitions that were not read. -/
def mayBeIncomplete (d : Definitions) : Bool :=
  d.hasExternalSubset || d.usesParameters

/-- The definitions with one more entity. -/
def addEntity (d : Definitions) (name : List Char) (content : EntityContent) : Definitions :=
  if (d.entities.lookup name).isSome then d
  else { d with entities := d.entities ++ [(name, { content })] }

/-- The definitions with one more parameter. -/
def addParameter (d : Definitions) (name : List Char) (text : Option (List Char)) : Definitions :=
  if (d.parameters.lookup name).isSome then d
  else { d with parameters := d.parameters ++ [(name, text)] }

/-- The definitions with one entity changed. -/
def updateEntity (d : Definitions) (name : List Char) (f : Entity → Entity) : Definitions :=
  { d with entities := d.entities.map (fun e => if e.1 = name then (name, f e.2) else e) }

/-- The definitions of the attributes of an element. -/
def attributesOf (d : Definitions) (element : List Char) : List AttributeDefinition :=
  d.attributes.filter (·.element = element)

/-- The definition of an attribute of an element. -/
def attribute? (d : Definitions) (element name : List Char) : Option AttributeDefinition :=
  d.attributes.find? (fun a => a.element = element && a.name = name)

end Definitions

end ScriptingBindings.Markup
