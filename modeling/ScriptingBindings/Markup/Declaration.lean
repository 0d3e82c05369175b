/-
  ScriptingBindings.Markup.Declaration
  ──────────────────────────────────
  **DECLARATIONS.**

  A declaration defines an element, attributes of one, an entity or a
  notation.  Each reader here starts after the keyword of a declaration and
  takes it off with its closing bracket.
-/
import ScriptingBindings.Markup.Value

namespace ScriptingBindings.Markup.Scan

/-! ## §1. Other resources. -/

/-- The names of another resource. -/
structure ExternalId where
  publicId : Option (List Char) := none
  systemId : Option (List Char) := none
  deriving Repr, DecidableEq

/-- Whether some resource is named. -/
def ExternalId.isGiven (e : ExternalId) : Bool :=
  e.publicId.isSome || e.systemId.isSome

/-- A character of a public name. -/
def isPublicChar (c : Char) : Bool :=
  c.isAlphanum || " \r\n-'()+,./:=?;!*#@$_%".contains c

/-- A public name between quotes. -/
def publicLiteral : Scan (List Char) := do
  let s ← take literal?
  require (s.all isPublicChar && byteSize s ≤ nameLimit)
  return s

/-- A system name between quotes. -/
def systemLiteral : Scan (List Char) := do
  let s ← take literal?
  require (byteSize s ≤ nameLimit)
  return s

/-- The names of another resource, if any come next.  Where both are needed a public name alone is
not enough. -/
def externalId (needsBoth : Bool) : Scan ExternalId := do
  if ← mark? "SYSTEM" then
    needBlanks
    return { systemId := ← systemLiteral }
  else if ← mark? "PUBLIC" then
    needBlanks
    let publicId ← publicLiteral
    if needsBoth then
      needBlanks
      return { publicId, systemId := ← systemLiteral }
    else if (← blanks) && (← startsLiteral) then
      return { publicId, systemId := ← systemLiteral }
    else return { publicId }
  else return {}

/-! ## §2. Elements. -/

/-- The most groups in a model of content, one inside the other. -/
def groupLimit : Nat := 256

/-- How often a particle may occur. -/
def occurrence : Scan Unit := do
  match ← rest with
  | c :: s => if c = '?' || c = '*' || c = '+' then goOn s
  | [] => return ()

mutual

/-- A group after its opening parenthesis. -/
def group : Nat → Nat → Scan Unit
  | 0, _ => refuse
  | fuel + 1, level => do
    require (level ≤ groupLimit)
    let _ ← blanks
    particle fuel level
    particles fuel level none

/-- The name of an element, or a group. -/
def particle : Nat → Nat → Scan Unit
  | 0, _ => refuse
  | fuel + 1, level => do
    if ← mark? "(" then group fuel (level + 1)
    else
      let _ ← take name?
      occurrence

/-- More particles up to the closing parenthesis, all with one separator between them. -/
def particles : Nat → Nat → Option Char → Scan Unit
  | 0, _, _ => refuse
  | fuel + 1, level, separator => do
    let _ ← blanks
    if ← mark? ")" then occurrence
    else
      match ← rest with
      | c :: s =>
        require ((c == ',' || c == '|') && separator.all (· == c))
        goOn s
        let _ ← blanks
        particle fuel level
        particles fuel level (some c)
      | [] => refuse

end

/-- The names of elements that may stand among text, after `|`.  The fuel is the number of
names. -/
def mixedNames : Nat → Scan Unit
  | 0 => refuse
  | fuel + 1 => do
    if ← mark? "|" then
      let _ ← blanks
      let _ ← take name?
      let _ ← blanks
      mixedNames fuel
    else mark ")*"

/-- A model of content in parentheses, after the first one.  The fuel bounds the number of its
parts. -/
def contentModel (fuel : Nat) : Scan Unit := do
  let s ← rest
  let _ ← blanks
  if ← mark? "#PCDATA" then
    let _ ← blanks
    if ← mark? ")" then
      let _ ← mark? "*"
    else mixedNames fuel
  else
    goOn s
    group fuel 1

/-- The declaration of an element.  The fuel bounds the number of its parts. -/
def elementDeclaration (fuel : Nat) : Scan Unit := do
  needBlanks
  let name ← take name?
  needBlanks
  if !(← mark? "EMPTY") && !(← mark? "ANY") then
    mark "("
    contentModel fuel
  let _ ← blanks
  mark ">"
  if (← definitions).elements.contains name then fault
  else define fun d => { d with elements := name :: d.elements }

/-! ## §3. Attributes. -/

/-- Tokens in parentheses with `|` between them.  The fuel is the number of tokens. -/
def alternatives (read? : List Char → Option (List Char × List Char)) : Nat → Scan Unit
  | 0 => refuse
  | fuel + 1 => do
    let _ ← blanks
    let _ ← take read?
    let _ ← blanks
    if ← mark? "|" then alternatives read? fuel else mark ")"

/-- The types of attributes that have a name.  A name that another one starts with comes
behind it. -/
def namedTypes : List (String × AttributeType) :=
  [("CDATA", .text), ("IDREFS", .names), ("IDREF", .name), ("ID", .identity), ("ENTITY", .name),
   ("ENTITIES", .names), ("NMTOKENS", .tokens), ("NMTOKEN", .token)]

/-- The type of an attribute.  The fuel is the number of tokens in it. -/
def attributeType (fuel : Nat) : Scan AttributeType := do
  let s ← rest
  match namedTypes.find? (fun t => (after? t.1.toList s).isSome) with
  | some (name, t) =>
    mark name
    return t
  | none =>
    if ← mark? "NOTATION" then
      needBlanks
      mark "("
      alternatives name? fuel
      return .name
    else
      mark "("
      alternatives token? fuel
      return .tokens

/-- The default value of an attribute, if it has one. -/
def defaultValue : Scan (Option Value) := do
  if (← mark? "#REQUIRED") || (← mark? "#IMPLIED") then return none
  else
    if ← mark? "#FIXED" then needBlanks
    return some (← value true)

/-- Define an attribute.  A second definition is only worth a warning. -/
def defineAttribute (a : AttributeDefinition) : Scan Unit := do
  faultIf (a.name == "xml:id".toList && a.type != .identity)
  faultIf (!a.isLegal)
  let d ← definitions
  if (d.attribute? a.element a.name).isSome then warn
  else
    faultIf (a.type == .identity && (d.attributesOf a.element).any (·.type == .identity))
    define fun d => { d with attributes := d.attributes ++ [a] }

/-- The attributes of an element.  The fuel bounds their number, and the number of tokens in the
type of each. -/
def attributeDefinitions (element : List Char) : Nat → Scan Unit
  | 0 => refuse
  | fuel + 1 => do
    if ← mark? ">" then return ()
    else
      let name ← take name?
      needBlanks
      let type ← attributeType fuel
      needBlanks
      let value ← defaultValue
      if (← next?) != some '>' then needBlanks
      let value := value.map fun v => (if type = .text then v else v.normalized).written
      defineAttribute { element, name, type, value }
      attributeDefinitions element fuel

/-- The declaration of attributes.  The fuel bounds their number. -/
def attributeDeclaration (fuel : Nat) : Scan Unit := do
  needBlanks
  let element ← take name?
  let _ ← blanks
  attributeDefinitions element fuel

/-! ## §4. Entities. -/

/-- The text of an entity, given what is between its quotes: references to characters are replaced
and all others kept.  Behind a parameter that is not defined the text is not known. -/
def entityText (read : List Char) : Nat → List Char → Scan (List Char)
  | 0, _ => refuse
  | fuel + 1, s =>
    match s with
    | [] => return read.reverse
    | '&' :: s =>
      match referenceAt? s with
      | some (.charRef c, s) => entityText (c :: read) fuel s
      | some (.entityRef name, s) => entityText (';' :: name.reverse ++ '&' :: read) fuel s
      | _ => refuse
    | '%' :: s =>
      match name? s with
      | some (name, ';' :: _) => do
        define fun d => { d with usesParameters := true }
        -- A parameter that is defined may not stand inside a declaration.
        require ((← definitions).parameters.lookup name).isNone
        undefinedEntity
        return read.reverse
      | _ => refuse
    | c :: s => entityText (c :: read) fuel s

/-- The text of an entity between quotes. -/
def entityLiteral : Scan (List Char) := do
  let raw ← take literal?
  require ((← get).depth < depthLimit)
  entityText [] (raw.length + 1) raw

/-- The names of a resource for an entity. -/
def entityResource : Scan Unit := do
  let resource ← externalId true
  require (resource.isGiven && !resource.systemId.any (·.contains '#'))

/-- What an entity stands for. -/
def entityContent : Scan EntityContent := do
  if ← startsLiteral then return .internal (← entityLiteral)
  else
    entityResource
    if (← next?) != some '>' then needBlanks
    if ← mark? "NDATA" then
      needBlanks
      match name? (← rest) with
      | some (_, s) => goOn s
      | none => pure ()
      return .unparsed
    else return .external

/-- Define an entity.  The characters with names of their own cannot be defined otherwise. -/
def defineEntity (name : List Char) (content : EntityContent) : Scan Unit :=
  match predefined? name, content with
  | some c, .internal text => if mayRedefine c text then pure () else warn
  | some _, _ => warn
  | none, _ => define (·.addEntity name content)

/-- The declaration of an entity or a parameter. -/
def entityDeclaration : Scan Unit := do
  needBlanks
  let isParameter ← mark? "%"
  if isParameter then needBlanks
  let name ← take name?
  faultIf (name.contains ':')
  needBlanks
  if isParameter then
    if ← startsLiteral then
      let text ← entityLiteral
      define (·.addParameter name (some text))
    else
      entityResource
      define (·.addParameter name none)
  else defineEntity name (← entityContent)
  let _ ← blanks
  mark ">"

/-! ## §5. Notations. -/

/-- The declaration of a notation. -/
def notationDeclaration : Scan Unit := do
  needBlanks
  let name ← take name?
  faultIf (name.contains ':')
  needBlanks
  let resource ← externalId false
  let _ ← blanks
  mark ">"
  require resource.isGiven
  if (← definitions).notations.contains name then fault
  else define fun d => { d with notations := name :: d.notations }

end ScriptingBindings.Markup.Scan
