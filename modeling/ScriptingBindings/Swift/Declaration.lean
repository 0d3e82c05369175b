/-
  ScriptingBindings.Swift.Declaration
  ──────────────────────────────────
  **DECLARATIONS.**

  What is declared for an enumeration and for a class, with all names asked for
  and all types mapped.  Of several values or members of one name the first is
  declared and the others are skipped; setters that meet a taken name are left
  out silently.
-/
import ScriptingBindings.Log
import ScriptingBindings.Swift.TypeMap

namespace ScriptingBindings.Swift

open Dictionary

/-- Leave a record about a declaration. -/
def note (level : Level) (message : String) : Run GenerationError Unit :=
  Run.record .swift level message

/-! ## §1. Enumerations. -/

/-- A value of an enumeration. -/
structure CaseDeclaration where
  name : String
  code : String
  description : Option String
  deriving Repr, DecidableEq

/-- An enumeration. -/
structure EnumerationDeclaration where
  /-- The name in the dictionary. -/
  title : String
  name : String
  description : Option String
  cases : List CaseDeclaration
  deriving Repr, DecidableEq

/-- Record a value that is skipped. -/
def noteDuplicateCase (case title : String) : Run GenerationError Unit :=
  note .debug ("Skipping duplicate case '" ++ case ++ "' in '" ++ title ++ "'")

namespace Naming

/-- The values of an enumeration, those with a name in `seen` skipped. -/
def declareCases (title : String) (seen : List String) :
    List Enumerator → Declaring (List CaseDeclaration)
  | [] => return []
  | e :: rest => do
    let name ← .ofNaming (member e.name)
    if seen.contains name then
      Declaring.ofRun (noteDuplicateCase e.name title)
      declareCases title seen rest
    else
      let more ← declareCases title (name :: seen) rest
      return ⟨name, e.code, e.description⟩ :: more

/-- The declaration of an enumeration. -/
def declareEnumeration (names : Names) (e : Enumeration) : Declaring EnumerationDeclaration := do
  let cases ← declareCases e.name [] e.enumerators
  let name ← .ofNaming (enumerationName names e.name)
  return ⟨e.name, name, e.description, cases⟩

end Naming

/-! ## §2. Members of classes. -/

/-- A property that can be read. -/
structure PropertyDeclaration where
  name : String
  type : Json
  description : Option String

/-- An accessor for contained objects. -/
structure AccessorDeclaration where
  name : String
  /-- The name of the untyped accessor where there are typed ones. -/
  untyped : Option String
  /-- The type of the objects in the dictionary. -/
  title : String
  type : String
  deriving Repr, DecidableEq

/-- The setter of a property. -/
structure SetterDeclaration where
  name : String
  parameter : String
  type : Json

/-- The protocol of a class. -/
structure ProtocolDeclaration where
  /-- The name in the dictionary. -/
  title : String
  name : String
  description : Option String
  inheritance : List String
  properties : List PropertyDeclaration
  /-- The type of the identifier, if the class has one. -/
  identifier : Option Json
  accessors : List AccessorDeclaration
  setters : List SetterDeclaration

/-- The types that the members of a protocol are written with. -/
def ProtocolDeclaration.memberTypes (p : ProtocolDeclaration) : List Json :=
  p.properties.map PropertyDeclaration.type ++ p.identifier.toList
    ++ p.setters.map SetterDeclaration.type

/-- The property that becomes a method of its own. -/
def identifierName : String := "id"

/-- Record a member that is skipped. -/
def noteDuplicate (member title : String) : Run GenerationError Unit :=
  note .debug ("Skipping duplicate member '" ++ member ++ "' of '" ++ title ++ "'")

/-- The members declared so far. -/
structure Members where
  taken : List String := []
  identifier : Option Json := none
  properties : List PropertyDeclaration := []

/-- The names that an accessor takes. -/
def AccessorDeclaration.taken (a : AccessorDeclaration) : List String :=
  a.name :: a.untyped.toList

namespace Naming

/-- Declare a property. -/
def addProperty (o : Options) (names : Names) (title : String) (m : Members) (p : Property) :
    Declaring Members := do
  if p.name = identifierName then
    let type ← .ofNaming (mapBase o.overrides names p.type.base)
    return { m with identifier := some type.spelling, taken := identifierName :: m.taken }
  else
    let name ← .ofNaming (member p.name)
    if m.taken.contains name then
      Declaring.ofRun (noteDuplicate name title)
      return m
    else
      let type ← .ofNaming (mapType o.overrides names p.type)
      return { m with
        taken := name :: m.taken
        properties := m.properties ++ [⟨name, type.spelling, p.description⟩] }

/-- The accessors of a class, those with a taken name skipped. -/
def declareAccessors (o : Options) (names : Names) (title : String) (taken : List String) :
    List Dictionary.Element → Declaring (List AccessorDeclaration)
  | [] => return []
  | e :: rest => do
    let name ← .ofNaming (accessor e.type)
    if taken.contains name then
      Declaring.ofRun (noteDuplicate name title)
      declareAccessors o names title taken rest
    else
      let type ← .ofNaming (reference names e.type)
      let untyped := if o.typedAccessors then some (Names.untyped name) else none
      let more ← declareAccessors o names title (name :: taken) rest
      return ⟨name, untyped, e.type, type⟩ :: more

/-- The setter of a property. -/
def declareSetter (o : Options) (names : Names) (p : Property) : Naming SetterDeclaration := do
  let parameter ← member p.name
  let type ← mapType o.overrides names p.type
  return ⟨Names.setter p.name, parameter, type.spelling⟩

/-- The setters of the properties that can be set, those with a taken name left out. -/
def declareSetters (o : Options) (names : Names) (taken : List String) :
    List Property → Naming (List SetterDeclaration)
  | [] => return []
  | p :: rest =>
    if p.isReadOnly then declareSetters o names taken rest
    else do
      let s ← declareSetter o names p
      if taken.contains s.name then declareSetters o names taken rest
      else
        let more ← declareSetters o names (s.name :: taken) rest
        return s :: more

end Naming

/-! ## §3. Classes. -/

/-- The protocol that all others inherit. -/
def rootProtocol : String := "SBObjectProtocol"

/-- The classes that also have the generic methods. -/
def genericClasses : List String := ["window", "document", "application"]

/-- What the protocol of a class inherits, the parent class aside. -/
def basicInheritance (names : Names) (c : Dictionary.Class) :
    Except GenerationError (List String) :=
  if genericClasses.contains (Text.lower c.name) then
    match names.fixed with
    | some f => .ok [rootProtocol, f.genericMethods]
    | none => .error (.misuse .unknownName)
  else .ok [rootProtocol]

namespace Naming

/-- What the protocol of a class inherits. -/
def inheritanceOf (names : Names) (interface : String) (c : Dictionary.Class) :
    Naming (List String) := do
  let basic ← .ofExcept (basicInheritance names c)
  match c.inherits with
  | some parent =>
    if parent.isEmpty then return basic
    else
      let parent ← reference names parent
      if parent = interface || basic.contains parent then return basic
      else return basic ++ [parent]
  | none => return basic

/-- The declaration of a class. -/
def declareClass (o : Options) (names : Names) (c : Dictionary.Class) :
    Declaring ProtocolDeclaration := do
  let interface ← .ofNaming (interfaceName names c.name)
  let inheritance ← .ofNaming (inheritanceOf names interface c)
  let members ← c.properties.foldlM (addProperty o names c.name) {}
  let accessors ← declareAccessors o names c.name members.taken c.elements
  let taken := accessors.flatMap AccessorDeclaration.taken ++ members.taken
  let setters ← .ofNaming (declareSetters o names taken c.properties)
  return {
    title := c.name
    name := interface
    description := c.description
    inheritance := inheritance
    properties := members.properties
    identifier := members.identifier
    accessors := accessors
    setters := setters }

end Naming

/-! ## §4. Typed accessors. -/

/-- The typed accessors of a class. -/
structure TypedAccessors where
  title : String
  name : String
  accessors : List AccessorDeclaration
  deriving Repr, DecidableEq

/-- The typed accessors of a class, if it has any. -/
def Naming.declareTypedAccessors (o : Options) (names : Names) (c : Dictionary.Class) :
    Declaring (Option TypedAccessors) := do
  let own := c.properties.filter (fun p => p.name != identifierName)
  let taken ← .ofNaming (own.mapM (fun p => member p.name))
  let accessors ← declareAccessors o names c.name taken c.elements
  if accessors.isEmpty then return none
  else
    let name ← .ofNaming (interfaceName names c.name)
    return some ⟨c.name, name, accessors⟩

/-! ## §5. Every name made. -/

section Made

variable (o : Options) (names : Names) (title : String)

/-- The values of an enumeration, with every name made. -/
def declareCases (seen : List String) (es : List Enumerator) :
    Run GenerationError (List CaseDeclaration) :=
  (Naming.declareCases title seen es).made

/-- The declaration of an enumeration, with every name made. -/
def declareEnumeration (e : Enumeration) : Run GenerationError EnumerationDeclaration :=
  (Naming.declareEnumeration names e).made

/-- Declare a property, with every name made. -/
def Members.addProperty (m : Members) (p : Property) : Run GenerationError Members :=
  (Naming.addProperty o names title m p).made

/-- The accessors of a class, with every name made. -/
def declareAccessors (taken : List String) (es : List Dictionary.Element) :
    Run GenerationError (List AccessorDeclaration) :=
  (Naming.declareAccessors o names title taken es).made

/-- The setter of a property, with every name made. -/
def declareSetter (p : Property) : Except GenerationError SetterDeclaration :=
  (Naming.declareSetter o names p).made

/-- The setters of properties, with every name made. -/
def declareSetters (taken : List String) (ps : List Property) :
    Except GenerationError (List SetterDeclaration) :=
  (Naming.declareSetters o names taken ps).made

/-- What the protocol of a class inherits, with every name made. -/
def inheritanceOf (interface : String) (c : Dictionary.Class) :
    Except GenerationError (List String) :=
  (Naming.inheritanceOf names interface c).made

/-- The declaration of a class, with every name made. -/
def declareClass (c : Dictionary.Class) : Run GenerationError ProtocolDeclaration :=
  (Naming.declareClass o names c).made

/-- The typed accessors of a class, with every name made. -/
def declareTypedAccessors (c : Dictionary.Class) : Run GenerationError (Option TypedAccessors) :=
  (Naming.declareTypedAccessors o names c).made

end Made

end ScriptingBindings.Swift
