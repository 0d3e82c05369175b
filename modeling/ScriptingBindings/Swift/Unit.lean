/-
  ScriptingBindings.Swift.Unit
  ──────────────────────────────────
  **A WHOLE FILE.**

  First it is settled what the file declares: of several classes or
  enumerations of one name the first, and no enumeration without values.  Then
  their types become known by name, and last all parts are written, each after
  an empty line.
-/
import ScriptingBindings.Swift.Page

namespace ScriptingBindings.Swift

open Dictionary

/-! ## §1. What is declared. -/

/-- Leave a record about what is declared. -/
def noteChoice (level : Level) (message : String) : Logged Unit :=
  Logged.record .swift level message

/-- Make the fixed type known for an enumeration of save options. -/
def Names.noteSaveOptions (n : Names) (name type : String) : Names :=
  if n.isSaveOptions type then n.register name type else n

namespace Naming

/-- The classes that are declared: the first of each name. -/
def chooseClasses (names : Names) (seen : List String) :
    List Dictionary.Class → Stage (Except GenerationError (List Dictionary.Class))
  | [] => return .ok []
  | c :: rest => do
    match ← Stage.ofNaming (interfaceName names c.name) with
    | .error e => return .error e
    | .ok name =>
      if seen.contains name then
        Stage.ofLogged (noteChoice .debug ("Skipping duplicate class '" ++ c.name ++ "'"))
        chooseClasses names seen rest
      else
        let more ← chooseClasses names (name :: seen) rest
        return more.map (c :: ·)

/-- The enumerations that are declared: the first of each name, without those that have no
values.  The names learn of the latter and of enumerations of save options; they keep what
they learned if a name turns out to be invalid. -/
def chooseEnumerations (names : Names) (seen : List String) :
    List Enumeration → Stage (Names × Except GenerationError (List Enumeration))
  | [] => return (names, .ok [])
  | e :: rest => do
    match ← Stage.ofNaming (enumerationName names e.name) with
    | .error failure => return (names, .error failure)
    | .ok type =>
      -- This comes first: the enumeration of save options is itself taken for a duplicate.
      let names := names.noteSaveOptions e.name type
      if seen.contains type then
        Stage.ofLogged (noteChoice .debug ("Skipping duplicate enumeration '" ++ e.name ++ "'"))
        chooseEnumerations names seen rest
      else if e.enumerators.isEmpty then
        if names.empties.contains e.name then chooseEnumerations names seen rest
        else
          Stage.ofLogged (noteChoice .warning
            ("Skipping enumeration '" ++ e.name ++ "': it has no enumerators"))
          chooseEnumerations { names with empties := names.empties ++ [e.name] } seen rest
      else
        let (names, more) ← chooseEnumerations names (type :: seen) rest
        return (names, more.map (e :: ·))

end Naming

/-- What a file declares. -/
structure Plan where
  classes : List Dictionary.Class
  enumerations : List Enumeration

/-! ## §2. Known types. -/

/-- The type that references to an enumeration without values get. -/
def emptyEnumerationType : String := "OSType"

namespace Naming

/-- Names with a type known for every declared definition and for every empty enumeration. -/
def registerAll (n : Names) (p : Plan) : Naming Names := do
  -- The first to register a name has it, so enumerations go before classes.
  let n ← p.enumerations.foldlM (fun (n : Names) e => do
    return n.register e.name (← enumerationName n e.name)) n
  let n ← p.classes.foldlM (fun (n : Names) c => do
    return n.register c.name (← interfaceName n c.name)) n
  return n.empties.foldl (fun n name => n.register name emptyEnumerationType) n

/-- The names for a dictionary and what a file for it declares.  The names are those
reached even if there is no plan. -/
def plan (d : Dictionary) (basename : String) :
    Stage (Names × Except GenerationError Plan) := do
  let start := Names.start basename
  match ← chooseClasses start [] d.classes with
  | .error e => return (start, .error e)
  | .ok classes =>
    let (names, enumerations) ←
      chooseEnumerations start [(FixedNames.of basename).saveOptions] d.enumerations
    match enumerations with
    | .error e => return (names, .error e)
    | .ok enumerations =>
      let p : Plan := ⟨classes, enumerations⟩
      -- Every name was valid when its definition was chosen, so the second case is not met.
      match ← Stage.ofNaming (registerAll names p) with
      | .ok names => return (names, .ok p)
      | .error e => return (names, .error e)

end Naming

/-! ## §3. Text. -/

namespace Naming

/-- The text of an enumeration. -/
def enumerationText (o : Options) (names : Names) (e : Enumeration) : Declaring String := do
  let declaration ← declareEnumeration names e
  Declaring.ofExcept (declaration.text o.addComments)

/-- The text of the protocol of a class. -/
def classText (o : Options) (names : Names) (c : Dictionary.Class) : Declaring String := do
  let declaration ← declareClass o names c
  Declaring.ofExcept (declaration.text o.addComments)

/-- The text of the typed accessors, if any class has some. -/
def typedAccessorsPart (o : Options) (names : Names) (classes : List Dictionary.Class) :
    Declaring (List String) := do
  if o.typedAccessors then
    let declared ← classes.mapM (declareTypedAccessors o names)
    match declared.filterMap id with
    | [] => return []
    | ts =>
      let text ← .ofExcept (typedAccessorsText o.addComments ts)
      return [text]
  else return []

/-- The text of the names of all classes, if it is asked for. -/
def classNamesPart (o : Options) (f : FixedNames) (classes : List Dictionary.Class) :
    Naming (List String) := do
  if o.classNames then
    let entries ← declareClassNames [] classes
    return [← .ofExcept (classNamesText o.addComments f entries)]
  else return []

end Naming

/-- The text of the aliases, if any are asked for. -/
def aliasesPart (o : Options) (basename : String) (f : FixedNames) (declared : List String) :
    Except GenerationError (List String) := do
  if o.namespaceAliases || o.flatAliases then
    return [← aliasesText o basename f declared]
  else return []

/-- A part of a file without line feeds around it and with one at its end. -/
def trimmedPart (part : String) : List Char :=
  Text.stripOf '\n' part.toList ++ ['\n']

/-- Parts with an empty line between neighbours. -/
def joinParts (parts : List String) : String :=
  String.ofList (Text.unlines (parts.map trimmedPart))

/-- Record what a file declares. -/
def noteParts (basename : String) (p : Plan) : Run GenerationError Unit :=
  note .info
    ("Generated " ++ toString p.enumerations.length ++ " enumerations and "
      ++ toString p.classes.length ++ " class protocols for " ++ basename)

namespace Naming

/-- The parts of a file in order. -/
def parts (o : Options) (names : Names) (basename : String) (p : Plan) :
    Declaring (List String) := do
  let f := FixedNames.of basename
  let header ← .ofExcept (headerText basename o.imports f)
  let standard ← .ofExcept (standardText o.addComments f)
  let enumerations ← p.enumerations.mapM (enumerationText o names)
  let enumerationNames ← .ofNaming (p.enumerations.mapM (fun e => enumerationName names e.name))
  let classes ← p.classes.mapM (classText o names)
  let protocols ← .ofNaming (p.classes.mapM (fun c => interfaceName names c.name))
  let typed ← typedAccessorsPart o names p.classes
  let classNames ← .ofNaming (classNamesPart o f p.classes)
  let application ←
    .ofExcept (applicationText o.addComments f o.bundleIdentifier names.applicationFunction)
  let bindings ← .ofExcept (bindingsText protocols f)
  let aliases ← .ofExcept (aliasesPart o basename f (enumerationNames ++ protocols))
  Declaring.ofRun (noteParts basename p)
  return [header, standard] ++ enumerations ++ classes ++ typed ++ classNames
    ++ [application, bindings] ++ aliases

/-- The text of a file for a dictionary, and the names known after it. -/
def generate (o : Options) (d : Dictionary) (basename : String) :
    Stage (Names × Except GenerationError String) := do
  let (names, p) ← plan d basename
  match p with
  | .error e => return (names, .error e)
  | .ok p =>
    let written ← (parts o names basename p).run
    return (names, written.map joinParts)

end Naming

/-! ## §4. Every name made. -/

section Made

variable (o : Options) (names : Names)

/-- The classes that are declared, with every name made. -/
def chooseClasses (seen : List String) (cs : List Dictionary.Class) :
    Logged (Except GenerationError (List Dictionary.Class)) :=
  (Naming.chooseClasses names seen cs).made

/-- The enumerations that are declared, with every name made. -/
def chooseEnumerations (seen : List String) (es : List Enumeration) :
    Logged (Names × Except GenerationError (List Enumeration)) :=
  (Naming.chooseEnumerations names seen es).made

/-- Names with a type known for every definition, with every name made. -/
def Names.registerAll (n : Names) (p : Plan) : Except GenerationError Names :=
  (Naming.registerAll n p).made

/-- What a file declares, with every name made. -/
def plan (d : Dictionary) (basename : String) : Logged (Names × Except GenerationError Plan) :=
  (Naming.plan d basename).made

/-- The text of an enumeration, with every name made. -/
def enumerationText (e : Enumeration) : Run GenerationError String :=
  (Naming.enumerationText o names e).made

/-- The text of the protocol of a class, with every name made. -/
def classText (c : Dictionary.Class) : Run GenerationError String :=
  (Naming.classText o names c).made

/-- The text of the typed accessors, with every name made. -/
def typedAccessorsPart (classes : List Dictionary.Class) : Run GenerationError (List String) :=
  (Naming.typedAccessorsPart o names classes).made

/-- The text of the names of all classes, with every name made. -/
def classNamesPart (f : FixedNames) (classes : List Dictionary.Class) :
    Except GenerationError (List String) :=
  (Naming.classNamesPart o f classes).made

/-- The parts of a file, with every name made. -/
def parts (basename : String) (p : Plan) : Run GenerationError (List String) :=
  (Naming.parts o names basename p).made

/-- The text of a file, with every name made. -/
def generate (d : Dictionary) (basename : String) :
    Logged (Names × Except GenerationError String) :=
  (Naming.generate o d basename).made

end Made

/-! ## §5. Values in the text. -/

/-- The types that the text of the protocol of a class shows. -/
def shownTypes (o : Options) (names : Names) (c : Dictionary.Class) : List Json :=
  match (declareClass o names c).outcome with
  | .ok declaration => declaration.memberTypes
  | .error _ => []

/-- The values that the text of a file shows and that configuration may have given. -/
def shownValues (o : Options) (names : Names) (p : Plan) : List Json :=
  o.bundleIdentifier :: o.imports ++ p.classes.flatMap (shownTypes o names)

/-- Whether a file can hold the text for a dictionary: it shows no broken text. -/
def isEncodable (o : Options) (d : Dictionary) (basename : String) : Bool :=
  match (plan d basename).value with
  | (names, .ok p) => (shownValues o names p).all (!·.isBroken)
  | (_, .error _) => true

end ScriptingBindings.Swift
