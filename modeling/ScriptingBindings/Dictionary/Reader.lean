/-
  ScriptingBindings.Dictionary.Reader
  ──────────────────────────────────
  **READING A DICTIONARY.**

  The suites of a document.  A missing attribute never fails: it is an empty
  text, an absent value or a no.  Definitions that are marked as hidden are
  left out unless they are asked for, each at its own level: a hidden class
  takes its properties along, a hidden property only itself.
-/
import ScriptingBindings.Dictionary.Basic
import ScriptingBindings.Log
import ScriptingBindings.Markup.Basic

namespace ScriptingBindings.Dictionary

/-! ## §1. Visibility. -/

/-- Whether an element is marked as hidden. -/
def isMarkedHidden (e : Markup.Element) : Bool :=
  e.value? "hidden" == some "yes"

/-- Whether a definition is kept. -/
def isKept (includeHidden : Bool) (e : Markup.Element) : Bool :=
  includeHidden || !isMarkedHidden e

/-! ## §2. Members. -/

/-- The type of a property, a parameter or a result.  An element for the type counts
before an attribute, and only it can make the type a list. -/
def ValueType.ofElement (e : Markup.Element) : ValueType :=
  match e.firstNamed? "type" with
  | some t =>
    { base := (t.value? "type").getD "Any"
      isList := t.value? "list" == some "yes"
      description := e.value? "description" }
  | none =>
    { base := (e.value? "type").getD "Any"
      description := e.value? "description" }

/-- A value of the element that holds settings of the application's own. -/
def cocoaValue? (e : Markup.Element) (base : String) : Option String :=
  (e.firstNamed? "cocoa").bind (fun cocoa => cocoa.value? base)

/-- A property. -/
def Property.ofElement (e : Markup.Element) : Property where
  name := e.value "name"
  code := e.value "code"
  type := .ofElement e
  description := e.value? "description"
  access := e.value? "access"
  cocoaKey := cocoaValue? e "key"
  isHidden := isMarkedHidden e

/-- The properties anywhere below an element. -/
def propertiesBelow (includeHidden : Bool) (e : Markup.Element) : List Property :=
  ((e.allNamed "property").filter (isKept includeHidden)).map Property.ofElement

/-- A kind of contained objects. -/
def Element.ofElement (e : Markup.Element) : Dictionary.Element where
  type := e.value "type"
  cocoaKey := e.value? "key"

/-- The kinds of contained objects anywhere below an element. -/
def elementsBelow (e : Markup.Element) : List Dictionary.Element :=
  (e.allNamed "element").map Element.ofElement

/-- The commands that the objects of a class respond to, those without a name left out. -/
def respondsToBelow (e : Markup.Element) : List String :=
  ((e.allNamed "responds-to").map (fun r => r.value "command")).filter (fun c => !c.isEmpty)

/-! ## §3. Definitions. -/

/-- A class. -/
def Class.ofElement (includeHidden : Bool) (e : Markup.Element) : Class where
  name := e.value "name"
  code := e.value "code"
  pluralName := e.value? "plural"
  description := e.value? "description"
  inherits := e.value? "inherits"
  properties := propertiesBelow includeHidden e
  elements := elementsBelow e
  respondsTo := respondsToBelow e
  isHidden := isMarkedHidden e

/-- A record type, which is a class with nothing but properties. -/
def Class.ofRecordType (includeHidden : Bool) (e : Markup.Element) : Class where
  name := e.value "name"
  code := e.value "code"
  description := e.value? "description"
  inherits := e.value? "inherits"
  properties := propertiesBelow includeHidden e
  isHidden := isMarkedHidden e

/-- An extension of a class. -/
def Extension.ofElement (includeHidden : Bool) (e : Markup.Element) : Extension where
  target := e.value "extends"
  properties := propertiesBelow includeHidden e
  elements := elementsBelow e
  respondsTo := respondsToBelow e

/-- One value of an enumeration. -/
def Enumerator.ofElement (e : Markup.Element) : Enumerator where
  name := e.value "name"
  code := e.value "code"
  description := e.value? "description"
  stringValue := cocoaValue? e "string-value"

/-- An enumeration. -/
def Enumeration.ofElement (e : Markup.Element) : Enumeration where
  name := e.value "name"
  code := e.value "code"
  description := e.value? "description"
  enumerators := (e.allNamed "enumerator").map Enumerator.ofElement
  isHidden := isMarkedHidden e

/-- A parameter; the direct parameter has no name. -/
def Parameter.ofElement (named : Bool) (e : Markup.Element) : Parameter where
  name := if named then some (e.value "name") else none
  code := e.value "code"
  type := .ofElement e
  description := e.value? "description"
  isOptional := e.value? "optional" == some "yes"

/-- A command. -/
def Command.ofElement (e : Markup.Element) : Command where
  name := e.value "name"
  code := e.value "code"
  description := e.value? "description"
  direct := (e.firstNamed? "direct-parameter").map (Parameter.ofElement false)
  parameters := (e.allNamed "parameter").map (Parameter.ofElement true)
  result := (e.firstNamed? "result").map ValueType.ofElement
  isHidden := isMarkedHidden e

/-! ## §4. Suites. -/

/-- The elements of a name below an element that are kept. -/
def keptBelow (includeHidden : Bool) (e : Markup.Element) (base : String) : List Markup.Element :=
  (e.allNamed base).filter (isKept includeHidden)

/-- A suite.  Its record types follow its classes, and only its own commands count, not
those deeper inside. -/
def Suite.ofElement (includeHidden : Bool) (e : Markup.Element) : Suite where
  name := e.value "name"
  code := e.value "code"
  description := e.value? "description"
  classes :=
    (keptBelow includeHidden e "class").map (Class.ofElement includeHidden)
      ++ (keptBelow includeHidden e "record-type").map (Class.ofRecordType includeHidden)
  extensions := (e.allNamed "class-extension").map (Extension.ofElement includeHidden)
  enumerations := (keptBelow includeHidden e "enumeration").map Enumeration.ofElement
  commands :=
    ((e.childrenNamed "command").filter (isKept includeHidden)).map Command.ofElement

/-- The suites of a document. -/
def suitesOf (includeHidden : Bool) (root : Markup.Element) : List Suite :=
  (root.allNamed "suite").map (Suite.ofElement includeHidden)

/-- What is recorded about a suite that was read. -/
def Suite.summary (s : Suite) : String :=
  "Suite '" ++ s.name ++ "': " ++ toString s.classes.length ++ " classes, "
    ++ toString s.extensions.length ++ " class-extensions, "
    ++ toString s.enumerations.length ++ " enumerations, "
    ++ toString s.commands.length ++ " commands"

/-- The suites of a document, with a record for each of them and one for their number. -/
def readSuites (includeHidden : Bool) (root : Markup.Element) : Logged (List Suite) :=
  let suites := suitesOf includeHidden root
  { value := suites
    log := suites.map (fun s => ⟨.reader, .debug, s.summary⟩)
      ++ [⟨.reader, .info, "Extracted " ++ toString suites.length ++ " suites"⟩] }

end ScriptingBindings.Dictionary
