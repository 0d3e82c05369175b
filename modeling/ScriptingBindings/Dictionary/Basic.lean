/-
  ScriptingBindings.Dictionary.Basic
  ──────────────────────────────────
  **SCRIPTING DICTIONARIES.**

  A dictionary groups what an application can be told into suites.  A suite
  defines classes with properties and contained elements, enumerations and
  commands, and may extend classes that are defined elsewhere.  Besides its
  suites a dictionary carries the catalog of standard classes that it was
  merged with and the dictionaries that it includes.
-/
import ScriptingBindings.Identifier.Casing
import ScriptingBindings.OrderedMap

namespace ScriptingBindings

/-! ## §1. Definitions. -/

namespace Dictionary

/-- The type of a property, a parameter or a result. -/
structure ValueType where
  /-- The name of the type of a single value. -/
  base : String := "Any"
  isList : Bool := false
  /-- Whether the value may be absent, which no document can rule out. -/
  isOptional : Bool := true
  description : Option String := none
  deriving Repr, DecidableEq

/-- A property of a class. -/
structure Property where
  name : String
  code : String := ""
  type : ValueType := {}
  description : Option String := none
  access : Option String := none
  cocoaKey : Option String := none
  isHidden : Bool := false
  deriving Repr, DecidableEq

/-- Only the access mode `r` keeps a property from being set. -/
def Property.isReadOnly (p : Property) : Bool :=
  p.access == some "r"

/-- A kind of objects that an object of a class contains. -/
structure Element where
  type : String
  cocoaKey : Option String := none
  deriving Repr, DecidableEq

/-- A class of scriptable objects. -/
structure Class where
  name : String
  code : String := ""
  pluralName : Option String := none
  description : Option String := none
  inherits : Option String := none
  properties : List Property := []
  elements : List Element := []
  respondsTo : List String := []
  isHidden : Bool := false
  deriving Repr, DecidableEq

/-- Members that are added to a class defined elsewhere. -/
structure Extension where
  /-- The name of the class that gets the members. -/
  target : String
  properties : List Property := []
  elements : List Element := []
  respondsTo : List String := []
  deriving Repr, DecidableEq

/-- One value of an enumeration. -/
structure Enumerator where
  name : String
  code : String := ""
  description : Option String := none
  stringValue : Option String := none
  deriving Repr, DecidableEq

/-- An enumeration. -/
structure Enumeration where
  name : String
  code : String := ""
  description : Option String := none
  enumerators : List Enumerator := []
  isHidden : Bool := false
  deriving Repr, DecidableEq

/-- A parameter of a command.  Only the direct parameter has no name. -/
structure Parameter where
  name : Option String := none
  code : String := ""
  type : ValueType := {}
  description : Option String := none
  isOptional : Bool := false
  deriving Repr, DecidableEq

/-- A command. -/
structure Command where
  name : String
  code : String := ""
  description : Option String := none
  direct : Option Parameter := none
  parameters : List Parameter := []
  result : Option ValueType := none
  isHidden : Bool := false
  deriving Repr, DecidableEq

/-- A group of definitions. -/
structure Suite where
  name : String
  code : String := ""
  description : Option String := none
  classes : List Class := []
  enumerations : List Enumeration := []
  commands : List Command := []
  extensions : List Extension := []
  deriving Repr, DecidableEq

/-- A document that another one includes. -/
structure Inclusion (α : Type) where
  /-- Where the document is included from. -/
  href : String
  /-- The name of what is generated from it. -/
  basename : String
  content : α

end Dictionary

/-- A whole dictionary. -/
structure Dictionary where
  suites : List Dictionary.Suite := []
  standardClasses : OrderedMap Dictionary.Class := []
  inclusions : List (Dictionary.Inclusion Dictionary) := []
  /-- Whether built-in definitions stand in for a document that could not be read. -/
  usesFallback : Bool := false

instance : Inhabited Dictionary := ⟨{}⟩

namespace Dictionary

/-! ## §2. Selectors. -/

/-- The name of a parameter inside a selector. -/
def Parameter.label? (p : Parameter) : Option String :=
  p.name.map (fun name => String.ofList (Identifier.selectorCase name.toList))

/-- The name of the method that a command becomes. -/
def Command.methodName (c : Command) : String :=
  String.ofList (Identifier.camelCase c.name.toList)

/-- What a parameter adds to a selector: its label and a colon, or nothing without a label. -/
def Parameter.selectorPart (p : Parameter) : String :=
  match p.label? with
  | some label => if label.isEmpty then "" else label ++ ":"
  | none => ""

/-- The selector of a command: its method, a colon for the direct parameter, and a part
for each other one. -/
def Command.selector (c : Command) : String :=
  c.methodName ++ (if c.direct.isSome then ":" else "")
    ++ String.join (c.parameters.map Parameter.selectorPart)

/-! ## §3. Queries. -/

/-- The first class of exactly a name. -/
def Suite.findClass? (s : Suite) (name : String) : Option Class :=
  s.classes.find? (fun c => c.name = name)

/-- The classes of all suites in order. -/
def classes (d : Dictionary) : List Class :=
  d.suites.flatMap Suite.classes

/-- The enumerations of all suites in order. -/
def enumerations (d : Dictionary) : List Enumeration :=
  d.suites.flatMap Suite.enumerations

/-- The commands of all suites in order. -/
def commands (d : Dictionary) : List Command :=
  d.suites.flatMap Suite.commands

/-- Whether some extension was not merged with a class. -/
def hasExtensions (d : Dictionary) : Bool :=
  d.suites.any (fun s => !s.extensions.isEmpty)

end Dictionary

end ScriptingBindings
