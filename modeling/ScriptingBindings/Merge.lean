/-
  ScriptingBindings.Merge
  ──────────────────────────────────
  **MERGING WITH THE CATALOG.**

  After a merge no suite has extensions left.  Every suite has every standard
  enumeration; a class named like a standard class has the members of both;
  an extension is folded into the class that it names, which is made if there
  is none; and a standard class that nobody defines or extends is added.

  Members are told apart by name, and of two members of one name the first
  counts: the standard one before the suite's own, and a class's own before
  that of its extension.
-/
import ScriptingBindings.Catalog.Basic
import ScriptingBindings.Log
import ScriptingBindings.Text.Casing

namespace ScriptingBindings.Merge

open Dictionary

/-! ## §1. Members. -/

/-- A list followed by those items of a second one whose keys are new. -/
def unionBy {α : Type} (key : α → String) (base extra : List α) : List α :=
  extra.foldl
    (fun acc a => if acc.any (fun b => key b == key a) then acc else acc ++ [a]) base

/-- Properties followed by those with new names. -/
def unionProperties : List Property → List Property → List Property :=
  unionBy Property.name

/-- Kinds of contained objects followed by those of new types. -/
def unionElements : List Dictionary.Element → List Dictionary.Element → List Dictionary.Element :=
  unionBy Element.type

/-- The commands of two lists, each at its first place only. -/
def unionCommands (base extra : List String) : List String :=
  unionBy id [] (base ++ extra)

/-! ## §2. Classes. -/

/-- A class of a suite with the members of the standard class of its name. -/
def withStandard (c standard : Dictionary.Class) : Dictionary.Class where
  name := c.name
  code := if c.code.isEmpty then standard.code else c.code
  pluralName := c.pluralName.or standard.pluralName
  description := c.description.or standard.description
  inherits := c.inherits.or standard.inherits
  properties := unionProperties standard.properties c.properties
  elements := unionElements standard.elements c.elements
  respondsTo := unionCommands standard.respondsTo c.respondsTo
  isHidden := c.isHidden

/-- A class with the members of an extension.  A class without a description can take that
of the first property of the extension. -/
def extend (c : Dictionary.Class) (e : Extension) (describes : Bool := true) : Dictionary.Class :=
  let borrowed := if describes then e.properties.head?.bind Property.description else none
  { c with
    description := c.description.or borrowed
    properties := unionProperties c.properties e.properties
    elements := unionElements c.elements e.elements
    respondsTo := unionCommands c.respondsTo e.respondsTo }

/-- A standard class as it is added to a suite. -/
def standardCopy (standard : Dictionary.Class) : Dictionary.Class :=
  { standard with respondsTo := unionCommands standard.respondsTo [] }

/-- The class of an extension whose target is defined nowhere. -/
def ofExtension (e : Extension) : Dictionary.Class where
  name := e.target
  description := some ("Extended " ++ e.target)
  properties := e.properties
  elements := e.elements
  respondsTo := unionCommands e.respondsTo []

/-- The place of the first class of a name, in any letter case. -/
def findClass? (classes : List Dictionary.Class) (name : String) : Option Nat :=
  classes.findIdx? (fun c => Text.lower c.name == Text.lower name)

/-! ## §3. Suites. -/

/-- Leave a record about merging. -/
def note (message : String) : Logged Unit :=
  Logged.record .merge .debug message

/-- The name of the suite whose application class gives way to that of any other suite. -/
def standardSuiteName : String := "Standard Suite"

/-- The name of the application class. -/
def applicationName : String := "application"

/-- The enumerations of a suite followed by the standard ones that it lacks. -/
def mergedEnumerations (c : Catalog) (s : Suite) : List Enumeration :=
  s.enumerations
    ++ (c.enumerations.filter
        (fun entry => !s.enumerations.any (fun e => e.name == entry.1))).map Prod.snd

/-- A class merged with the standard class of its name, if there is one. -/
def mergedClass (c : Catalog) (suite : String) (cls : Dictionary.Class) : Logged Dictionary.Class :=
  match c.classes.get? cls.name with
  | some standard => do
    note ("Merging '" ++ cls.name ++ "' in '" ++ suite ++ "' with its standard definition")
    return withStandard cls standard
  | none => return cls

/-- Classes with an extension folded into the class that it names. -/
def foldExtension (c : Catalog) (classes : List Dictionary.Class) (e : Extension) :
    Logged (List Dictionary.Class) :=
  match findClass? classes e.target with
  -- The suite has the class, perhaps written in another letter case.
  | some index => do
    note ("Folding extension of '" ++ e.target ++ "' into the suite class")
    return classes.modify index (fun cls => extend cls e)
  | none =>
    match c.classes.get? e.target with
    -- Standard classes are found by their exact name, and keep their own description.
    | some standard => do
      note ("Folding extension of '" ++ e.target ++ "' into its standard class")
      return classes ++ [extend standard e false]
    | none => do
      note ("Creating class '" ++ e.target ++ "' from its extension")
      return classes ++ [ofExtension e]

/-- Add the standard classes that are named neither by a suite nor by an extension. -/
def addStandard (c : Catalog) (suite : String) (taken : String → Bool)
    (classes : List Dictionary.Class) :
    Logged (List Dictionary.Class) := do
  let present := classes.map Dictionary.Class.name
  let missing := c.classes.filter (fun entry => !taken entry.1 && !present.contains entry.1)
  let added ← Logged.forEach (fun (name, standard) => do
    note ("Adding unmodified standard class '" ++ name ++ "' to '" ++ suite ++ "'")
    return standardCopy standard) missing
  return classes ++ added

/-- A suite merged with a catalog, its own classes given apart.  `taken` tells the names
that some suite defines or extends. -/
def mergedSuite (c : Catalog) (taken : String → Bool) (s : Suite) (own : List Dictionary.Class) :
    Logged Suite := do
  let classes ← Logged.forEach (mergedClass c s.name) own
  let classes ← Logged.carry (foldExtension c) classes s.extensions
  let classes ← addStandard c s.name taken classes
  return { s with
    classes := classes
    enumerations := mergedEnumerations c s
    extensions := [] }

/-! ## §4. Whole dictionaries. -/

/-- Whether a suite other than the standard one has the application class. -/
def hasApplicationElsewhere (suites : List Suite) : Bool :=
  suites.any (fun s => s.name != standardSuiteName && (s.findClass? applicationName).isSome)

/-- The classes that a suite keeps. -/
def keptClasses (suites : List Suite) (s : Suite) : List Dictionary.Class :=
  if s.name == standardSuiteName && hasApplicationElsewhere suites then
    s.classes.filter (fun c => c.name != applicationName)
  else s.classes

/-- Record a suite whose application class gives way. -/
def noteDropped (suites : List Suite) (s : Suite) : Logged Unit :=
  if s.name == standardSuiteName && hasApplicationElsewhere suites then
    note ("Dropping '" ++ applicationName ++ "' from '" ++ standardSuiteName
      ++ "', another suite defines it")
  else return ()

/-- Whether some suite keeps a class of a name or extends exactly that name. -/
def isTaken (suites : List Suite) (name : String) : Bool :=
  suites.any fun s =>
    (keptClasses suites s).any (fun c => c.name == name)
      || s.extensions.any (fun e => e.target == name)

/-- The suites of a document merged with a catalog. -/
def mergedSuites (c : Catalog) (suites : List Suite) : Logged (List Suite) := do
  let _ ← Logged.forEach (noteDropped suites) suites
  Logged.forEach (fun s => mergedSuite c (isTaken suites) s (keptClasses suites s)) suites

/-- A dictionary merged with a catalog. -/
def merge (d : Dictionary) (c : Catalog) : Logged Dictionary := do
  let suites ← mergedSuites c d.suites
  -- A catalog that followed no inclusion does not take away those of the document.
  return {
    suites := suites
    standardClasses := c.classes
    inclusions := if c.inclusions.isEmpty then d.inclusions else c.inclusions
    usesFallback := c.usesFallback || d.usesFallback }

end ScriptingBindings.Merge
