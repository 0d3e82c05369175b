/-
  ScriptingBindings.Swift.Names
  ──────────────────────────────────
  **THE NAMES OF GENERATED TYPES.**

  Every generated type is named by the basename followed by the name of its
  definition in Pascal case.  Seven such names are fixed; a class or an
  enumeration whose name would be one of them gets a suffix, except that an
  enumeration of save options stands for the fixed one.  A type can refer to
  another one by its name as written or in any letter case.
-/
import ScriptingBindings.OrderedMap
import ScriptingBindings.Swift.Naming

namespace ScriptingBindings.Swift

open Text Identifier

/-! ## §1. Fixed names. -/

/-- The names of the declarations that every file has. -/
structure FixedNames where
  application : String
  object : String
  elementArray : String
  saveOptions : String
  genericMethods : String
  applicationProtocol : String
  classNames : String
  deriving Repr, DecidableEq

/-- The fixed names for a basename. -/
def FixedNames.of (basename : String) : FixedNames where
  application := basename ++ "Application"
  object := basename ++ "Object"
  elementArray := basename ++ "ElementArray"
  saveOptions := basename ++ "SaveOptions"
  genericMethods := basename ++ "GenericMethods"
  applicationProtocol := basename ++ "ApplicationProtocol"
  classNames := basename ++ "ClassNames"

/-- All fixed names. -/
def FixedNames.all (f : FixedNames) : List String :=
  [f.application, f.object, f.elementArray, f.saveOptions, f.genericMethods,
   f.applicationProtocol, f.classNames]

/-! ## §2. What is known. -/

/-- The names known while a file is generated.  Before the first file there is no basename
and no name is fixed. -/
structure Names where
  basename : String := ""
  fixed : Option FixedNames := none
  /-- Generated types by the names of their definitions. -/
  types : OrderedMap String := []
  /-- The enumerations that have no value and therefore no type. -/
  empties : List String := []
  deriving Repr, DecidableEq

namespace Names

/-- The names at the start of a file. -/
def start (basename : String) : Names where
  basename := basename
  fixed := some (.of basename)

/-- Whether a name is one of the fixed names. -/
def isFixed (n : Names) (name : String) : Bool :=
  match n.fixed with
  | some f => f.all.contains name
  | none => false

/-- Whether a name is the fixed name for save options. -/
def isSaveOptions (n : Names) (name : String) : Bool :=
  match n.fixed with
  | some f => f.saveOptions == name
  | none => false

/-- Make a type known under the name of its definition, unless that name is taken. -/
def register (n : Names) (name type : String) : Names :=
  { n with types := (n.types.putNew name type).putNew (lower name) type }

/-- The name of the untyped accessor behind a typed one. -/
def untyped (accessor : String) : String :=
  "untyped" ++ String.ofList (capitalizeFirst (stripOf '\x60' accessor.toList))

/-- The name of the setter of a property. -/
def setter (property : String) : String :=
  "set" ++ setterSuffix property

/-- The name of the function that reaches the application. -/
def applicationFunction (n : Names) : String :=
  match n.basename.toList with
  | [] => "Application"
  | c :: rest => String.ofList (lowerChars [c] ++ rest) ++ "Application"

end Names

/-! ## §3. Names that are asked for. -/

namespace Naming

/-- The name of a definition after the basename. -/
def prefixed (n : Names) (name : String) : Naming String := do
  let made ← convert ⟨name, .pascal, false⟩
  return n.basename ++ made

/-- The name of the protocol of a class. -/
def interfaceName (n : Names) (name : String) : Naming String := do
  let made ← prefixed n name
  return if n.isFixed made then made ++ "Class" else made

/-- The name of an enumeration. -/
def enumerationName (n : Names) (name : String) : Naming String := do
  let made ← prefixed n name
  return if n.isFixed made && !n.isSaveOptions made then made ++ "Enum" else made

/-- The type that a definition's name refers to: a known one, else the protocol of a class
of that name. -/
def reference (n : Names) (name : String) : Naming String :=
  match (n.types.get? name).or (n.types.get? (lower name)) with
  | some known => return known
  | none => interfaceName n name

/-- The name of a member. -/
def member (name : String) : Naming String :=
  convert ⟨name, .camel, true⟩

/-- The name of the accessor for contained objects: the plural of their type. -/
def accessor (type : String) : Naming String :=
  member (lower type ++ "s")

end Naming

namespace Names

/-- The name of a definition after the basename. -/
def prefixed (n : Names) (name : String) : Except GenerationError String :=
  (Naming.prefixed n name).made

/-- The name of the protocol of a class. -/
def interfaceName (n : Names) (name : String) : Except GenerationError String :=
  (Naming.interfaceName n name).made

/-- The name of an enumeration. -/
def enumerationName (n : Names) (name : String) : Except GenerationError String :=
  (Naming.enumerationName n name).made

/-- The type that a definition's name refers to. -/
def reference (n : Names) (name : String) : Except GenerationError String :=
  (Naming.reference n name).made

/-- The name of a member. -/
def member (name : String) : Except GenerationError String :=
  (Naming.member name).made

/-- The name of the accessor for contained objects. -/
def accessor (type : String) : Except GenerationError String :=
  (Naming.accessor type).made

end Names

/-! ## §4. Literals. -/

/-- A character inside a string literal. -/
def literalChar (c : Char) : List Char :=
  if c = '\\' then ['\\', '\\'] else if c = '"' then ['\\', '"'] else [c]

/-- A text as it stands inside a string literal. -/
def literalText (s : String) : String :=
  String.ofList (s.toList.flatMap literalChar)

/-- A text or nothing as it stands inside a string literal. -/
def literalValue : Json → Except Misuse Json
  | .null => .ok .null
  | .str s => .ok (.str (literalText s))
  | .broken b => .ok (.broken (b.rewritten literalChar))
  | _ => .error .noMember

end ScriptingBindings.Swift
