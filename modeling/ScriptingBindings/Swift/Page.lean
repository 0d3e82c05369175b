/-
  ScriptingBindings.Swift.Page
  ──────────────────────────────────
  **DECLARATIONS AS TEXT.**

  Each kind of declaration fills its template.  What a template is filled from
  follows from the declaration alone and from whether comments are asked for.
-/
import ScriptingBindings.Swift.Declaration
import ScriptingBindings.Swift.Template

namespace ScriptingBindings.Swift

/-! ## §1. Filling. -/

/-- The templates of Swift code. -/
def templateStore : Template.Store := .directory templates

/-- The text of a template filled from values. -/
def page (template : String) (values : Template.Scope) : Except GenerationError String :=
  (templateStore.render template values).mapError .render

/-- A text or the absent value. -/
def optional (s : Option String) : Json := .ofText? s

/-- A list of texts. -/
def textList (ss : List String) : Json := .arr (ss.map .str)

/-! ## §2. Enumerations and classes. -/

/-- A value of an enumeration. -/
def CaseDeclaration.values (c : CaseDeclaration) : Json :=
  .obj [("name", .str c.name), ("code", .str c.code), ("description", optional c.description)]

/-- The text of an enumeration. -/
def EnumerationDeclaration.text (addComments : Bool) (e : EnumerationDeclaration) :
    Except GenerationError String :=
  page "enumeration.swift.j2"
    [("add_comments", .bool addComments),
     ("enum", .obj
       [("sdef_name", .str e.title), ("name", .str e.name),
        ("description", optional e.description),
        ("cases", .arr (e.cases.map CaseDeclaration.values))])]

/-- A property. -/
def PropertyDeclaration.values (p : PropertyDeclaration) : Json :=
  .obj [("name", .str p.name), ("type", p.type), ("description", optional p.description)]

/-- An accessor. -/
def AccessorDeclaration.values (a : AccessorDeclaration) : Json :=
  .obj [("name", .str a.name), ("untyped", optional a.untyped), ("sdef_type", .str a.title),
    ("type", .str a.type)]

/-- A setter. -/
def SetterDeclaration.values (s : SetterDeclaration) : Json :=
  .obj [("name", .str s.name), ("parameter", .str s.parameter), ("type", s.type)]

/-- The text of the protocol of a class. -/
def ProtocolDeclaration.text (addComments : Bool) (p : ProtocolDeclaration) :
    Except GenerationError String :=
  page "class_protocol.swift.j2"
    [("add_comments", .bool addComments),
     ("cls", .obj
       [("sdef_name", .str p.title), ("name", .str p.name),
        ("description", optional p.description), ("inheritance", textList p.inheritance),
        ("properties", .arr (p.properties.map PropertyDeclaration.values)),
        ("id_method", p.identifier.getD .null),
        ("elements", .arr (p.accessors.map AccessorDeclaration.values)),
        ("setters", .arr (p.setters.map SetterDeclaration.values))])]

/-- The typed accessors of a class. -/
def TypedAccessors.values (t : TypedAccessors) : Json :=
  .obj [("sdef_name", .str t.title), ("protocol", .str t.name),
    ("accessors", .arr (t.accessors.map AccessorDeclaration.values))]

/-- The text of the typed accessors of all classes. -/
def typedAccessorsText (addComments : Bool) (ts : List TypedAccessors) :
    Except GenerationError String :=
  page "typed_accessors.swift.j2"
    [("add_comments", .bool addComments), ("extensions", .arr (ts.map TypedAccessors.values))]

/-! ## §3. Fixed declarations. -/

/-- The text at the start of a file. -/
def headerText (basename : String) (imports : List Json) (f : FixedNames) :
    Except GenerationError String :=
  page "header.swift.j2"
    [("basename", .str basename), ("imports", .arr imports),
     ("aliases", .obj
       [("application", .str f.application), ("object", .str f.object),
        ("element_array", .str f.elementArray)])]

/-- The values of the fixed enumeration of save options. -/
def saveCases : List (String × String) :=
  [("yes", "yes "), ("no", "no  "), ("ask", "ask ")]

/-- The text of the declarations that every file has. -/
def standardText (addComments : Bool) (f : FixedNames) : Except GenerationError String :=
  page "standard.swift.j2"
    [("add_comments", .bool addComments), ("save_options", .str f.saveOptions),
     ("generic_methods", .str f.genericMethods),
     ("save_cases", .arr (saveCases.map (fun (name, code) =>
       .obj [("name", .str name), ("code", .str code)])))]

/-- The text of the application's protocol and of the function that reaches it. -/
def applicationText (addComments : Bool) (f : FixedNames) (bundle : Json) (function : String) :
    Except GenerationError String := do
  let bundle ← (literalValue bundle).mapError .misuse
  page "application.swift.j2"
    [("add_comments", .bool addComments), ("application_protocol", .str f.applicationProtocol),
     ("bundle_identifier", bundle), ("application_function", .str function)]

/-- The text that binds protocols to the types of the bridge. -/
def bindingsText (protocols : List String) (f : FixedNames) : Except GenerationError String :=
  page "bindings.swift.j2"
    [("class_protocols", textList protocols),
     ("application_protocol", .str f.applicationProtocol),
     ("generic_methods", .str f.genericMethods)]

/-! ## §4. Class names. -/

/-- A constant with the name that a class has in the dictionary. -/
structure ClassNameDeclaration where
  name : String
  title : String
  deriving Repr, DecidableEq

/-- The constants for classes, of several of one name the first. -/
def Naming.declareClassNames (seen : List String) :
    List Dictionary.Class → Naming (List ClassNameDeclaration)
  | [] => return []
  | c :: rest => do
    let name ← member c.name
    if seen.contains name then declareClassNames seen rest
    else
      let more ← declareClassNames (name :: seen) rest
      return ⟨name, c.name⟩ :: more

/-- The constants for classes, with every name made. -/
def declareClassNames (seen : List String) (cs : List Dictionary.Class) :
    Except GenerationError (List ClassNameDeclaration) :=
  (Naming.declareClassNames seen cs).made

/-- The text of the names of all classes. -/
def classNamesText (addComments : Bool) (f : FixedNames) (entries : List ClassNameDeclaration) :
    Except GenerationError String :=
  page "class_names.swift.j2"
    [("add_comments", .bool addComments), ("class_names_enum", .str f.classNames),
     ("class_names", .arr (entries.map (fun e =>
       .obj [("name", .str e.name), ("value", .str (literalText e.title))])))]

/-! ## §5. Aliases. -/

/-- An alias without the common start of all names. -/
structure AliasDeclaration where
  name : String
  target : String
  deriving Repr, DecidableEq

/-- A name without its first characters, as many as the basename has. -/
def withoutBasename (basename name : String) : String :=
  String.ofList (name.toList.drop basename.length)

/-- The aliases of types.  A reserved word names none, and of several of one name the first
is declared. -/
def declareAliases (basename : String) (seen : List String) :
    List String → List AliasDeclaration
  | [] => []
  | target :: rest =>
    let name := withoutBasename basename target
    if name.isEmpty || seen.contains name || escapeKeyword name != name then
      declareAliases basename seen rest
    else ⟨name, target⟩ :: declareAliases basename (name :: seen) rest

/-- The types that generated code refers to by names of their own. -/
def usedTypes : List String :=
  ["AEKeyword", "Data", "SBApplication", "SBObject", "SBElementArray", "NSObject", "URL",
   "String", "Int", "Int64", "Double", "Bool", "Date", "Any", "NSNull", "NSRect", "NSPoint",
   "NSSize", "NSNumber", "OSType", "NSImage", "NSData"]

/-- The aliases that can stand outside of any other declaration: those that hide no type. -/
def flatAliases (basename : String) (targets : List String) (as : List AliasDeclaration) :
    List AliasDeclaration :=
  as.filter (fun a =>
    !targets.contains a.name && a.name != basename && !usedTypes.contains a.name)

/-- An alias. -/
def AliasDeclaration.values (a : AliasDeclaration) : Json :=
  .obj [("name", .str a.name), ("target", .str a.target)]

/-- The types that aliases are made for: the fixed ones and then those given. -/
def aliasTargets (f : FixedNames) (classNames : Bool) (declared : List String) : List String :=
  [f.application, f.object, f.elementArray, f.saveOptions, f.genericMethods, f.applicationProtocol]
    ++ (if classNames then [f.classNames] else []) ++ declared

/-- The text of the aliases. -/
def aliasesText (o : Options) (basename : String) (f : FixedNames) (declared : List String) :
    Except GenerationError String :=
  let targets := aliasTargets f o.classNames declared
  let aliases := declareAliases basename [] targets
  let flat := flatAliases basename targets aliases
  page "typealiases.swift.j2"
    [("add_comments", .bool o.addComments), ("basename", .str basename),
     ("namespace_aliases",
       .arr (if o.namespaceAliases then aliases.map AliasDeclaration.values else [])),
     ("flat_aliases", .arr (if o.flatAliases then flat.map AliasDeclaration.values else []))]

end ScriptingBindings.Swift
