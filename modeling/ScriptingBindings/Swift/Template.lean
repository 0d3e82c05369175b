/-
  ScriptingBindings.Swift.Template
  ──────────────────────────────────
  **THE TEMPLATES OF SWIFT CODE.**

  One template for each kind of declaration that a generated file holds: its
  header, the fixed declarations, enumerations, class protocols, typed
  accessors, class names, the application, bindings and type aliases.
-/
import ScriptingBindings.Template.Basic

namespace ScriptingBindings.Swift

open Template

/-! ## §1. Parts. -/

/-- A line of fixed text. -/
def line (s : String) : Node := .text (s ++ "\n")

/-- A named value. -/
def slot (base : String) : Node := .value ⟨base, none⟩ []

/-- A member of a named value. -/
def part (base name : String) (filters : List Filter := []) : Node :=
  .value ⟨base, some name⟩ filters

/-- What appears where comments are asked for. -/
def remark (body : List Node) : Node := .when [⟨"add_comments", none⟩] body

/-- The description of a named value as a comment, if there is one and comments are asked for. -/
def description (base : String) (filters : List Filter) : Node :=
  .when [⟨"add_comments", none⟩, ⟨base, some "description"⟩]
    [part base "description" filters, .text "\n"]

/-! ## §2. Templates. -/

/-- The first lines of a file, its imports and the aliases of the types that it builds on. -/
def headerTemplate : Template :=
  [line "//", .text "// ", slot "basename", line ".swift", line "// Generated by sdef-explorer",
   line "//", line "",
   .each "module" ⟨"imports", none⟩ [.text "import ", slot "module", line ""],
   line "", line "// MARK: - Type Aliases", line "",
   .text "public typealias ", part "aliases" "application", line " = SBApplication",
   .text "public typealias ", part "aliases" "object", line " = SBObject",
   .text "public typealias ", part "aliases" "element_array", line " = SBElementArray"]

/-- The declarations that every file has. -/
def standardTemplate : Template :=
  [line "", line "// MARK: - Save Options Enum", line "",
   remark [line "/// Save options for documents"],
   .text "@objc public enum ", slot "save_options", line ": AEKeyword \x7b",
   .each "case" ⟨"save_cases", none⟩
     [.text "    case ", part "case" "name", .text " = ", part "case" "code" [.fourCharCode],
      .text "  // '", part "case" "code", line "'"],
   line "\x7d", line "", line "// MARK: - Generic Methods Protocol", line "",
   remark
     [line "/// Operations shared by the standard window, document and application classes"],
   .text "@objc public protocol ", slot "generic_methods", line " \x7b",
   .text "    @objc optional func closeSaving(_ saving: ", slot "save_options",
   line ", savingIn: URL?)",
   line "    @objc optional func saveIn(_ in_: URL?, as: Any?)",
   line ("    @objc optional func printWithProperties(_ withProperties: [String: Any]?, "
     ++ "printDialog: Bool)"),
   line "    @objc optional func delete()",
   line "    @objc optional func duplicateTo(_ to: SBObject?, withProperties: [String: Any]?)",
   line "    @objc optional func moveTo(_ to: SBObject?)",
   line "\x7d"]

/-- An enumeration. -/
def enumerationTemplate : Template :=
  [line "", .text "// MARK: - ", part "enum" "sdef_name", line "", line "",
   description "enum" [.comment],
   .text "@objc public enum ", part "enum" "name", line ": AEKeyword \x7b",
   .each "case" ⟨"enum", some "cases"⟩
     [description "case" [.comment, .indent],
      .text "    case ", part "case" "name", .text " = ", part "case" "code" [.fourCharCode],
      line ""],
   line "\x7d"]

/-- The protocol of a class. -/
def protocolTemplate : Template :=
  [line "", .text "// MARK: - ", part "cls" "sdef_name", line "", line "",
   description "cls" [.comment],
   .text "@objc public protocol ", part "cls" "name", .text ": ",
   part "cls" "inheritance" [.join], line " \x7b",
   .each "prop" ⟨"cls", some "properties"⟩
     [description "prop" [.comment, .indent],
      .text "    @objc optional var ", part "prop" "name", .text ": ", part "prop" "type",
      line " \x7b get \x7d"],
   .when [⟨"cls", some "id_method"⟩]
     [.text "    @objc optional func id() -> ", part "cls" "id_method", line ""],
   .each "accessor" ⟨"cls", some "elements"⟩
     [.choose ⟨"accessor", some "untyped"⟩
       [.text "    @objc(", part "accessor" "name", .text ") optional func ",
        part "accessor" "untyped", line "() -> SBElementArray"]
       [.text "    @objc optional func ", part "accessor" "name", line "() -> SBElementArray"]],
   .each "setter" ⟨"cls", some "setters"⟩
     [.text "    @objc optional func ", part "setter" "name", .text "(_ ",
      part "setter" "parameter", .text ": ", part "setter" "type", line ")"],
   line "\x7d"]

/-- The typed accessors of all classes. -/
def typedAccessorsTemplate : Template :=
  [line "", line "// MARK: - Strongly Typed Accessors",
   .each "ext" ⟨"extensions", none⟩
     [line "",
      remark [.text "/// Strongly typed accessors for ", part "ext" "sdef_name", line ""],
      .text "public extension ", part "ext" "protocol", line " \x7b",
      .each "accessor" ⟨"ext", some "accessors"⟩
        [remark [.text "    /// Strongly typed accessor for ", part "accessor" "sdef_type",
           line " elements"],
         .text "    var ", part "accessor" "name", .text ": [", part "accessor" "type",
         line "] \x7b",
         .text "        ", part "accessor" "untyped", .text "?() as? [", part "accessor" "type",
         line "] ?? []",
         line "    \x7d"],
      line "\x7d"]]

/-- The names of all classes. -/
def classNamesTemplate : Template :=
  [line "", line "// MARK: - Class Names", line "",
   remark [line "/// Scripting class names as they appear in the dictionary"],
   .text "public enum ", slot "class_names_enum", line " \x7b",
   .each "entry" ⟨"class_names", none⟩
     [.text "    public static let ", part "entry" "name", .text " = \"", part "entry" "value",
      line "\""],
   line "\x7d"]

/-- The protocol of the application and, for a known application, a function to reach it. -/
def applicationTemplate : Template :=
  [line "", line "// MARK: - Application Protocol", line "",
   .text "@objc public protocol ", slot "application_protocol",
   line ": SBApplicationProtocol \x7b",
   line "    @objc optional func documents() -> SBElementArray",
   line "    @objc optional func windows() -> SBElementArray",
   line "\x7d",
   .when [⟨"bundle_identifier", none⟩]
     [line "", line "// MARK: - Application Access", line "",
      remark
        [.text "/// Scripting interface of the application with bundle identifier ",
         slot "bundle_identifier", line ""],
      .text "public func ", slot "application_function", .text "() -> ",
      slot "application_protocol", line "? \x7b",
      .text "    SBApplication(bundleIdentifier: \"", slot "bundle_identifier", line "\")",
      line "\x7d"]]

/-- What binds the protocols to the types of the bridge. -/
def bindingsTemplate : Template :=
  [line "", line "// MARK: - Bindings", line "",
   .each "protocol" ⟨"class_protocols", none⟩
     [.text "extension SBObject: ", slot "protocol", line " \x7b\x7d"],
   .text "extension SBApplication: ", slot "application_protocol", line " \x7b\x7d",
   .text "extension SBObject: ", slot "generic_methods", line " \x7b\x7d"]

/-- Aliases without the common start of all names. -/
def typealiasesTemplate : Template :=
  [.when [⟨"namespace_aliases", none⟩]
     [line "", line "// MARK: - Namespaced Type Aliases", line "",
      remark
        [.text "/// Generated types without their prefix, as ", slot "basename", line ".<Name>"],
      .text "public enum ", slot "basename", line " \x7b\x7d", line "",
      .text "public extension ", slot "basename", line " \x7b",
      .each "alias" ⟨"namespace_aliases", none⟩
        [.text "    typealias ", part "alias" "name", .text " = ", part "alias" "target", line ""],
      line "\x7d"],
   .when [⟨"flat_aliases", none⟩]
     [line "", line "// MARK: - Flat Type Aliases (for use as a separate module)", line "",
      .each "alias" ⟨"flat_aliases", none⟩
        [.text "public typealias ", part "alias" "name", .text " = ", part "alias" "target",
         line ""]]]

/-- The templates by their file names. -/
def templates : List (String × Template) :=
  [("application.swift.j2", applicationTemplate), ("bindings.swift.j2", bindingsTemplate),
   ("class_names.swift.j2", classNamesTemplate), ("class_protocol.swift.j2", protocolTemplate),
   ("enumeration.swift.j2", enumerationTemplate), ("header.swift.j2", headerTemplate),
   ("standard.swift.j2", standardTemplate), ("typealiases.swift.j2", typealiasesTemplate),
   ("typed_accessors.swift.j2", typedAccessorsTemplate)]

end ScriptingBindings.Swift
