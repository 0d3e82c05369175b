/-
  ScriptingBindings.Swift.Keyword
  ──────────────────────────────────
  **SWIFT NAMES.**

  Reserved words are written between grave accents where a name is declared.
  The setter of a property has a name of its own kind: the property's name
  with a capital in front and nothing but letters and numbers, except for two
  properties whose setters are spelled in another way.
-/
import ScriptingBindings.Identifier.Sanitizer

namespace ScriptingBindings.Swift

open Text Identifier

/-- The reserved words. -/
def keywords : List String :=
  ["associatedtype", "class", "deinit", "enum", "extension", "fileprivate", "func", "import",
   "init", "inout", "internal", "let", "open", "operator", "private", "protocol", "public",
   "rethrows", "static", "struct", "subscript", "typealias", "var", "break", "case", "continue",
   "default", "defer", "do", "else", "fallthrough", "for", "guard", "if", "in", "repeat",
   "return", "switch", "where", "while", "as", "Any", "catch", "false", "is", "nil", "super",
   "self", "Self", "throw", "throws", "true", "try", "associativity", "convenience", "dynamic",
   "didSet", "final", "get", "infix", "indirect", "lazy", "left", "mutating", "none",
   "nonmutating", "optional", "override", "postfix", "precedence", "prefix", "Protocol",
   "required", "right", "set", "Type", "unowned", "weak", "willSet"]

/-- The sanitizer of declared names. -/
def sanitizer : Sanitizer where
  reserved := keywords

/-- A reserved word between grave accents, any other name as it is. -/
def escapeKeyword (name : String) : String :=
  if keywords.contains name then "\x60" ++ name ++ "\x60" else name

/-- The words between grave accents are those of the sanitizer. -/
theorem escape_sanitizer (name : String) : sanitizer.escape name = .ok (escapeKeyword name) := by
  show (if keywords.contains name then Pattern.graves.fill name else .ok name) = _
  rw [Pattern.fill_graves, escapeKeyword]
  by_cases h : keywords.contains name = true <;> simp only [h, if_true]
  rfl

/-- The setters whose names follow no rule, by the lower case name of their property. -/
def setterOverrides : List (String × String) :=
  [("current tab", "CurrentTab"), ("url", "URL")]

/-- What follows `set` in the name of a property's setter. -/
def setterSuffix (property : String) : String :=
  match setterOverrides.lookup (lower property) with
  | some suffix => suffix
  | none =>
    String.ofList ((capitalizeFirst (replacePunctuation property.toList)).filter isAlphanumeric)

end ScriptingBindings.Swift
