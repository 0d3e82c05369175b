/-
  ScriptingBindings.Swift.TypeRef
  ──────────────────────────────────
  **REFERENCES TO TYPES.**

  A reference has the spelling that a declaration writes and the spelling of
  the type of a single value without decoration.  Making a list or an optional
  of a reference that is one already changes nothing.  A spelling is a text,
  except where configuration gives some other value for a type.
-/
import ScriptingBindings.Json.Display

namespace ScriptingBindings.Swift

/-- A reference to a type. -/
structure TypeRef where
  /-- What a declaration writes. -/
  spelling : Json
  /-- What stands for a single value. -/
  base : Json
  isOptional : Bool := false
  isList : Bool := false
  /-- Whether the type is one that is generated. -/
  isGenerated : Bool := false

namespace TypeRef

/-- A reference whose base falls back to its spelling. -/
def make (spelling base : Json) (isOptional isList isGenerated : Bool) : TypeRef :=
  ⟨spelling, if base.isTruthy then base else spelling, isOptional, isList, isGenerated⟩

/-- A reference to an undecorated type. -/
def plain (spelling : Json) : TypeRef :=
  make spelling (.str "") false false false

/-- A reference to a generated type. -/
def generated (name : String) : TypeRef :=
  make (.str name) (.str "") false false true

/-- A list of what a reference stands for. -/
def asList (t : TypeRef) : TypeRef :=
  if t.isList then t
  else make (t.spelling.within "[" "]") t.base false true t.isGenerated

/-- An optional of what a reference stands for. -/
def asOptional (t : TypeRef) : TypeRef :=
  if t.isOptional then t
  else make (t.spelling.within "" "?") t.base true t.isList t.isGenerated

end TypeRef

/-! ## The table of types. -/

/-- The types that stand for types of the dictionary, by their lower case names. -/
def knownTypes : List (String × String) :=
  [("text", "String"), ("string", "String"), ("integer", "Int"), ("int", "Int"),
   ("double integer", "Int64"), ("real", "Double"), ("double", "Double"), ("boolean", "Bool"),
   ("bool", "Bool"), ("date", "Date"), ("file", "URL"), ("alias", "URL"),
   ("record", "[String: Any]"), ("any", "Any"), ("missing value", "NSNull"),
   ("missing-value", "NSNull"), ("rectangle", "NSRect"), ("point", "NSPoint"), ("size", "NSSize"),
   ("number", "NSNumber"), ("specifier", "SBObject"), ("location specifier", "SBObject"),
   ("location-specifier", "SBObject"), ("property", "SBObject"), ("type", "OSType"),
   ("enum", "OSType"), ("picture", "NSImage"), ("list", "SBElementArray"), ("icn#", "NSData"),
   ("ics#", "NSData"), ("l8mk", "NSData"), ("il32", "NSData"), ("icl8", "NSData"),
   ("icl4", "NSData"), ("s8mk", "NSData"), ("is32", "NSData"), ("ics8", "NSData"),
   ("ics4", "NSData")]

end ScriptingBindings.Swift
