/-
  ScriptingBindings.Catalog.BuiltIn
  ──────────────────────────────────
  **BUILT-IN DEFINITIONS.**

  The least that a document can count on when the standard definitions cannot
  be read: the classes of windows, documents and the application, and the
  enumerations for saving and printing.
-/
import ScriptingBindings.Catalog.Basic
import ScriptingBindings.Log

namespace ScriptingBindings.Catalog

open Dictionary

/-! ## §1. Classes. -/

/-- A built-in property. -/
def builtInProperty (name code type description access : String) : Property where
  name := name
  code := code
  type := { base := type }
  description := some description
  access := some access

/-- The class of windows. -/
def windowClass : Dictionary.Class where
  name := "window"
  pluralName := some "windows"
  code := "cwin"
  description := some "A window."
  properties :=
    [builtInProperty "name" "pnam" "text" "The title of the window." "r",
     builtInProperty "id" "ID  " "integer" "The unique identifier of the window." "r",
     builtInProperty "index" "pidx" "integer" "The index of the window, ordered front to back." "",
     builtInProperty "bounds" "pbnd" "rectangle" "The bounding rectangle of the window." "",
     builtInProperty "closeable" "hclb" "boolean" "Does the window have a close button?" "r",
     builtInProperty "miniaturizable" "ismn" "boolean"
       "Does the window have a minimize button?" "r",
     builtInProperty "miniaturized" "pmnd" "boolean" "Is the window minimized right now?" "",
     builtInProperty "resizable" "prsz" "boolean" "Can the window be resized?" "r",
     builtInProperty "visible" "pvis" "boolean" "Is the window visible right now?" "",
     builtInProperty "zoomable" "iszm" "boolean" "Does the window have a zoom button?" "r",
     builtInProperty "zoomed" "pzum" "boolean" "Is the window zoomed right now?" "",
     builtInProperty "document" "docu" "document"
       "The document whose contents are displayed in the window." "r"]
  respondsTo := ["close", "print", "save"]

/-- The class of documents. -/
def documentClass : Dictionary.Class where
  name := "document"
  pluralName := some "documents"
  code := "docu"
  description := some "A document."
  properties :=
    [builtInProperty "name" "pnam" "text" "Its name." "r",
     builtInProperty "modified" "imod" "boolean" "Has it been modified since the last save?" "r",
     builtInProperty "file" "file" "file" "Its location on disk, if it has one." "r"]
  respondsTo := ["close", "print", "save"]

/-- The class of the application itself. -/
def applicationClass : Dictionary.Class where
  name := "application"
  pluralName := some "applications"
  code := "capp"
  description := some "The application's top-level scripting object."
  properties :=
    [builtInProperty "name" "pnam" "text" "The name of the application." "r",
     builtInProperty "frontmost" "pisf" "boolean" "Is this the active application?" "r",
     builtInProperty "version" "vers" "text" "The version number of the application." "r"]
  elements := [⟨"document", none⟩, ⟨"window", none⟩]
  respondsTo := ["open", "print", "quit"]

/-- The built-in classes. -/
def builtInClasses : List Dictionary.Class :=
  [windowClass, documentClass, applicationClass]

/-! ## §2. Enumerations. -/

/-- A built-in value of an enumeration. -/
def builtInEnumerator (name code description : String) : Enumerator :=
  ⟨name, code, some description, none⟩

/-- What to do with changes when a document is closed. -/
def saveOptions : Enumeration where
  name := "save options"
  code := "savo"
  description := some "Save options for documents"
  enumerators :=
    [builtInEnumerator "yes" "yes " "Save the file.",
     builtInEnumerator "no" "no  " "Do not save the file.",
     builtInEnumerator "ask" "ask " "Ask the user whether or not to save the file."]

/-- How errors in printing are reported. -/
def printingErrorHandling : Enumeration where
  name := "printing error handling"
  code := "enum"
  description := some "How to handle printing errors"
  enumerators :=
    [builtInEnumerator "standard" "lwst" "Standard PostScript error handling",
     builtInEnumerator "detailed" "lwdt" "print a detailed report of PostScript errors"]

/-- The built-in enumerations. -/
def builtInEnumerations : List Enumeration :=
  [saveOptions, printingErrorHandling]

/-! ## §3. Falling back. -/

/-- A catalog with the built-in definitions added. -/
def withBuiltIn (c : Catalog) : Catalog :=
  { (c.addClasses builtInClasses).addEnumerations builtInEnumerations with usesFallback := true }

/-- Add the built-in definitions and leave a record of it. -/
def fallBack (c : Catalog) : Logged Catalog := do
  let c := c.withBuiltIn
  Logged.record .catalog .info
    ("Added " ++ toString c.classes.length ++ " fallback standard classes and "
      ++ toString c.enumerations.length ++ " fallback standard enums")
  return c

end ScriptingBindings.Catalog
