/-
  ScriptingBindings.Catalog.Basic
  ──────────────────────────────────
  **THE CATALOG OF STANDARD DEFINITIONS.**

  The classes and enumerations that every application shares, by name.  A
  catalog is made for one document and holds what that document includes, or
  a few built-in definitions in place of it.
-/
import ScriptingBindings.Dictionary.Basic

namespace ScriptingBindings

open Dictionary

/-- The standard definitions for one document. -/
structure Catalog where
  classes : OrderedMap Dictionary.Class := []
  enumerations : OrderedMap Enumeration := []
  /-- The included documents, where they are kept track of. -/
  inclusions : List (Inclusion Dictionary) := []
  /-- Whether the built-in definitions were added. -/
  usesFallback : Bool := false

namespace Catalog

/-- Whether a catalog has no class. -/
def isEmpty (c : Catalog) : Bool :=
  c.classes.isEmpty

/-- Add classes under their own names. -/
def addClasses (c : Catalog) (classes : List Dictionary.Class) : Catalog :=
  { c with classes := c.classes.putAll (classes.map (fun cls => (cls.name, cls))) }

/-- Add enumerations under their own names. -/
def addEnumerations (c : Catalog) (enumerations : List Enumeration) : Catalog :=
  { c with enumerations := c.enumerations.putAll (enumerations.map (fun e => (e.name, e))) }

/-- Add all classes and enumerations of a suite. -/
def addSuite (c : Catalog) (s : Suite) : Catalog :=
  (c.addClasses s.classes).addEnumerations s.enumerations

/-- Add all classes and enumerations of some suites, a later one of a name in place of an
earlier one. -/
def addSuites (c : Catalog) (suites : List Suite) : Catalog :=
  suites.foldl addSuite c

end Catalog

end ScriptingBindings
