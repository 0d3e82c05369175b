/-
  ScriptingBindings.Proofs.Catalog.Keyed
  ──────────────────────────────────
  **CATALOGS HOLD DEFINITIONS UNDER THEIR OWN NAMES.**

  A catalog is keyed if its classes and its enumerations stand under their own
  names.  Whatever a catalog is made from is written so, and so every catalog
  that is made for a document is keyed:

      (resolve files settings root suites).outcome = .ok c  →  c.Keyed
-/
import ScriptingBindings.Proofs.Catalog.Sources
import ScriptingBindings.Proofs.OrderedMap

namespace ScriptingBindings

open Dictionary

/-! ## §1. Keyed catalogs. -/

namespace Catalog

/-- The classes and the enumerations of a catalog stand under their own names. -/
structure Keyed (c : Catalog) : Prop where
  classes : c.classes.Keyed Dictionary.Class.name
  enumerations : c.enumerations.Keyed Enumeration.name

theorem keyed_empty : Keyed {} := ⟨.nil, .nil⟩

namespace Keyed

variable {c : Catalog}

theorem addClasses (h : c.Keyed) (classes : List Dictionary.Class) :
    (c.addClasses classes).Keyed :=
  ⟨h.classes.putAll classes, h.enumerations⟩

theorem addEnumerations (h : c.Keyed) (enumerations : List Enumeration) :
    (c.addEnumerations enumerations).Keyed :=
  ⟨h.classes, h.enumerations.putAll enumerations⟩

theorem addSuites (h : c.Keyed) (suites : List Suite) : (c.addSuites suites).Keyed := by
  induction suites generalizing c with
  | nil => exact h
  | cons s suites ih => exact ih ((h.addClasses s.classes).addEnumerations s.enumerations)

theorem withBuiltIn (h : c.Keyed) : c.withBuiltIn.Keyed :=
  have added := (h.addClasses builtInClasses).addEnumerations builtInEnumerations
  ⟨added.classes, added.enumerations⟩

theorem withStandard (h : c.Keyed) (settings : Settings) (suites : List Suite) :
    (c.withStandard settings suites).Keyed :=
  have added := h.addSuites suites
  ⟨added.classes, added.enumerations⟩

end Keyed

/-! ## §2. The catalogs of documents. -/

theorem IsMadeFrom.keyed {files : FileSystem} {settings : Settings} {c : Catalog}
    (h : IsMadeFrom files settings c) : c.Keyed := by
  induction h with
  | nothing => exact keyed_empty
  | standard _ => exact keyed_empty.withStandard settings _
  | builtIn _ ih => exact ih.withBuiltIn

/-- **The catalog that is found for a document is keyed.** -/
theorem keyed_resolve {files : FileSystem} {settings : Settings} {root : Markup.Element}
    {suites : List Suite} {c : Catalog}
    (h : (resolve files settings root suites).outcome = .ok c) : c.Keyed :=
  (isMadeFrom_resolve h).keyed

end Catalog

end ScriptingBindings
