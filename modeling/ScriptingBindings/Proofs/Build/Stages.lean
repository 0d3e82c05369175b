/-
  ScriptingBindings.Proofs.Build.Stages
  ──────────────────────────────────
  **THE STAGES OF BUILDING A DICTIONARY.**

  A dictionary is built where the document has a root and there is a catalog
  for it, and then it is this one:

      suites           the suites of the document, merged with the catalog
      standard classes the classes of the catalog
      inclusions       those of the catalog, each merged with no catalog

  So what is to be shown of a built dictionary is shown of a catalog and of
  two merges.
-/
import ScriptingBindings.Build
import ScriptingBindings.Proofs.Success

namespace ScriptingBindings.Build

open Dictionary

/-- An included document, merged by itself. -/
def mergedInclusion (i : Inclusion Dictionary) : Inclusion Dictionary :=
  { i with content := (Merge.merge i.content {}).value }

/-- The dictionary of suites and their catalog. -/
theorem value_ofSuites (suites : List Suite) (c : Catalog) :
    (ofSuites suites c).value =
      { suites := (Merge.mergedSuites c suites).value
        standardClasses := c.classes
        inclusions := c.inclusions.map mergedInclusion
        usesFallback := c.usesFallback } := by
  have hinclusions : (mergedInclusions (Merge.merge { suites := suites } c).value.inclusions).value
      = c.inclusions.map mergedInclusion := by
    unfold mergedInclusions
    rw [Logged.value_forEach]
    -- A document that was just read has no inclusions of its own to keep.
    show (if c.inclusions.isEmpty then [] else c.inclusions).map mergedInclusion = _
    cases c.inclusions <;> rfl
  have hfallback : (c.usesFallback || false) = c.usesFallback := Bool.or_false _
  unfold ofSuites
  simp only [Logged.value_bind, Logged.value_pure, hinclusions]
  show ({
    suites := (Merge.mergedSuites c suites).value
    standardClasses := c.classes
    inclusions := c.inclusions.map mergedInclusion
    usesFallback := c.usesFallback || false } : Dictionary) = _
  rw [hfallback]

variable {files : FileSystem} {settings : BuildSettings} {root : Option Markup.Element}
  {d : Dictionary}

/-- **A dictionary is built from a root, its suites and a catalog for them.** -/
theorem ofRoot_eq_ok :
    (ofRoot files settings root).outcome = .ok d ↔
      ∃ e place c, root = some e ∧ settings.catalog? = some place ∧
        (Catalog.resolve files place e (suitesOf settings.includeHidden e)).outcome = .ok c ∧
          d = (ofSuites (suitesOf settings.includeHidden e) c).value := by
  cases root with
  | none => simp [ofRoot]
  | some e =>
    have hsuites : (readSuites settings.includeHidden e).value
        = suitesOf settings.includeHidden e := rfl
    unfold ofRoot
    rw [Run.outcome_bind, Run.outcome_ofLogged, ok_bind, hsuites]
    cases hplace : settings.catalog? with
    | none => simp
    | some place =>
      simp only [Run.outcome_bind_eq_ok, Run.outcome_mapError, mapError_eq_ok,
        Run.outcome_ofLogged, Except.ok.injEq]
      constructor
      · rintro ⟨c, hc, rfl⟩
        exact ⟨e, place, c, rfl, rfl, hc, rfl⟩
      · rintro ⟨_, _, c, he, hp, hc, rfl⟩
        cases he
        cases hp
        exact ⟨c, hc, rfl⟩

end ScriptingBindings.Build
