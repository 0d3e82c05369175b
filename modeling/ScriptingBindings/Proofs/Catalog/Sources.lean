/-
  ScriptingBindings.Proofs.Catalog.Sources
  ──────────────────────────────────
  **WHAT THE CATALOG OF A DOCUMENT IS MADE FROM.**

  A document has an empty catalog, or one with the definitions of the standard
  file, and the built-in definitions may have been added to either.  So what
  holds of these three sources holds of every catalog that is found:

      (resolve files settings root suites).outcome = .ok c  →  IsMadeFrom files settings c
-/
import ScriptingBindings.Catalog.Resolution

namespace ScriptingBindings.Catalog

open Dictionary

/-- How a catalog can come about, given the files and the settings for it. -/
inductive IsMadeFrom (files : FileSystem) (settings : Settings) : Catalog → Prop where
  /-- Nothing is included and nothing implied. -/
  | nothing : IsMadeFrom files settings {}
  /-- The standard file was read. -/
  | standard {suites : List Suite} (h : (standardSuites files settings).outcome = .ok suites) :
      IsMadeFrom files settings (({} : Catalog).withStandard settings suites)
  /-- The built-in definitions were added. -/
  | builtIn {c : Catalog} (h : IsMadeFrom files settings c) : IsMadeFrom files settings c.withBuiltIn

variable {files : FileSystem} {settings : Settings}

/-- The suites of the standard file are read as the settings say. -/
theorem exists_root_of_standardSuites {suites : List Suite}
    (h : (standardSuites files settings).outcome = .ok suites) :
    ∃ root, suites = suitesOf settings.includeHidden root := by
  unfold standardSuites at h
  obtain ⟨document, -, h⟩ := Run.outcome_bind_eq_ok.mp h
  rw [Run.outcome_ofLogged, Except.ok.injEq] at h
  exact ⟨document.root, h.symm⟩

/-- The standard file is the only document that is ever kept track of, and only if that is asked
for. -/
theorem IsMadeFrom.inclusions_cases {c : Catalog} (h : IsMadeFrom files settings c) :
    c.inclusions = [] ∨ settings.trackInclusions = true ∧ ∃ root, c.inclusions =
      [⟨standardAddress, standardBasename,
        { suites := suitesOf settings.includeHidden root }⟩] := by
  induction h with
  | nothing => exact .inl rfl
  | standard hread =>
    obtain ⟨root, rfl⟩ := exists_root_of_standardSuites hread
    cases htrack : settings.trackInclusions with
    | false => exact .inl (by simp [withStandard, htrack])
    | true => exact .inr ⟨rfl, root, by simp [withStandard, htrack]⟩
  | builtIn _ ih => exact ih

theorem isMadeFrom_loadStandard {c : Catalog}
    (h : (loadStandard files settings {}).outcome = .ok c) : IsMadeFrom files settings c := by
  unfold loadStandard at h
  obtain ⟨present, -, h⟩ := Run.outcome_bind_eq_ok.mp h
  cases present with
  | false =>
    -- The file is not there.
    obtain ⟨_, -, h⟩ := Run.outcome_bind_eq_ok.mp h
    injection h with h
    exact h ▸ .builtIn .nothing
  | true =>
    obtain ⟨attempted, hattempted, h⟩ := Run.outcome_bind_eq_ok.mp h
    rw [Run.outcome_attempt, Except.ok.injEq] at hattempted
    cases attempted with
    | error e =>
      obtain ⟨_, -, h⟩ := Run.outcome_bind_eq_ok.mp h
      injection h with h
      exact h ▸ .builtIn .nothing
    | ok suites =>
      obtain ⟨_, -, h⟩ := Run.outcome_bind_eq_ok.mp h
      injection h with h
      exact h ▸ .standard hattempted

/-- **Every catalog that is found for a document comes from these sources.** -/
theorem isMadeFrom_resolve {root : Markup.Element} {suites : List Suite} {c : Catalog}
    (h : (resolve files settings root suites).outcome = .ok c) : IsMadeFrom files settings c := by
  unfold resolve at h
  extract_lets finish at h
  -- Whatever was loaded, the built-in definitions may still be added to it.
  have hfinish : ∀ loaded : Catalog, IsMadeFrom files settings loaded →
      (finish loaded).outcome = .ok c → IsMadeFrom files settings c := by
    intro loaded hloaded hf
    simp only [finish] at hf
    split at hf
    next =>
      obtain ⟨_, -, hf⟩ := Run.outcome_bind_eq_ok.mp hf
      injection hf with hf
      exact hf ▸ .builtIn hloaded
    next =>
      injection hf with hf
      exact hf ▸ hloaded
  split at h
  next =>
    obtain ⟨loaded, hl, h⟩ := Run.outcome_bind_eq_ok.mp h
    injection hl with hl
    exact hfinish loaded (hl ▸ .nothing) h
  next =>
    obtain ⟨_, -, h⟩ := Run.outcome_bind_eq_ok.mp h
    obtain ⟨loaded, hl, h⟩ := Run.outcome_bind_eq_ok.mp h
    exact hfinish loaded (isMadeFrom_loadStandard hl) h

end ScriptingBindings.Catalog
