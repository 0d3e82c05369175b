/-
  ScriptingBindings.Proofs.Build.Inclusions
  ──────────────────────────────────
  **KEEPING TRACK OF INCLUSIONS CHANGES NO CODE.**

  Whether the included documents are kept or not, a document is merged with
  the same definitions, and so it has the same suites.  No code is made from
  anything else but the suites, so the results of a generation are the same;
  only the number of inclusions that is told about the code may differ.
-/
import ScriptingBindings.Proofs.Alike
import ScriptingBindings.Proofs.Build.Stages
import ScriptingBindings.Proofs.Generation.Failures

namespace ScriptingBindings

open Dictionary

/-! ## §1. Catalogs. -/

namespace Catalog

/-- Two catalogs differ in the inclusions that they keep at most. -/
structure SameDefinitions (c c' : Catalog) : Prop where
  classes : c.classes = c'.classes
  enumerations : c.enumerations = c'.enumerations
  usesFallback : c.usesFallback = c'.usesFallback

variable {c c' : Catalog}

theorem SameDefinitions.refl (c : Catalog) : SameDefinitions c c := ⟨rfl, rfl, rfl⟩

theorem SameDefinitions.withBuiltIn (h : SameDefinitions c c') :
    SameDefinitions c.withBuiltIn c'.withBuiltIn where
  classes := congrArg (OrderedMap.putAll · _) h.classes
  enumerations := congrArg (OrderedMap.putAll · _) h.enumerations
  usesFallback := rfl

variable (files : FileSystem) (settings : Settings) (track : Bool)

theorem sameDefinitions_withStandard (c : Catalog) (suites : List Suite) :
    SameDefinitions (c.withStandard settings suites)
      (c.withStandard { settings with trackInclusions := track } suites) := ⟨rfl, rfl, rfl⟩

theorem alike_loadStandard :
    Alike SameDefinitions (loadStandard files settings {}).outcome
      (loadStandard files { settings with trackInclusions := track } {}).outcome := by
  unfold loadStandard
  refine Alike.outcome_bind_left _ fun found => ?_
  cases found with
  | false => exact .ok (.refl _)
  | true =>
    -- The standard file is read in the same way.
    refine Alike.outcome_bind_left (Run.attempt (standardSuites files settings)) fun attempted => ?_
    cases attempted with
    | error e => exact .ok (.refl _)
    | ok suites => exact .ok (sameDefinitions_withStandard settings track {} suites)

/-- **A document has the same definitions whether inclusions are kept or not.** -/
theorem alike_resolve (root : Markup.Element) (suites : List Suite) :
    Alike SameDefinitions (resolve files settings root suites).outcome
      (resolve files { settings with trackInclusions := track } root suites).outcome := by
  unfold resolve
  extract_lets finish
  have hfinish : ∀ c c', SameDefinitions c c' →
      Alike SameDefinitions (finish c).outcome (finish c').outcome := by
    intro c c' h
    have hempty : c.isEmpty = c'.isEmpty := by rw [isEmpty, isEmpty, h.classes]
    simp only [finish, hempty]
    split
    next => exact .ok h.withBuiltIn
    next => exact .ok h
  split
  next => exact hfinish {} {} (.refl _)
  next =>
    refine Alike.outcome_bind_left _ fun _ => ?_
    exact (alike_loadStandard files settings track).outcome_bind hfinish

end Catalog

/-! ## §2. Dictionaries. -/

/-- Two dictionaries differ in their inclusions at most. -/
structure Dictionary.SameSuites (d d' : Dictionary) : Prop where
  suites : d.suites = d'.suites
  usesFallback : d.usesFallback = d'.usesFallback

/-- Suites are merged with the definitions of a catalog alone. -/
theorem Merge.mergedSuites_congr {c c' : Catalog} (h : c.SameDefinitions c')
    (suites : List Suite) : mergedSuites c suites = mergedSuites c' suites := by
  obtain ⟨classes, enumerations, inclusions, usesFallback⟩ := c
  obtain ⟨classes', enumerations', inclusions', usesFallback'⟩ := c'
  obtain ⟨rfl, rfl, rfl⟩ := h
  rfl

namespace Build

theorem sameSuites_ofSuites {c c' : Catalog} (h : c.SameDefinitions c') (suites : List Suite) :
    SameSuites (ofSuites suites c).value (ofSuites suites c').value := by
  rw [value_ofSuites, value_ofSuites]
  exact ⟨congrArg Logged.value (Merge.mergedSuites_congr h suites), h.usesFallback⟩

/-- The settings of the catalog keep track of inclusions where the settings for building do. -/
theorem catalog?_track (settings : BuildSettings) (track : Bool) :
    BuildSettings.catalog? { settings with trackInclusions := track }
      = settings.catalog?.map fun place => { place with trackInclusions := track } := by
  unfold BuildSettings.catalog?
  rw [Option.map_map]
  rfl

/-- **A document has the same merged suites whether inclusions are kept or not.** -/
theorem alike_ofRoot (files : FileSystem) (settings : BuildSettings) (track : Bool)
    (root : Option Markup.Element) :
    Alike SameSuites (ofRoot files settings root).outcome
      (ofRoot files { settings with trackInclusions := track } root).outcome := by
  cases root with
  | none => exact .error _
  | some e =>
    unfold ofRoot
    refine Alike.outcome_bind_left _ fun suites => ?_
    rw [catalog?_track settings track]
    cases settings.catalog? with
    | none => exact .error _
    | some place =>
      refine Alike.outcome_bind (R := Catalog.SameDefinitions) ?_ fun c c' h => ?_
      · exact (Catalog.alike_resolve files place track e suites).mapError BuildError.load
      · exact .ok (sameSuites_ofSuites h suites)

end Build

/-! ## §3. Results. -/

/-- What is told of a result: its code and whether a file can hold it, or why there is none. -/
def Generated.answer : Generated → Except GenerationError (String × Bool)
  | .code text _ _ => .ok (text, true)
  | .unencodable shown _ _ => .ok (shown, false)
  | .failed e => .error e

/-- Two results have the same code and the same warnings, or failed for the same reason. -/
inductive Generated.SameCode : Generated → Generated → Prop where
  | code (text : String) (warnings : List String) (m m' : Metadata) :
      SameCode (.code text warnings m) (.code text warnings m')
  | unencodable (shown : String) (warnings : List String) (m m' : Metadata) :
      SameCode (.unencodable shown warnings m) (.unencodable shown warnings m')
  | failed (e : GenerationError) : SameCode (.failed e) (.failed e)

theorem Generated.SameCode.refl (r : Generated) : r.SameCode r := by
  cases r with
  | code text warnings m => exact .code text warnings m m
  | unencodable shown warnings m => exact .unencodable shown warnings m m
  | failed e => exact .failed e

theorem Generated.SameCode.answer_eq {r r' : Generated} (h : r.SameCode r') :
    r.answer = r'.answer := by
  cases h with
  | code => rfl
  | unencodable => rfl
  | failed => rfl

/-- Code is made from the suites alone. -/
theorem Swift.generate_congr {d d' : Dictionary} (h : d.SameSuites d') (o : Swift.Options)
    (basename : String) : Swift.generate o d basename = Swift.generate o d' basename := by
  obtain ⟨suites, classes, inclusions, usesFallback⟩ := d
  obtain ⟨suites', classes', inclusions', usesFallback'⟩ := d'
  obtain ⟨rfl, rfl⟩ := h
  rfl

/-- So is the answer to whether a file can hold it. -/
theorem Swift.isEncodable_congr {d d' : Dictionary} (h : d.SameSuites d') (o : Swift.Options)
    (basename : String) : Swift.isEncodable o d basename = Swift.isEncodable o d' basename := by
  obtain ⟨suites, classes, inclusions, usesFallback⟩ := d
  obtain ⟨suites', classes', inclusions', usesFallback'⟩ := d'
  obtain ⟨rfl, rfl⟩ := h
  rfl

/-- Code that was laid out ends two generations alike. -/
theorem Generator.sameCode_finish {d d' : Dictionary} (h : d.SameSuites d') (g : Generator)
    (basename : String) (warnings : List String) (text : String) :
    (g.finish d basename warnings text).SameCode (g.finish d' basename warnings text) := by
  unfold finish
  rw [Swift.isEncodable_congr h]
  split
  next => exact .code text warnings _ _
  next => exact .unencodable text warnings _ _

/-- **Dictionaries with the same suites have the same code.** -/
theorem Generator.alike_generate_of_sameSuites [Machine] {d d' : Dictionary} (h : d.SameSuites d')
    (g : Generator) (basename : String) :
    Alike Generated.SameCode (g.generate d basename).value.2 (g.generate d' basename).value.2 := by
  have hcheck : Generation.check d = Generation.check d' := by
    unfold Generation.check
    rw [h.suites]
  cases hchecked : Generation.check d with
  | error e =>
    rw [generate_eq, generate_eq, ← hcheck, hchecked]
    exact .refl .refl _
  | ok warnings =>
    rw [value_generate_of_checked hchecked, value_generate_of_checked (hcheck ▸ hchecked),
      Swift.generate_congr h]
    cases (Swift.generate g.options d' basename).value.2 with
    | error e => exact .refl .refl _
    | ok code =>
      exact (Alike.eq_refl (g.layOut code)).map fun text _ heq =>
        heq ▸ sameCode_finish h g basename warnings text

end ScriptingBindings
