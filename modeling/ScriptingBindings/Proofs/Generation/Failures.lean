/-
  ScriptingBindings.Proofs.Generation.Failures
  ──────────────────────────────────
  **HOW A GENERATION ENDS.**

  With a configuration whose settings are of their declared kinds there is a
  generator, and its generations end with a result.  The result tells of an
  extension that was not merged exactly where there is one; any other failure
  is that of a name or of the type of a property, and no template is ever left
  unfilled.  Only one thing keeps a generation from having a result: code that
  cannot be indented in the width that was asked for.

  A dictionary that was built from a document has no extensions, and neither
  has any dictionary that it includes.
-/
import ScriptingBindings.Generation.Request
import ScriptingBindings.Proofs.Build.Stages
import ScriptingBindings.Proofs.Layout
import ScriptingBindings.Proofs.Swift.Contents
import ScriptingBindings.Proofs.Swift.Failures
import ScriptingBindings.Proofs.Swift.Shadowing

namespace ScriptingBindings

open Dictionary Swift

/-! ## §1. Configurations of the declared kinds. -/

namespace Json

/-- A text, also a broken one. -/
def IsText (v : Json) : Prop := v.name?.isSome = true

/-- A text that is not broken. -/
def IsWholeText (v : Json) : Prop := ∃ s, v = .str s

/-- Absent, or as a value of some kind is. -/
def IsOptional (IsKind : Json → Prop) (v : Json) : Prop := v = .null ∨ IsKind v

/-- A truth value. -/
def IsFlag (v : Json) : Prop := ∃ b, v = .bool b

theorem IsWholeText.isText {v : Json} (h : v.IsWholeText) : v.IsText := by
  obtain ⟨s, rfl⟩ := h
  exact rfl

theorem IsWholeText.isBroken_eq {v : Json} (h : v.IsWholeText) : v.isBroken = false := by
  obtain ⟨s, rfl⟩ := h
  rfl

theorem IsOptional.isBroken_eq {v : Json} (h : v.IsOptional IsWholeText) : v.isBroken = false := by
  rcases h with rfl | h
  · rfl
  · exact h.isBroken_eq

theorem IsOptional.of_str {P : String → Prop} {v : Json}
    (h : v.IsOptional fun v => ∃ s, v = .str s ∧ P s) {s : String} (hs : v = .str s) : P s := by
  rcases h with hnull | ⟨s', hs', htext⟩
  · exact absurd (hs.symm.trans hnull) (by simp)
  · exact Json.str.inj (hs'.symm.trans hs) ▸ htext

end Json

namespace Config

/-- Further imports are a list of texts, and overrides of types map names to texts. -/
structure HasTypedEntries (IsText : Json → Prop) (entries : OrderedMap Json) : Prop where
  imports : ∀ v, entries.get? "extra_imports" = some v →
    ∃ modules : List Json, v = .arr modules ∧ ∀ m ∈ modules, IsText m
  overrides : ∀ v, entries.get? "type_overrides" = some v →
    ∃ spellings : OrderedMap Json, v = .obj spellings ∧ ∀ e ∈ spellings, IsText e.2

/-- Every setting is of its declared kind, for some notion of a text. -/
structure IsTypedWith (IsText : Json → Prop) (c : Config) : Prop where
  basename : c.basename.IsOptional IsText
  outputDirectory : IsText c.outputDirectory
  includeHidden : c.includeHidden.IsFlag
  generateRecursively : c.generateRecursively.IsFlag
  standardDefinitionsPath : c.standardDefinitionsPath.IsOptional IsText
  generateClassNamesEnum : c.generateClassNamesEnum.IsFlag
  generateStronglyTypedExtensions : c.generateStronglyTypedExtensions.IsFlag
  generateNamespaceTypealiases : c.generateNamespaceTypealiases.IsFlag
  generateFlatTypealiases : c.generateFlatTypealiases.IsFlag
  bundleIdentifier : c.bundleIdentifier.IsOptional IsText
  addComments : c.addComments.IsFlag
  indentSize : ∃ width, c.indentSize = .int width
  custom : ∃ entries, c.custom = .obj entries ∧ HasTypedEntries IsText entries

/-- Every setting is of its declared kind. -/
abbrev IsTyped (c : Config) : Prop := c.IsTypedWith Json.IsText

/-- Every setting is of its declared kind, and no text is broken. -/
abbrev IsWhole (c : Config) : Prop := c.IsTypedWith Json.IsWholeText

end Config

/-! ## §2. Whole texts. -/

namespace Swift

/-- No option is a broken text. -/
structure Options.IsWhole (o : Options) : Prop where
  bundleIdentifier : o.bundleIdentifier.isBroken = false
  imports : ∀ v ∈ o.imports, v.isBroken = false
  overrides : ∀ entry ∈ o.overrides, entry.2.isBroken = false

variable {o : Options}

/-- A type that is mapped with whole overrides has a whole spelling. -/
theorem isBroken_of_mapBase (h : o.IsWhole) {names : Names} {base : String} {r : TypeRef}
    (hr : mapBase o.overrides names base = .ok r) : r.spelling.isBroken = false := by
  rcases mapBase_cases hr with ⟨name, type, -, rfl⟩ | ⟨name, v, hv, rfl⟩
  · rfl
  · rcases spelling?_cases hv with ⟨entry, -, rfl⟩ | hoverride
    · rfl
    · obtain ⟨entry, hentry, rfl⟩ := List.mem_map.mp hoverride
      exact h.overrides entry hentry

theorem TypeRef.isBroken_decorated {r : TypeRef} (h : r.spelling.isBroken = false)
    (isList isOptional : Bool) : (r.decorated isList isOptional).spelling.isBroken = false := by
  have hlist : r.asList.spelling.isBroken = false := by
    unfold asList
    split
    next => exact h
    next => exact (Json.isBroken_within ..).trans h
  have hoptional {r : TypeRef} (h : r.spelling.isBroken = false) :
      r.asOptional.spelling.isBroken = false := by
    unfold asOptional
    split
    next => exact h
    next => exact (Json.isBroken_within ..).trans h
  unfold decorated
  cases isList with
  | false => cases isOptional with
    | false => exact h
    | true => exact hoptional h
  | true => cases isOptional with
    | false => exact hlist
    | true => exact hoptional hlist

/-- **With whole options a file can hold the text for every dictionary.** -/
theorem isEncodable_of_isWhole (h : o.IsWhole) (d : Dictionary) (basename : String) :
    isEncodable o d basename = true := by
  unfold isEncodable
  split
  next names p hplan =>
    rw [List.all_eq_true]
    intro v hv
    rw [Bool.not_eq_true']
    rcases List.mem_append.mp hv with hv | hv
    · rcases List.mem_cons.mp hv with rfl | hv
      · exact h.bundleIdentifier
      · exact h.imports v hv
    · obtain ⟨c, -, hv⟩ := List.mem_flatMap.mp hv
      unfold shownTypes at hv
      split at hv
      next q hq =>
        obtain ⟨r, _, -, hr, isList, isOptional, rfl⟩ := exists_spells_of_mem_memberTypes hq v hv
        exact TypeRef.isBroken_decorated (isBroken_of_mapBase h hr) isList isOptional
      next => exact absurd hv List.not_mem_nil
  next => rfl

end Swift

/-- The imports are the usual ones, which are whole, and further ones. -/
theorem mem_of_importsWith {modules imports : List Json}
    (h : Options.importsWith (.arr modules) = .ok imports) :
    ∀ v ∈ imports, v.IsWholeText ∨ v ∈ modules := by
  obtain rfl := Except.ok.inj h
  intro v hv
  rcases List.mem_append.mp hv with hv | hv
  · obtain ⟨s, -, rfl⟩ := List.mem_map.mp hv
    exact .inl ⟨s, rfl⟩
  · exact .inr (List.mem_of_mem_filter hv)

/-- The overrides are those of the configuration, by names in lower case. -/
theorem exists_of_overridesOf {spellings overrides : OrderedMap Json}
    (h : Options.overridesOf (.obj spellings) = .ok overrides) :
    ∀ entry ∈ overrides, ∃ e ∈ spellings, e.2 = entry.2 := by
  obtain rfl := Except.ok.inj h
  intro entry hentry
  rcases OrderedMap.mem_of_mem_putAll hentry with hentry | hentry
  · exact absurd hentry List.not_mem_nil
  · obtain ⟨e, he, rfl⟩ := List.mem_map.mp hentry
    exact ⟨e, he, rfl⟩

/-- There is a generator for a configuration of the declared kinds, and its options are texts where
they should be. -/
theorem Config.IsTypedWith.exists_generator {IsText : Json → Prop} {c : Config}
    (h : c.IsTypedWith IsText) :
    ∃ g, Generator.ofConfig c = .ok g ∧ g.options.bundleIdentifier = c.bundleIdentifier ∧
      g.options.indentSize = c.indentSize ∧
        (∀ v ∈ g.options.imports, v.IsWholeText ∨ IsText v) ∧
          ∀ entry ∈ g.options.overrides, IsText entry.2 := by
  obtain ⟨entries, hcustom, hentries⟩ := h.custom
  -- An empty group of custom settings counts as false; it has no entries either.
  have hknown : Options.customEntries c.custom = .ok entries := by
    rw [hcustom]
    cases entries with
    | nil => rfl
    | cons entry rest => rfl
  obtain ⟨modules, hmodules, htexts⟩ : ∃ modules : List Json,
      (OrderedMap.get? entries "extra_imports").getD (.arr []) = .arr modules ∧
        ∀ m ∈ modules, IsText m := by
    cases hv : OrderedMap.get? entries "extra_imports" with
    | none => exact ⟨[], rfl, fun _ hm => absurd hm List.not_mem_nil⟩
    | some v => exact hentries.imports v hv
  obtain ⟨spellings, hspellings, hspelled⟩ : ∃ spellings : OrderedMap Json,
      (OrderedMap.get? entries "type_overrides").getD (.obj []) = .obj spellings ∧
        ∀ e ∈ spellings, IsText e.2 := by
    cases hv : OrderedMap.get? entries "type_overrides" with
    | none => exact ⟨[], rfl, fun _ he => absurd he List.not_mem_nil⟩
    | some v => exact hentries.overrides v hv
  obtain ⟨imports, himports⟩ : ∃ imports,
      Options.importsWith (.arr modules) = .ok imports := ⟨_, rfl⟩
  obtain ⟨overrides, hoverrides⟩ : ∃ overrides,
      Options.overridesOf (.obj spellings) = .ok overrides := ⟨_, rfl⟩
  unfold Generator.ofConfig Options.ofConfig
  rw [hknown, ok_bind, hmodules, himports, ok_bind, hspellings, hoverrides]
  refine ⟨_, rfl, rfl, rfl, fun v hv => ?_, fun entry hentry => ?_⟩
  · exact (mem_of_importsWith himports v hv).imp_right (htexts v)
  · obtain ⟨e, he, heq⟩ := exists_of_overridesOf hoverrides entry hentry
    exact heq ▸ hspelled e he

/-- If no text of a configuration is broken, no option is. -/
theorem Config.IsWhole.exists_generator {c : Config} (h : c.IsWhole) :
    ∃ g, Generator.ofConfig c = .ok g ∧ g.options.bundleIdentifier = c.bundleIdentifier ∧
      g.options.indentSize = c.indentSize ∧ g.options.IsWhole := by
  obtain ⟨g, hg, hbundle, hindent, himports, hoverrides⟩ := IsTypedWith.exists_generator h
  exact ⟨g, hg, hbundle, hindent, by rw [hbundle, h.bundleIdentifier.isBroken_eq],
    fun v hv => (himports v hv).elim Json.IsWholeText.isBroken_eq Json.IsWholeText.isBroken_eq,
    fun entry hentry => (hoverrides entry hentry).isBroken_eq⟩

/-- An optional text has a literal. -/
theorem exists_literalValue {v : Json} (h : v.IsOptional Json.IsText) :
    ∃ bundle, literalValue v = .ok bundle := by
  rcases h with rfl | h
  · exact ⟨.null, rfl⟩
  · cases v with
    | str s => exact ⟨_, rfl⟩
    | broken b => exact ⟨_, rfl⟩
    | null | bool _ | int _ | fractional _ | arr _ | obj _ => exact absurd h Bool.false_ne_true

/-! ## §3. Extensions. -/

/-- The check of a dictionary fails for an extension, and for nothing else. -/
theorem check_cases (d : Dictionary) :
    (∃ s ∈ d.suites, ∃ e ∈ s.extensions, Generation.check d = .error (.unmerged e.target s.name)) ∨
      (d.hasExtensions = false ∧ ∃ warnings, Generation.check d = .ok warnings) := by
  unfold Generation.check
  cases hfirst : Generation.firstExtension? d.suites with
  | some found =>
    obtain ⟨s, hs, hhead⟩ := List.exists_of_findSome?_eq_some hfirst
    obtain ⟨e, he, rfl⟩ := Option.map_eq_some_iff.mp hhead
    exact .inl ⟨s, hs, e, List.mem_of_mem_head? he, rfl⟩
  | none =>
    refine .inr ⟨?_, _, rfl⟩
    rw [Dictionary.hasExtensions, List.any_eq_false]
    intro s hs
    have hnone := List.findSome?_eq_none_iff.mp hfirst s hs
    rw [Option.map_eq_none_iff, List.head?_eq_none_iff] at hnone
    simp [hnone]

/-- A dictionary with an extension of some suite has extensions. -/
theorem hasExtensions_of_mem {d : Dictionary} {s : Suite} {e : Extension} (hs : s ∈ d.suites)
    (he : e ∈ s.extensions) : d.hasExtensions = true := by
  rw [Dictionary.hasExtensions, List.any_eq_true]
  refine ⟨s, hs, ?_⟩
  cases hlist : s.extensions with
  | nil => exact absurd (hlist ▸ he) List.not_mem_nil
  | cons e' rest => rfl

/-- A merged dictionary has no extensions. -/
theorem hasExtensions_merge (d : Dictionary) (c : Catalog) :
    (Merge.merge d c).value.hasExtensions = false := by
  rw [Dictionary.hasExtensions, List.any_eq_false]
  intro s hs
  change s ∈ (Merge.mergedSuites c d.suites).value at hs
  unfold Merge.mergedSuites at hs
  rw [Logged.value_bind, Logged.value_forEach] at hs
  obtain ⟨t, -, rfl⟩ := List.mem_map.mp hs
  exact Bool.false_ne_true

/-- **A dictionary built from a document has no extensions**, nor has any that it includes. -/
theorem hasExtensions_ofRoot {files : FileSystem} {settings : BuildSettings}
    {root : Option Markup.Element} {d : Dictionary}
    (h : (Build.ofRoot files settings root).outcome = .ok d) :
    ∀ x ∈ d :: d.inclusions.map Inclusion.content, x.hasExtensions = false := by
  obtain ⟨e, place, catalog, -, -, -, rfl⟩ := Build.ofRoot_eq_ok.mp h
  rw [Build.value_ofSuites]
  intro x hx
  rcases List.mem_cons.mp hx with rfl | hx
  · exact hasExtensions_merge { suites := suitesOf settings.includeHidden e } catalog
  · obtain ⟨i, hi, rfl⟩ := List.mem_map.mp hx
    obtain ⟨j, -, rfl⟩ := List.mem_map.mp hi
    exact hasExtensions_merge j.content {}

/-! ## §4. Endings. -/

/-- A file can hold the code of a result, if it has code. -/
def Generated.IsEncodable : Generated → Prop
  | .unencodable .. => False
  | .code .. | .failed _ => True

namespace Generator

/-- How a generation can end, `width` being that of a level of indentation. -/
inductive Ending [Machine] (g : Generator) (width : Int) (d : Dictionary) (basename : String) :
    Except Misuse Generated → Prop where
  /-- With an extension that was not merged. -/
  | unmerged {s : Suite} {e : Extension} (hs : s ∈ d.suites) (he : e ∈ s.extensions) :
      Ending g width d basename (.ok (.failed (.unmerged e.target s.name)))
  /-- With a name or a type at fault. -/
  | faulty {e : GenerationError} (hmerged : d.hasExtensions = false)
      (he : IsFaultOf (allProperties d) e) : Ending g width d basename (.ok (.failed e))
  /-- With code. -/
  | written {code text : String} {warnings : List String} {metadata : Metadata}
      (hmerged : d.hasExtensions = false)
      (hcode : (Swift.generate g.options d basename).value.2 = .ok code)
      (hformat : Layout.CanFormat width code) :
      Ending g width d basename (.ok (.code text warnings metadata))
  /-- With code that shows an option that is a broken text. -/
  | unencodable {code shown : String} {warnings : List String} {metadata : Metadata}
      (hmerged : d.hasExtensions = false) (hbroken : ¬ g.options.IsWhole)
      (hcode : (Swift.generate g.options d basename).value.2 = .ok code)
      (hformat : Layout.CanFormat width code) :
      Ending g width d basename (.ok (.unencodable shown warnings metadata))
  /-- Without a result: there is code, and it cannot be laid out. -/
  | unformatted {m : Misuse} {code : String} (hmerged : d.hasExtensions = false)
      (hcode : (Swift.generate g.options d basename).value.2 = .ok code)
      (hformat : ¬ Layout.CanFormat width code) : Ending g width d basename (.error m)

variable {g : Generator} {width : Int} {d : Dictionary} {basename : String}

/-- The ending of a dictionary without extensions, by what became of its code. -/
theorem value_generate_of_checked [Machine] {warnings : List String}
    (h : Generation.check d = .ok warnings) :
    (g.generate d basename).value.2 =
      match (Swift.generate g.options d basename).value.2 with
      | .error e => (fail basename e).value
      | .ok code => (g.layOut code).map (g.finish d basename warnings) := by
  rw [generate_eq, h]
  dsimp only
  rw [Logged.value_bind]
  cases (Swift.generate g.options d basename).value with
  | mk names code =>
    cases code with
    | error e => rfl
    | ok code => rfl

/-- The faults of a dictionary are reported as results. -/
theorem value_fail_of_isFaultOf {ps : List Property} {e : GenerationError}
    (h : IsFaultOf ps e) : (fail basename e).value = .ok (.failed e) := by
  cases h with
  | name e => rfl
  | type hp hblank => rfl

/-- Code that cannot be laid out is no result. -/
theorem exists_misuse_of_not_canFormat [Machine] {code : String}
    (hw : g.options.indentSize = .int width) (h : ¬ Layout.CanFormat width code)
    (f : String → Generated) : ∃ m, (g.layOut code).map f = .error m := by
  cases hlaid : g.layOut code with
  | error m => exact ⟨m, rfl⟩
  | ok text =>
    rw [layOut, hw] at hlaid
    exact absurd ((Layout.exists_format_iff width code).mp ⟨text, hlaid⟩) h

/-- **Every generation ends in one of these ways**, given that the bundle identifier is absent
or a text. -/
theorem ending_generate [Machine] {bundle : Json}
    (hb : literalValue g.options.bundleIdentifier = .ok bundle)
    (hw : g.options.indentSize = .int width) :
    Ending g width d basename (g.generate d basename).value.2 := by
  rcases check_cases d with ⟨s, hs, e, he, hcheck⟩ | ⟨hmerged, warnings, hcheck⟩
  · have hvalue : (g.generate d basename).value.2 = .ok (.failed (.unmerged e.target s.name)) := by
      rw [generate_eq, hcheck]
      rfl
    rw [hvalue]
    exact .unmerged hs he
  · rw [value_generate_of_checked hcheck]
    cases hcode : (Swift.generate g.options d basename).value.2 with
    | error e =>
      have hfault := failsOnly_generate hb d basename e hcode
      dsimp only
      rw [value_fail_of_isFaultOf hfault]
      exact .faulty hmerged hfault
    | ok code =>
      have hformat := Layout.exists_format_iff width code
      rw [← hw, ← layOut] at hformat
      dsimp only
      cases hlaid : g.layOut code with
      | ok text =>
        have hcan := hformat.mp ⟨text, hlaid⟩
        show Ending g width d basename (.ok (g.finish d basename warnings text))
        unfold finish
        split
        next => exact .written hmerged hcode hcan
        next hbroken =>
          refine .unencodable hmerged (fun hwhole => hbroken ?_) hcode hcan
          exact isEncodable_of_isWhole hwhole d basename
      | error m =>
        refine .unformatted hmerged hcode (fun hcan => ?_)
        obtain ⟨text, htext⟩ := hformat.mpr hcan
        rw [hlaid] at htext
        exact absurd htext (by simp)

/-- An extension is reported exactly where there is one. -/
theorem Ending.unmerged_iff [Machine] {result : Except Misuse Generated}
    (h : Ending g width d basename result) :
    (∃ target suite, result = .ok (.failed (.unmerged target suite))) ↔
      d.hasExtensions = true := by
  cases h with
  | unmerged hs he =>
    exact ⟨fun _ => hasExtensions_of_mem hs he, fun _ => ⟨_, _, rfl⟩⟩
  | faulty hmerged he =>
    rw [hmerged]
    refine ⟨fun ⟨target, suite, h⟩ => ?_, fun h => absurd h Bool.false_ne_true⟩
    injection h with h
    injection h with h
    rw [h] at he
    cases he
  | written hmerged | unencodable hmerged =>
    rw [hmerged]
    refine ⟨fun ⟨target, suite, h⟩ => ?_, fun h => absurd h Bool.false_ne_true⟩
    injection h with h
    injection h
  | unformatted hmerged hcode hformat =>
    rw [hmerged]
    refine ⟨fun ⟨target, suite, h⟩ => ?_, fun h => absurd h Bool.false_ne_true⟩
    injection h

/-- A file can hold whatever code there is at an end, if no option is broken. -/
theorem Ending.isEncodable [Machine] {result : Generated} (hwhole : g.options.IsWhole)
    (h : Ending g width d basename (.ok result)) : result.IsEncodable := by
  cases h with
  | unmerged | faulty | written => trivial
  | unencodable hmerged hbroken => exact absurd hwhole hbroken

/-- How the generations of a generator end, for all dictionaries. -/
structure EndsInResults [Machine] (g : Generator) (width : Int) : Prop where
  /-- Each generation ends in one of the ways of `Ending`. -/
  ending : ∀ (d : Dictionary) (basename : String),
    g.Ending width d basename (g.generate d basename).value.2
  /-- An extension is reported exactly where there is one. -/
  unmerged_iff : ∀ (d : Dictionary) (basename : String),
    (∃ target suite, (g.generate d basename).value.2 = .ok (.failed (.unmerged target suite))) ↔
      d.hasExtensions = true
  /-- None is reported of a dictionary built from a document, nor of one that it includes. -/
  built : ∀ (files : FileSystem) (settings : BuildSettings) (root : Option Markup.Element)
    (d : Dictionary), (Build.ofRoot files settings root).outcome = .ok d →
      ∀ x ∈ d :: d.inclusions.map Inclusion.content, ∀ basename target suite,
        (g.generate x basename).value.2 ≠ .ok (.failed (.unmerged target suite))

theorem endsInResults [Machine] {bundle : Json}
    (hb : literalValue g.options.bundleIdentifier = .ok bundle)
    (hw : g.options.indentSize = .int width) : g.EndsInResults width where
  ending _ _ := ending_generate hb hw
  unmerged_iff _ _ := (ending_generate hb hw).unmerged_iff
  built files settings root d hd x hx basename target suite h := by
    have hextensions := (ending_generate hb hw).unmerged_iff.mp ⟨target, suite, h⟩
    rw [hasExtensions_ofRoot hd x hx] at hextensions
    exact absurd hextensions Bool.false_ne_true

end Generator

/-- No file can be laid out in a width so far below zero that it is too large to count with. -/
theorem not_canFormat_of_lt [Machine] {o : Options} {d : Dictionary} {basename text : String}
    (h : (Swift.generate o d basename).value.2 = .ok text) {width : Int}
    (hw : width < -Layout.countLimit) : ¬ Layout.CanFormat width text := by
  have hvalue : (Swift.generate o d basename).value
      = ((Swift.generate o d basename).value.1, .ok text) := by rw [← h]
  obtain ⟨_, _, _, w, -, hw', rfl⟩ := contents_of_generate hvalue
  have hlimit : -Layout.countLimit < 0 := by decide
  rintro (hfour | hall)
  · omega
  · -- Every file has a line that is one level deep.
    have hmem : movingLine.toList ∈ Text.contentLines (joinParts w.all).toList :=
      contentLines_subset_joinParts (by simp [Parts.all]) (movingLine_mem_standardText hw'.standard)
    have hstrip : Text.stripEnd movingLine.toList = movingLine.toList := by decide +kernel
    obtain ⟨hline, hcontent⟩ := List.mem_filter.mp hmem
    have htidy : movingLine.toList ∈ Text.contentLines (Layout.tidy (joinParts w.all).toList) := by
      rw [Layout.contentLines_tidy]
      exact List.mem_filter.mpr ⟨List.mem_map.mpr ⟨_, hline, hstrip⟩, hcontent⟩
    have hdepth : Layout.indentation width movingLine.toList = width := by
      have hspaces : (movingLine.toList.takeWhile (· == ' ')).length = 4 := by decide +kernel
      rw [Layout.indentation, hspaces]
      simp [Layout.widened, Layout.writtenWidth]
    have hrange := (hall movingLine.toList (Text.contentLines_subset_lines _ htidy)).1
    rw [hdepth] at hrange
    omega

/-! ## §5. Generations with a typed configuration. -/

/-- **With a configuration of the declared kinds generations end in results.**  There is a
generator, and whatever the names of its last run are, each generation ends with the report of
an extension exactly where there is one, else with code or with a fault of a name or of the
type of a property, unless there is code that cannot be laid out. -/
theorem generator_endsInResults [Machine] (c : Config) (hc : c.IsTyped) :
    ∃ g width, Generator.ofConfig c = .ok g ∧ c.indentSize = .int width ∧
      ∀ names : Names, Generator.EndsInResults { g with names := names } width := by
  obtain ⟨g, hg, hbundle, hindent, -⟩ := hc.exists_generator
  obtain ⟨bundle, hb⟩ := exists_literalValue (hbundle ▸ hc.bundleIdentifier)
  obtain ⟨width, hwidth⟩ := hc.indentSize
  exact ⟨g, width, hg, hwidth, fun names => Generator.endsInResults hb (hindent.trans hwidth)⟩

/-- A configuration with a width of its own for a level, and with custom settings. -/
def customConfig (width : Int) : Config :=
  { bundleIdentifier := .str "com.apple.Music"
    indentSize := .int width
    custom := .obj [("extra_imports", .arr [.str "AppKit"]),
      ("type_overrides", .obj [("Color", .str "NSColor")])] }

theorem isTyped_customConfig (width : Int) : (customConfig width).IsTyped where
  basename := .inl rfl
  outputDirectory := rfl
  includeHidden := ⟨_, rfl⟩
  generateRecursively := ⟨_, rfl⟩
  standardDefinitionsPath := .inl rfl
  generateClassNamesEnum := ⟨_, rfl⟩
  generateStronglyTypedExtensions := ⟨_, rfl⟩
  generateNamespaceTypealiases := ⟨_, rfl⟩
  generateFlatTypealiases := ⟨_, rfl⟩
  bundleIdentifier := .inr rfl
  addComments := ⟨_, rfl⟩
  indentSize := ⟨width, rfl⟩
  custom := by
    refine ⟨_, rfl, fun v hv => ⟨[.str "AppKit"], (Option.some.inj hv).symm, ?_⟩,
      fun v hv => ⟨[("Color", .str "NSColor")], (Option.some.inj hv).symm, ?_⟩⟩
    · exact List.forall_mem_singleton.mpr rfl
    · exact List.forall_mem_singleton.mpr rfl

section Usual

attribute [local instance] Machine.usual

theorem generator_endsInResults_narrow :
    (customConfig 2).IsTyped ∧
      ∃ g width, Generator.ofConfig (customConfig 2) = .ok g ∧
        (customConfig 2).indentSize = .int width ∧
          ∀ names : Names, Generator.EndsInResults { g with names := names } width :=
  ⟨isTyped_customConfig 2, generator_endsInResults (customConfig 2) (isTyped_customConfig 2)⟩

/-- A width too far below zero to count with. -/
def lostWidth : Int := -1000000000000000000000000000000

/-- **A generation can end without a result.**  A level of less than no spaces means none, but
with a number too large to count with there is no code even for an empty dictionary. -/
theorem generate_without_result :
    (customConfig lostWidth).IsTyped ∧
      ∃ g, Generator.ofConfig (customConfig lostWidth) = .ok g ∧
        ∃ m, (g.generate {} "Test").value.2 = .error m := by
  have hc := isTyped_customConfig lostWidth
  obtain ⟨g, hg, -, hindent, -⟩ := hc.exists_generator
  refine ⟨hc, g, hg, ?_⟩
  have hwritten : (Generator.ofConfig (customConfig lostWidth)).toOption.all
      (fun g => (Swift.generate g.options {} "Test").value.2.toOption.isSome) = true := by
    decide +kernel
  rw [hg, Except.toOption, Option.all_some] at hwritten
  obtain ⟨_, code, hcode⟩ := exists_text_of_isSome hwritten
  have hcode : (Swift.generate g.options {} "Test").value.2 = .ok code := by rw [hcode]
  have hformat : ¬ Layout.CanFormat lostWidth code := not_canFormat_of_lt hcode (by decide)
  have hcheck : Generation.check {} = .ok [] := rfl
  rw [Generator.value_generate_of_checked hcheck, hcode]
  exact Generator.exists_misuse_of_not_canFormat hindent hformat _

end Usual

end ScriptingBindings
