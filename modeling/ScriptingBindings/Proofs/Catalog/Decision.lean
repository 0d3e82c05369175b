/-
  ScriptingBindings.Proofs.Catalog.Decision
  ──────────────────────────────────
  **WHEN THE BUILT-IN DEFINITIONS ARE USED.**

  A document includes the standard definitions or it does not, and the standard
  file can be loaded or it cannot.  So there are three catalogs to start from:

      not included                  {}
      included, cannot be loaded    {}.withBuiltIn
      included and loaded           {}.withStandard settings standard

  To one that has no class the built-in definitions are added if some suite
  defines or extends an application class.  Everything that is asked of the
  catalog follows from this table.  Only the question whether the standard file
  is there can fail: its path may be too long, or lead through a directory that
  is barred.
-/
import ScriptingBindings.Proofs.Build.Sources
import ScriptingBindings.Proofs.Catalog.Keyed
import ScriptingBindings.Proofs.Loading

namespace ScriptingBindings.Markup

/-! ## §1. Marks in texts. -/

theorem after?_eq_some_iff {mark s rest : List Char} :
    after? mark s = some rest ↔ s = mark ++ rest := by
  induction mark generalizing s with
  | nil => simp [after?]
  | cons c mark ih =>
    cases s with
    | nil => simp [after?]
    | cons d s =>
      by_cases hc : c = d
      · simp [after?, hc, ih]
      · simp [after?, hc, Ne.symm hc]

/-- A mark occurs where a text contains it. -/
theorem hasMark_iff {mark : List Char} (hmark : mark ≠ []) (s : List Char) :
    hasMark mark s = true ↔ mark <:+: s := by
  unfold hasMark
  induction s with
  | nil => simp [splitAtMark?, hmark]
  | cons c s ih =>
    rw [List.infix_cons_iff, ← ih, splitAtMark?]
    cases hafter : after? mark (c :: s) with
    | some rest =>
      have hstarts : mark <+: c :: s := ⟨rest, (after?_eq_some_iff.mp hafter).symm⟩
      simp [hstarts]
    | none =>
      have hstarts : ¬ mark <+: c :: s := by
        rintro ⟨rest, hrest⟩
        rw [after?_eq_some_iff.mpr hrest.symm] at hafter
        exact absurd hafter (by simp)
      simp [hstarts]

end ScriptingBindings.Markup

namespace ScriptingBindings.Catalog

open Dictionary
open FileSystem (preventsAsking_of_hasPath hasPath_of_read)

/-! ## §2. What a document asks for. -/

/-- Some inclusion directive names the standard file. -/
def IncludesStandard (root : Markup.Element) : Prop :=
  ∃ e ∈ root.descendants, isDirective e = true ∧
    ∃ href, e.value? "href" = some href ∧ standardFileName.toList <:+: href.toList

/-- Some suite defines or extends an application class, in any letter case. -/
def DefinesApplication (suites : List Suite) : Prop :=
  ∃ s ∈ suites, (∃ cls ∈ s.classes, Text.lower cls.name = "application") ∨
    ∃ e ∈ s.extensions, Text.lower e.target = "application"

/-- The standard file can be loaded, and these are its suites. -/
def Holds (files : FileSystem) (settings : Settings) (standard : List Suite) : Prop :=
  ∃ content root, files.read settings.standard = .ok content ∧ Markup.read? content = some root ∧
    standard = suitesOf settings.includeHidden root

/-- The classes of some suites. -/
def classesOf (suites : List Suite) : List Dictionary.Class :=
  suites.flatMap Suite.classes

/-- The enumerations of some suites. -/
def enumerationsOf (suites : List Suite) : List Enumeration :=
  suites.flatMap Suite.enumerations

theorem includesStandard_iff (root : Markup.Element) :
    IncludesStandard root ↔ (inclusionTargets root).filter leadsToStandard ≠ [] := by
  have hleads : ∀ href, leadsToStandard href = true ↔ standardFileName.toList <:+: href.toList :=
    fun href => Markup.hasMark_iff (by decide) href.toList
  constructor
  · rintro ⟨e, he, hdirective, href, hhref, hname⟩ hnone
    have hne : (!href.isEmpty) = true := by
      by_contra hempty
      have hnil : href = "" := by simpa using hempty
      rw [hnil] at hname
      exact absurd hname (by decide)
    have hmem : href ∈ inclusionTargets root :=
      List.mem_filter.mpr ⟨List.mem_filterMap.mpr ⟨e, List.mem_filter.mpr ⟨he, hdirective⟩, hhref⟩,
        hne⟩
    exact List.filter_eq_nil_iff.mp hnone href hmem ((hleads href).mpr hname)
  · intro hsome
    obtain ⟨href, hhref⟩ := List.exists_mem_of_ne_nil _ hsome
    obtain ⟨hmem, hlead⟩ := List.mem_filter.mp hhref
    obtain ⟨e, he, hvalue⟩ := List.mem_filterMap.mp (List.mem_of_mem_filter hmem)
    obtain ⟨he, hdirective⟩ := List.mem_filter.mp he
    exact ⟨e, he, hdirective, href, hvalue, (hleads href).mp hlead⟩

theorem impliesStandard_iff (suites : List Suite) :
    impliesStandard suites = true ↔ DefinesApplication suites := by
  simp [impliesStandard, namesApplication, DefinesApplication]

/-! ## §3. Loading the standard file. -/

section Loading

variable {files : FileSystem} {settings : Settings}

/-- **The suites of the standard file** are read exactly where it holds them. -/
theorem standardSuites_eq_ok {standard : List Suite} :
    (standardSuites files settings).outcome = .ok standard ↔ Holds files settings standard := by
  have hfile : (standardSuites files settings).outcome
      = ((Document.ofFile files settings.standard).outcome >>= fun document =>
          .ok (suitesOf settings.includeHidden document.root)) := by
    rw [standardSuites, Run.outcome_bind]
    rfl
  rw [hfile, bind_eq_ok]
  constructor
  · rintro ⟨document, hdocument, hsuites⟩
    obtain ⟨content, root, hread, hroot, rfl⟩ := Document.ofFile_eq_ok.mp hdocument
    exact ⟨content, root, hread, hroot, (Except.ok.inj hsuites).symm⟩
  · rintro ⟨content, root, hread, hroot, rfl⟩
    exact ⟨⟨settings.standard.text, root⟩,
      Document.ofFile_eq_ok.mpr ⟨content, root, hread, hroot, rfl⟩, rfl⟩

theorem Holds.unique {standard other : List Suite} (h : Holds files settings standard)
    (ho : Holds files settings other) : standard = other := by
  rw [← standardSuites_eq_ok] at h ho
  exact Except.ok.inj (h.symm.trans ho)

/-- A standard file that can be loaded is there. -/
theorem Holds.hasPath {standard : List Suite} (h : Holds files settings standard) :
    files.hasPath settings.standard = .ok true := by
  obtain ⟨_, _, hread, _⟩ := h
  exact hasPath_of_read hread

end Loading

/-! ## §4. The catalog to start from. -/

/-- The catalog after the standard file was looked for. -/
inductive IsStart (files : FileSystem) (settings : Settings) (root : Markup.Element) :
    Catalog → Prop where
  /-- The standard definitions are not included. -/
  | unincluded (h : ¬ IncludesStandard root) : IsStart files settings root {}
  /-- They are included, but the file cannot be loaded. -/
  | missed (h : IncludesStandard root) (hmissed : ∀ standard, ¬ Holds files settings standard) :
      IsStart files settings root (withBuiltIn {})
  /-- They are included and loaded. -/
  | loaded {standard : List Suite} (h : IncludesStandard root)
      (hloaded : Holds files settings standard) :
      IsStart files settings root (withStandard {} settings standard)

/-- A catalog with the built-in definitions if it has no class and the suites ask for one. -/
def completed (suites : List Suite) (c : Catalog) : Catalog :=
  if c.isEmpty && impliesStandard suites then c.withBuiltIn else c

section Starting

variable {files : FileSystem} {settings : Settings} {root : Markup.Element}

theorem outcome_loadStandard_of_error {e : FileSystem.PathError}
    (h : files.hasPath settings.standard = .error e) (c : Catalog) :
    (loadStandard files settings c).outcome = .error (.unusable e) := by
  rw [loadStandard, h]
  rfl

/-- **Where the standard file can be looked for**, the catalog is one to start from. -/
theorem exists_start_of_hasPath {present : Bool}
    (h : files.hasPath settings.standard = .ok present) (hincludes : IncludesStandard root) :
    ∃ start, IsStart files settings root start ∧
      (loadStandard files settings {}).outcome = .ok start := by
  have hpresent : (Run.ofExcept ((files.hasPath settings.standard).mapError .unusable) :
      Run LoadError Bool).outcome = .ok present := by
    rw [h]
    rfl
  unfold loadStandard
  rw [Run.outcome_bind, hpresent, ok_bind]
  cases present with
  | false =>
    -- What is not there cannot be loaded.
    refine ⟨_, .missed hincludes fun standard hs => ?_, rfl⟩
    exact absurd (h.symm.trans hs.hasPath) (by simp)
  | true =>
    cases hsuites : (standardSuites files settings).outcome with
    | error e =>
      refine ⟨withBuiltIn {}, .missed hincludes fun standard hs => ?_, ?_⟩
      · rw [standardSuites_eq_ok.mpr hs] at hsuites
        exact absurd hsuites (by simp)
      · simp only [Bool.not_true, Bool.false_eq_true, if_false, Run.outcome_bind,
          Run.outcome_attempt, hsuites, ok_bind]
        rfl
    | ok standard =>
      refine ⟨withStandard {} settings standard, .loaded hincludes (standardSuites_eq_ok.mp hsuites),
        ?_⟩
      simp only [Bool.not_true, Bool.false_eq_true, if_false, Run.outcome_bind,
        Run.outcome_attempt, hsuites, ok_bind]
      rfl

/-- **The catalog of a document** is the one to start from, completed. -/
theorem outcome_resolve (files : FileSystem) (settings : Settings) (root : Markup.Element)
    (suites : List Suite) :
    (resolve files settings root suites).outcome
      = ((if (inclusionTargets root).filter leadsToStandard = [] then .ok {}
          else (loadStandard files settings {}).outcome).map (completed suites)) := by
  unfold resolve
  extract_lets finish
  have hfinish : ∀ c, (finish c).outcome = .ok (completed suites c) := by
    intro c
    simp only [finish, completed]
    split
    next => rfl
    next => rfl
  split
  next hnone =>
    rw [hnone, if_pos rfl, Run.outcome_bind]
    exact hfinish {}
  next href hrefs hsome =>
    rw [hsome, if_neg (List.cons_ne_nil href hrefs), Run.outcome_bind, Run.outcome_record, ok_bind,
      Run.outcome_bind]
    cases (loadStandard files settings {}).outcome with
    | error e => rfl
    | ok c => exact hfinish c

theorem outcome_resolve_of_error (hincludes : IncludesStandard root) {e : FileSystem.PathError}
    (h : files.hasPath settings.standard = .error e) (suites : List Suite) :
    (resolve files settings root suites).outcome = .error (.unusable e) := by
  rw [outcome_resolve, if_neg ((includesStandard_iff root).mp hincludes),
    outcome_loadStandard_of_error h]
  rfl

/-- Either the catalog is completed from one to start from, or it cannot even be asked whether the
file of the standard definitions is there. -/
theorem resolve_cases (files : FileSystem) (settings : Settings) (root : Markup.Element)
    (suites : List Suite) :
    (∃ start, IsStart files settings root start ∧
        (resolve files settings root suites).outcome = .ok (completed suites start)) ∨
      IncludesStandard root ∧ ∃ e, files.hasPath settings.standard = .error e := by
  rw [outcome_resolve]
  by_cases hincludes : IncludesStandard root
  · rw [if_neg ((includesStandard_iff root).mp hincludes)]
    cases hpath : files.hasPath settings.standard with
    | error e => exact .inr ⟨hincludes, e, rfl⟩
    | ok present =>
      obtain ⟨start, hstart, hload⟩ := exists_start_of_hasPath hpath hincludes
      rw [hload]
      exact .inl ⟨start, hstart, rfl⟩
  · rw [if_pos (not_not.mp (mt (includesStandard_iff root).mpr hincludes))]
    exact .inl ⟨{}, .unincluded hincludes, rfl⟩

/-- A catalog that is found was completed from one to start from. -/
theorem exists_start_of_resolve {suites : List Suite} {c : Catalog}
    (h : (resolve files settings root suites).outcome = .ok c) :
    ∃ start, IsStart files settings root start ∧ c = completed suites start := by
  rcases resolve_cases files settings root suites with
    ⟨start, hstart, hresolve⟩ | ⟨hincludes, e, hpath⟩
  · exact ⟨start, hstart, Except.ok.inj (h.symm.trans hresolve)⟩
  · rw [outcome_resolve_of_error hincludes hpath] at h
    exact absurd h (by simp)

/-- **There is no catalog** exactly where the document includes the standard definitions and it
cannot be asked whether their file is there. -/
theorem resolve_fails_iff {suites : List Suite} :
    (∃ e, (resolve files settings root suites).outcome = .error e) ↔
      IncludesStandard root ∧ ∃ e, files.hasPath settings.standard = .error e := by
  constructor
  · rintro ⟨e, h⟩
    refine (resolve_cases files settings root suites).resolve_left ?_
    rintro ⟨start, -, hresolve⟩
    exact absurd (h.symm.trans hresolve) (by simp)
  · rintro ⟨hincludes, e, hpath⟩
    exact ⟨_, outcome_resolve_of_error hincludes hpath suites⟩

end Starting

/-! ## §5. What the catalog holds. -/

section Holding

variable {files : FileSystem} {settings : Settings} {root : Markup.Element} {c : Catalog}

/-- The standard definitions are included, but their file cannot be loaded. -/
def Misses (files : FileSystem) (settings : Settings) (root : Markup.Element) : Prop :=
  IncludesStandard root ∧ ∀ standard, ¬ Holds files settings standard

/-- The standard definitions are included, and these are the suites of their file. -/
def Loads (files : FileSystem) (settings : Settings) (root : Markup.Element)
    (standard : List Suite) : Prop :=
  IncludesStandard root ∧ Holds files settings standard

theorem Loads.not_misses {standard : List Suite} (h : Loads files settings root standard) :
    ¬ Misses files settings root :=
  fun hmisses => hmisses.2 standard h.2

/-- Suites add their classes and their enumerations, and nothing else. -/
theorem addSuites_eq (c : Catalog) (suites : List Suite) :
    c.addSuites suites
      = { c with
          classes := c.classes.putAll ((classesOf suites).map fun cls => (cls.name, cls))
          enumerations := c.enumerations.putAll
            ((enumerationsOf suites).map fun e => (e.name, e)) } := by
  induction suites generalizing c with
  | nil => rfl
  | cons s suites ih =>
    have hclasses : classesOf (s :: suites) = s.classes ++ classesOf suites := List.flatMap_cons
    have henumerations : enumerationsOf (s :: suites) = s.enumerations ++ enumerationsOf suites :=
      List.flatMap_cons
    show (c.addSuite s).addSuites suites = _
    rw [ih, hclasses, henumerations, List.map_append, List.map_append, OrderedMap.putAll_append,
      OrderedMap.putAll_append]
    rfl

/-- The definitions of the standard file stand under their names. -/
theorem indexes_withStandard (settings : Settings) (standard : List Suite) :
    (withStandard {} settings standard).classes.Indexes Dictionary.Class.name
        (classesOf standard) ∧
      (withStandard {} settings standard).enumerations.Indexes Enumeration.name
        (enumerationsOf standard) := by
  rw [withStandard, addSuites_eq]
  exact ⟨OrderedMap.indexes_putAll _ _, OrderedMap.indexes_putAll _ _⟩

theorem classes_withBuiltIn_ne_nil (c : Catalog) : c.withBuiltIn.classes ≠ [] :=
  OrderedMap.put_ne_nil ((c.classes.put "window" windowClass).put "document" documentClass)
    "application" applicationClass

/-- A catalog to start from has no class if nothing was missed and no class was loaded. -/
theorem IsStart.classes_eq_nil_iff (h : IsStart files settings root c) :
    c.classes = [] ↔ ¬ Misses files settings root ∧
      ∀ standard, Loads files settings root standard → classesOf standard = [] := by
  cases h with
  | unincluded h =>
    exact iff_of_true rfl ⟨fun hmisses => h hmisses.1, fun _ hloads => absurd hloads.1 h⟩
  | missed h hmissed =>
    exact iff_of_false (classes_withBuiltIn_ne_nil {}) (fun hnot => hnot.1 ⟨h, hmissed⟩)
  | @loaded standard h hloaded =>
    -- The file holds no other suites, so what is true of these is true of all.
    have hloads : Loads files settings root standard := ⟨h, hloaded⟩
    rw [(indexes_withStandard settings standard).1.eq_nil_iff]
    constructor
    · intro hnone
      exact ⟨hloads.not_misses, fun other hother => hother.2.unique hloaded ▸ hnone⟩
    · exact fun hall => hall.2 standard hloads

/-- It uses the built-in definitions if the standard ones were missed. -/
theorem IsStart.usesFallback_iff (h : IsStart files settings root c) :
    c.usesFallback = true ↔ Misses files settings root := by
  cases h with
  | unincluded h => exact iff_of_false (by simp) (fun hmisses => h hmisses.1)
  | missed h hmissed => exact iff_of_true rfl ⟨h, hmissed⟩
  | @loaded standard h hloaded =>
    rw [withStandard, addSuites_eq]
    exact iff_of_false (by simp) (Loads.not_misses ⟨h, hloaded⟩)

/-- It keeps track of what was loaded, if that is asked for. -/
theorem IsStart.mem_inclusions_iff (h : IsStart files settings root c)
    (inclusion : Inclusion Dictionary) :
    inclusion ∈ c.inclusions ↔ settings.trackInclusions = true ∧
      ∃ standard, Loads files settings root standard ∧
        inclusion = ⟨standardAddress, standardBasename, { suites := standard }⟩ := by
  cases h with
  | unincluded h =>
    exact iff_of_false List.not_mem_nil (fun ⟨_, standard, hloads, _⟩ => h hloads.1)
  | missed h hmissed =>
    exact iff_of_false List.not_mem_nil (fun ⟨_, standard, hloads, _⟩ => hmissed standard hloads.2)
  | @loaded standard h hloaded =>
    have hinclusions : (withStandard {} settings standard).inclusions
        = if settings.trackInclusions then
            [⟨standardAddress, standardBasename, { suites := standard }⟩] else [] := rfl
    rw [hinclusions]
    split
    next htrack =>
      rw [List.mem_singleton]
      constructor
      · exact fun heq => ⟨htrack, standard, ⟨h, hloaded⟩, heq⟩
      · rintro ⟨-, other, hother, rfl⟩
        rw [hother.2.unique hloaded]
    next htrack => exact iff_of_false List.not_mem_nil (fun hall => htrack hall.1)

end Holding

/-! ## §6. The decision. -/

/-- How the catalog for a document with the given root and suites comes about. -/
structure IsDecided (files : FileSystem) (settings : Settings) (root : Markup.Element)
    (suites : List Suite) (c : Catalog) : Prop where
  /-- The built-in definitions are used where the standard file is missed, or where no class was
  loaded and some suite has an application class. -/
  usesFallback : c.usesFallback = true ↔ Misses files settings root ∨
    (∀ standard, Loads files settings root standard → classesOf standard = []) ∧
      DefinesApplication suites
  /-- There are classes where one of these is the case or the standard file has some. -/
  hasClass : c.classes ≠ [] ↔ Misses files settings root ∨ DefinesApplication suites ∨
    ∃ standard, Loads files settings root standard ∧ classesOf standard ≠ []
  /-- Without the built-in definitions there are exactly those of the standard file. -/
  loaded : c.usesFallback = false → ∀ standard, Loads files settings root standard →
    c.classes.Indexes Dictionary.Class.name (classesOf standard) ∧
      c.enumerations.Indexes Enumeration.name (enumerationsOf standard)
  /-- If nothing was loaded, either, there are none. -/
  unloaded : c.usesFallback = false → (∀ standard, ¬ Loads files settings root standard) →
    c.classes = [] ∧ c.enumerations = []
  keyed : c.Keyed
  /-- The standard file is kept track of where it was loaded and that is asked for. -/
  inclusions : ∀ inclusion, inclusion ∈ c.inclusions ↔ settings.trackInclusions = true ∧
    ∃ standard, Loads files settings root standard ∧
      inclusion = ⟨standardAddress, standardBasename, { suites := standard }⟩

section Decided

variable {files : FileSystem} {settings : Settings} {root : Markup.Element} {start : Catalog}

/-- Completing a catalog adds the built-in definitions or nothing. -/
theorem completed_cases (suites : List Suite) (c : Catalog) :
    ((c.classes = [] ∧ DefinesApplication suites) ∧ completed suites c = c.withBuiltIn) ∨
      (¬ (c.classes = [] ∧ DefinesApplication suites) ∧ completed suites c = c) := by
  have hcondition : (c.isEmpty && impliesStandard suites) = true ↔
      c.classes = [] ∧ DefinesApplication suites := by
    rw [Bool.and_eq_true, impliesStandard_iff, isEmpty, List.isEmpty_iff]
  unfold completed
  by_cases h : c.classes = [] ∧ DefinesApplication suites
  · exact .inl ⟨h, if_pos (hcondition.mpr h)⟩
  · exact .inr ⟨h, if_neg (mt hcondition.mp h)⟩

/-- A catalog to start from is keyed. -/
theorem IsStart.keyed (h : IsStart files settings root start) : start.Keyed := by
  cases h with
  | unincluded _ => exact keyed_empty
  | missed _ _ => exact keyed_empty.withBuiltIn
  | @loaded standard _ _ => exact keyed_empty.withStandard settings standard

/-- Without the built-in definitions a catalog to start from is empty or loaded. -/
theorem IsStart.holds_loaded (h : IsStart files settings root start)
    (hfallback : start.usesFallback = false) :
    (∀ standard, Loads files settings root standard →
        start.classes.Indexes Dictionary.Class.name (classesOf standard) ∧
          start.enumerations.Indexes Enumeration.name (enumerationsOf standard)) ∧
      ((∀ standard, ¬ Loads files settings root standard) →
        start.classes = [] ∧ start.enumerations = []) := by
  cases h with
  | unincluded h => exact ⟨fun _ hloads => absurd hloads.1 h, fun _ => ⟨rfl, rfl⟩⟩
  | missed _ _ => exact absurd hfallback (by simp [withBuiltIn])
  | @loaded standard h hloaded =>
    refine ⟨fun other hother => ?_, fun hnone => absurd ⟨h, hloaded⟩ (hnone standard)⟩
    rw [hother.2.unique hloaded]
    exact indexes_withStandard settings standard

/-- A catalog without classes that the built-in definitions are added to is decided. -/
theorem IsStart.isDecided_withBuiltIn {suites : List Suite} (h : IsStart files settings root start)
    (hnil : start.classes = []) (happlication : DefinesApplication suites) :
    IsDecided files settings root suites start.withBuiltIn where
  usesFallback := iff_of_true rfl (.inr ⟨(h.classes_eq_nil_iff.mp hnil).2, happlication⟩)
  hasClass := iff_of_true (classes_withBuiltIn_ne_nil start) (.inr (.inl happlication))
  loaded hfallback := absurd hfallback (by simp [withBuiltIn])
  unloaded hfallback := absurd hfallback (by simp [withBuiltIn])
  keyed := h.keyed.withBuiltIn
  inclusions := h.mem_inclusions_iff

/-- A catalog that has classes, or of which none is asked, is decided as it is. -/
theorem IsStart.isDecided_self {suites : List Suite} (h : IsStart files settings root start)
    (hnot : ¬ (start.classes = [] ∧ DefinesApplication suites)) :
    IsDecided files settings root suites start where
  usesFallback := by
    rw [h.usesFallback_iff]
    refine ⟨.inl, fun hor => ?_⟩
    by_contra hmisses
    obtain ⟨hall, happlication⟩ := hor.resolve_left hmisses
    exact hnot ⟨h.classes_eq_nil_iff.mpr ⟨hmisses, hall⟩, happlication⟩
  hasClass := by
    constructor
    · intro hne
      by_contra hneither
      obtain ⟨hmisses, hrest⟩ := not_or.mp hneither
      obtain ⟨-, hnone⟩ := not_or.mp hrest
      refine hne (h.classes_eq_nil_iff.mpr ⟨hmisses, fun standard hloads => ?_⟩)
      by_contra hclasses
      exact hnone ⟨standard, hloads, hclasses⟩
    · rintro hor hnil
      obtain ⟨hmisses, hall⟩ := h.classes_eq_nil_iff.mp hnil
      rcases hor with hmissed | happlication | ⟨standard, hloads, hclasses⟩
      · exact hmisses hmissed
      · exact hnot ⟨hnil, happlication⟩
      · exact hclasses (hall standard hloads)
  loaded hfallback := (h.holds_loaded hfallback).1
  unloaded hfallback := (h.holds_loaded hfallback).2
  keyed := h.keyed
  inclusions := h.mem_inclusions_iff

end Decided

/-- **How the catalog of a document is decided.**  There is none exactly where the document
includes the standard definitions and it cannot be asked whether their file is there, because its
path is too long or leads through a directory that is barred; otherwise it is made of the standard
file and the built-in definitions as described. -/
theorem resolve_isDecided (files : FileSystem) (settings : Settings) (root : Markup.Element)
    (suites : List Suite) :
    ((∃ e, (resolve files settings root suites).outcome = .error e) ↔
      IncludesStandard root ∧
        ∃ e, files.hasPath settings.standard = .error e ∧
          (e.fault = .tooLong ∨ e.fault = .denied)) ∧
    ∀ c, (resolve files settings root suites).outcome = .ok c →
      IsDecided files settings root suites c := by
  constructor
  · rw [resolve_fails_iff]
    refine and_congr_right fun _ => exists_congr fun e => ?_
    exact ⟨fun h => ⟨h, FileSystem.preventsAsking_iff.mp (preventsAsking_of_hasPath h)⟩,
      fun h => h.1⟩
  · intro c h
    obtain ⟨start, hstart, rfl⟩ := exists_start_of_resolve h
    rcases completed_cases suites start with ⟨⟨hnil, happlication⟩, heq⟩ | ⟨hnot, heq⟩
    · rw [heq]
      exact hstart.isDecided_withBuiltIn hnil happlication
    · rw [heq]
      exact hstart.isDecided_self hnot

/-- A document that includes the standard definitions. -/
def includingRoot : Markup.Element :=
  .mk (.plain "dictionary") []
    [.mk ⟨inclusionSpace, "include"⟩ [⟨.plain "href", standardAddress⟩] []]

theorem resolve_isDecided_missing :
    ∃ c, (resolve {} {} includingRoot []).outcome = .ok c ∧
      IsDecided {} {} includingRoot [] c := by
  have hok : (resolve {} {} includingRoot []).outcome.isOk = true := by decide +kernel
  obtain ⟨c, hc⟩ := exists_eq_ok_of_isOk hok
  exact ⟨c, hc, (resolve_isDecided {} {} includingRoot []).2 c hc⟩

theorem includesStandard_includingRoot : IncludesStandard includingRoot := by
  have htargets : inclusionTargets includingRoot = [standardAddress] := by decide +kernel
  rw [includesStandard_iff, htargets]
  decide +kernel

/-- A place for the standard file whose name is too long. -/
def longPlace : Settings where
  standard := ⟨"", [String.ofList (List.replicate 300 'a')]⟩

/-- Files of which none below the root can be reached. -/
def barredRoot : FileSystem where
  terms := { barred := [({ fromRoot := true }, .search)] }

/-- **Resolving can fail**: whether the standard file is there is asked before it is read.  This
question has no answer if the name is too long, or if the way leads through a directory that is
barred. -/
theorem resolve_of_longPlace :
    IncludesStandard includingRoot ∧
      (resolve {} longPlace includingRoot []).outcome
        = .error (.unusable ⟨.tooLong, longPlace.standard⟩) ∧
      (resolve barredRoot {} includingRoot []).outcome
        = .error (.unusable ⟨.denied, .ofString standardPath⟩) := by
  have hlong : ({} : FileSystem).hasPath longPlace.standard
      = .error ⟨.tooLong, longPlace.standard⟩ := by
    refine FileSystem.hasPath_of_step rfl ?_ (by decide +kernel) (by decide +kernel) rfl
    intro h
    obtain ⟨part, hpart, hcontains⟩ := List.any_eq_true.mp h
    rw [List.mem_singleton.mp hpart, String.toList_ofList, List.contains_iff_mem] at hcontains
    exact absurd (List.eq_of_mem_replicate hcontains) (by decide)
  have hbarred : barredRoot.hasPath (.ofString standardPath)
      = .error ⟨.denied, .ofString standardPath⟩ := by
    decide +kernel
  exact ⟨includesStandard_includingRoot,
    outcome_resolve_of_error includesStandard_includingRoot hlong [],
    outcome_resolve_of_error includesStandard_includingRoot hbarred []⟩

end ScriptingBindings.Catalog
