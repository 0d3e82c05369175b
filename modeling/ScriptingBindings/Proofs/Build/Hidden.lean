/-
  ScriptingBindings.Proofs.Build.Hidden
  ──────────────────────────────────
  **A DICTIONARY IS BUILT WITHOUT HIDDEN DEFINITIONS.**

  Reading without the hidden definitions is where they are left out; nothing
  after it brings one back.  A suite is shown if none of its definitions is
  hidden, and so is a catalog.  Each way in which a merge makes a class takes
  shown classes, extensions and standard classes to a shown one:

      withStandard   extend   ofExtension   standardCopy

  so one extension keeps the classes of a suite shown, hence all of them do,
  and a dictionary that is merged with a shown catalog is shown.

  Main result:
    * `isShown_ofRoot` — nothing in the suites, the standard classes and the
      inclusions of a built dictionary is hidden, whatever the document and
      the standard file hold.
-/
import ScriptingBindings.Proofs.Build.Stages
import ScriptingBindings.Proofs.Catalog.Keyed
import ScriptingBindings.Proofs.Catalog.Sources
import ScriptingBindings.Proofs.Merge.Shape

namespace ScriptingBindings

/-! ## §1. Shown definitions. -/

namespace Dictionary

/-- No property of a list is hidden. -/
def AreShown (ps : List Property) : Prop :=
  ∀ p ∈ ps, p.isHidden = false

/-- Neither a class nor a property of it is hidden. -/
structure Class.IsShown (c : Class) : Prop where
  notHidden : c.isHidden = false
  properties : AreShown c.properties

/-- No definition of a suite is hidden, and no property of its classes and extensions. -/
structure Suite.IsShown (s : Suite) : Prop where
  classes : ∀ c ∈ s.classes, c.IsShown
  enumerations : ∀ e ∈ s.enumerations, e.isHidden = false
  commands : ∀ c ∈ s.commands, c.isHidden = false
  extensions : ∀ x ∈ s.extensions, AreShown x.properties

/-- What is read of the elements that are kept is not hidden. -/
theorem isHidden_of_mem_kept {α : Type} (isHidden : α → Bool) (read : Markup.Element → α)
    (h : ∀ e, isHidden (read e) = isMarkedHidden e) {es : List Markup.Element} {a : α}
    (ha : a ∈ (es.filter (isKept false)).map read) : isHidden a = false := by
  obtain ⟨e, he, rfl⟩ := List.mem_map.mp ha
  have hkept : isKept false e = true := (List.mem_filter.mp he).2
  rw [h]
  simpa [isKept] using hkept

theorem areShown_propertiesBelow (e : Markup.Element) : AreShown (propertiesBelow false e) :=
  fun _ hp => isHidden_of_mem_kept Property.isHidden Property.ofElement (fun _ => rfl) hp

/-- A suite that is read without hidden definitions is shown. -/
theorem Suite.isShown_ofElement (e : Markup.Element) : (Suite.ofElement false e).IsShown where
  classes := by
    intro c hc
    rcases List.mem_append.mp hc with hc | hc
    · have hhidden := isHidden_of_mem_kept Class.isHidden (Class.ofElement false) (fun _ => rfl) hc
      obtain ⟨x, -, rfl⟩ := List.mem_map.mp hc
      exact ⟨hhidden, areShown_propertiesBelow x⟩
    · have hhidden := isHidden_of_mem_kept Class.isHidden (Class.ofRecordType false)
        (fun _ => rfl) hc
      obtain ⟨x, -, rfl⟩ := List.mem_map.mp hc
      exact ⟨hhidden, areShown_propertiesBelow x⟩
  enumerations := fun _ hx =>
    isHidden_of_mem_kept Enumeration.isHidden Enumeration.ofElement (fun _ => rfl) hx
  commands := fun _ hx =>
    isHidden_of_mem_kept Command.isHidden Command.ofElement (fun _ => rfl) hx
  extensions := by
    intro x hx
    obtain ⟨node, -, rfl⟩ := List.mem_map.mp hx
    exact areShown_propertiesBelow node

theorem isShown_of_mem_suitesOf {root : Markup.Element} {s : Suite} (hs : s ∈ suitesOf false root) :
    s.IsShown := by
  obtain ⟨e, -, rfl⟩ := List.mem_map.mp hs
  exact Suite.isShown_ofElement e

end Dictionary

open Dictionary

/-! ## §2. Shown catalogs. -/

namespace Catalog

/-- No standard definition is hidden. -/
structure IsShown (c : Catalog) : Prop where
  classes : ∀ entry ∈ c.classes, entry.2.IsShown
  enumerations : ∀ entry ∈ c.enumerations, entry.2.isHidden = false

theorem isShown_empty : IsShown {} where
  classes := fun _ h => absurd h List.not_mem_nil
  enumerations := fun _ h => absurd h List.not_mem_nil

namespace IsShown

variable {c : Catalog}

theorem addClasses (h : c.IsShown) {classes : List Dictionary.Class}
    (hclasses : ∀ cls ∈ classes, cls.IsShown) : (c.addClasses classes).IsShown where
  classes := by
    intro entry hentry
    rcases OrderedMap.mem_of_mem_putAll hentry with hentry | hentry
    · exact h.classes entry hentry
    · obtain ⟨cls, hcls, rfl⟩ := List.mem_map.mp hentry
      exact hclasses cls hcls
  enumerations := h.enumerations

theorem addEnumerations (h : c.IsShown) {enumerations : List Enumeration}
    (hshown : ∀ e ∈ enumerations, e.isHidden = false) :
    (c.addEnumerations enumerations).IsShown where
  classes := h.classes
  enumerations := by
    intro entry hentry
    rcases OrderedMap.mem_of_mem_putAll hentry with hentry | hentry
    · exact h.enumerations entry hentry
    · obtain ⟨e, he, rfl⟩ := List.mem_map.mp hentry
      exact hshown e he

theorem addSuites (h : c.IsShown) {suites : List Suite} (hsuites : ∀ s ∈ suites, s.IsShown) :
    (c.addSuites suites).IsShown := by
  induction suites generalizing c with
  | nil => exact h
  | cons s suites ih =>
    have hs : s.IsShown := hsuites s List.mem_cons_self
    exact ih ((h.addClasses hs.classes).addEnumerations hs.enumerations)
      fun t ht => hsuites t (List.mem_cons_of_mem s ht)

theorem withBuiltIn (h : c.IsShown) : c.withBuiltIn.IsShown :=
  have hclasses : ∀ cls ∈ builtInClasses, cls.isHidden = false ∧
      ∀ p ∈ cls.properties, p.isHidden = false := by decide
  have henumerations : ∀ e ∈ builtInEnumerations, e.isHidden = false := by decide
  have added := (h.addClasses fun cls hcls =>
    ⟨(hclasses cls hcls).1, (hclasses cls hcls).2⟩).addEnumerations henumerations
  ⟨added.classes, added.enumerations⟩

theorem withStandard (h : c.IsShown) (settings : Settings) {suites : List Suite}
    (hsuites : ∀ s ∈ suites, s.IsShown) : (c.withStandard settings suites).IsShown :=
  have added := h.addSuites hsuites
  ⟨added.classes, added.enumerations⟩

end IsShown

/-- A catalog for which hidden definitions are not asked for is shown. -/
theorem IsMadeFrom.isShown {files : FileSystem} {settings : Settings} {c : Catalog}
    (h : IsMadeFrom files settings c) (hsettings : settings.includeHidden = false) : c.IsShown := by
  induction h with
  | nothing => exact isShown_empty
  | standard hread =>
    obtain ⟨root, rfl⟩ := exists_root_of_standardSuites hread
    rw [hsettings]
    exact isShown_empty.withStandard settings fun s hs => isShown_of_mem_suitesOf hs
  | builtIn _ ih => exact ih.withBuiltIn

end Catalog

/-! ## §3. Merging. -/

namespace Merge

theorem mem_of_mem_unionBy {α : Type} {key : α → String} {base extra : List α} {a : α}
    (h : a ∈ unionBy key base extra) : a ∈ base ∨ a ∈ extra := by
  rw [unionBy_eq_append] at h
  exact (List.mem_append.mp h).imp_right fun h => (mem_of_mem_firstOfEach key h).1

theorem areShown_unionProperties {base extra : List Property} (hbase : AreShown base)
    (hextra : AreShown extra) : AreShown (unionProperties base extra) :=
  fun p hp => (mem_of_mem_unionBy hp).elim (hbase p) (hextra p)

variable {c : Catalog} {cls standard : Dictionary.Class} {x : Extension}

theorem isShown_withStandard (hcls : cls.IsShown) (hstandard : standard.IsShown) :
    (withStandard cls standard).IsShown :=
  ⟨hcls.notHidden, areShown_unionProperties hstandard.properties hcls.properties⟩

theorem isShown_extend (hcls : cls.IsShown) (hx : AreShown x.properties) (describes : Bool) :
    (extend cls x describes).IsShown :=
  ⟨hcls.notHidden, areShown_unionProperties hcls.properties hx⟩

theorem isShown_ofExtension (hx : AreShown x.properties) : (ofExtension x).IsShown := ⟨rfl, hx⟩

theorem isShown_standardCopy (h : standard.IsShown) : (standardCopy standard).IsShown :=
  ⟨h.notHidden, h.properties⟩

theorem isShown_withCatalog (hc : c.IsShown) (hcls : cls.IsShown) :
    (withCatalog c cls).IsShown := by
  unfold withCatalog
  split
  next standard hget =>
    exact isShown_withStandard hcls (hc.classes _ (OrderedMap.mem_of_get? hget))
  next => exact hcls

theorem isShown_created (hc : c.IsShown) (hx : AreShown x.properties) : (created c x).IsShown := by
  unfold created
  split
  next standard hget =>
    exact isShown_extend (hc.classes _ (OrderedMap.mem_of_get? hget)) hx false
  next => exact isShown_ofExtension hx

/-- One extension keeps the classes of a suite shown. -/
theorem isShown_foldExtension (hc : c.IsShown) {classes : List Dictionary.Class}
    (hclasses : ∀ cls ∈ classes, cls.IsShown) (hx : AreShown x.properties) :
    ∀ cls ∈ (foldExtension c classes x).value, cls.IsShown := by
  rw [value_foldExtension]
  intro cls hcls
  split at hcls
  next i _ =>
    -- The class at the place of the match is extended, the others are as they were.
    obtain ⟨j, hj⟩ := List.mem_iff_getElem?.mp hcls
    rw [List.getElem?_modify] at hj
    obtain ⟨old, hold, rfl⟩ := Option.map_eq_some_iff.mp hj
    have hshown : old.IsShown := hclasses old (List.mem_of_getElem? hold)
    split
    next => exact isShown_extend hshown hx true
    next => exact hshown
  next =>
    rcases List.mem_append.mp hcls with hcls | hcls
    · exact hclasses cls hcls
    · rw [List.mem_singleton.mp hcls]
      exact isShown_created hc hx

/-- All extensions do. -/
theorem isShown_folded (hc : c.IsShown) {classes : List Dictionary.Class} {xs : List Extension}
    (hclasses : ∀ cls ∈ classes, cls.IsShown) (hxs : ∀ x ∈ xs, AreShown x.properties) :
    ∀ cls ∈ folded c classes xs, cls.IsShown := by
  induction xs generalizing classes with
  | nil => exact hclasses
  | cons x xs ih =>
    rw [folded_cons]
    exact ih (isShown_foldExtension hc hclasses (hxs x List.mem_cons_self))
      fun y hy => hxs y (List.mem_cons_of_mem x hy)

/-- A shown suite that is merged with a shown catalog stays shown. -/
theorem isShown_mergedForm (hc : c.IsShown) (suites : List Suite) {s : Suite} (hs : s.IsShown) :
    (mergedForm c suites s).IsShown where
  classes := by
    intro cls hcls
    rcases List.mem_append.mp hcls with hcls | hcls
    · refine isShown_folded hc ?_ hs.extensions cls hcls
      intro cls hcls
      obtain ⟨own, hown, rfl⟩ := List.mem_map.mp hcls
      exact isShown_withCatalog hc (hs.classes own (keptClasses_subset suites s hown))
    · obtain ⟨entry, hentry, rfl⟩ := List.mem_map.mp hcls
      exact isShown_standardCopy (hc.classes entry (List.mem_of_mem_filter hentry))
  enumerations := by
    intro e he
    rcases List.mem_append.mp he with he | he
    · exact hs.enumerations e he
    · obtain ⟨entry, hentry, rfl⟩ := List.mem_map.mp he
      exact hc.enumerations entry (List.mem_of_mem_filter hentry)
  commands := hs.commands
  extensions := fun _ h => absurd h List.not_mem_nil

/-- A merge with a shown catalog brings nothing hidden into the suites of a dictionary. -/
theorem isShown_merge {d : Dictionary} (hkeyed : c.Keyed) (hc : c.IsShown)
    (hd : ∀ s ∈ d.suites, s.IsShown) : ∀ s ∈ (merge d c).value.suites, s.IsShown := by
  rw [suites_merge hkeyed.classes]
  intro s hs
  obtain ⟨t, ht, rfl⟩ := List.mem_map.mp hs
  exact isShown_mergedForm hc d.suites (hd t ht)

end Merge

/-! ## §4. Building. -/

/-- No definition is hidden in the suites and the standard classes of a dictionary. -/
structure Dictionary.IsShown (d : Dictionary) : Prop where
  suites : ∀ s ∈ d.suites, s.IsShown
  standardClasses : ∀ entry ∈ d.standardClasses, entry.2.IsShown

/-- **Nothing that is hidden gets into a built dictionary** for which hidden definitions are not
asked for: neither into its suites and its standard classes nor into the dictionaries that it
includes, which include none themselves. -/
theorem isShown_ofRoot {files : FileSystem} {settings : BuildSettings}
    {root : Option Markup.Element} {d : Dictionary} (hsettings : settings.includeHidden = false)
    (h : (Build.ofRoot files settings root).outcome = .ok d) :
    d.IsShown ∧ ∀ i ∈ d.inclusions, i.content.IsShown ∧ i.content.inclusions = [] := by
  obtain ⟨e, place, c, -, hplace, hc, rfl⟩ := Build.ofRoot_eq_ok.mp h
  rw [hsettings] at hc
  have hhidden : place.includeHidden = false := by
    obtain ⟨standard, -, rfl⟩ := Option.map_eq_some_iff.mp hplace
    exact hsettings
  have hmade := Catalog.isMadeFrom_resolve hc
  have hshown : c.IsShown := hmade.isShown hhidden
  rw [hsettings, Build.value_ofSuites]
  refine ⟨⟨?_, hshown.classes⟩, ?_⟩
  · exact Merge.isShown_merge (d := { suites := suitesOf false e }) (Catalog.keyed_resolve hc) hshown
      fun s hs => isShown_of_mem_suitesOf hs
  · -- An included document is the standard file, merged with an empty catalog.
    intro i hi
    obtain ⟨j, hj, rfl⟩ := List.mem_map.mp hi
    rcases hmade.inclusions_cases with hnone | ⟨-, standard, hone⟩
    · rw [hnone] at hj
      exact absurd hj List.not_mem_nil
    · rw [hone] at hj
      rw [List.mem_singleton.mp hj, hhidden]
      refine ⟨⟨?_, fun _ h => absurd h List.not_mem_nil⟩, rfl⟩
      exact Merge.isShown_merge (d := { suites := suitesOf false standard }) Catalog.keyed_empty
        Catalog.isShown_empty fun s hs => isShown_of_mem_suitesOf hs

/-- An element with plain names. -/
def plainElement (name : String) (attributes : List (String × String))
    (children : List Markup.Element := []) : Markup.Element :=
  .mk (.plain name) (attributes.map fun a => ⟨.plain a.1, a.2⟩) children

/-- A document that includes the standard definitions, with a hidden class, a hidden enumeration
and a hidden property of an extension. -/
def diaryDocument : Markup.Element :=
  plainElement "dictionary" []
    [plainElement "include" [("href", Catalog.standardFileName)],
     plainElement "suite" [("name", "Diary Suite")]
      [plainElement "class" [("name", "lock"), ("hidden", "yes")],
       plainElement "enumeration" [("name", "mood"), ("hidden", "yes")],
       plainElement "class-extension" [("extends", "page")]
        [plainElement "property" [("name", "ink")],
         plainElement "property" [("name", "draft"), ("hidden", "yes")]]]]

/-- A standard file with a hidden class and a hidden property. -/
def diaryFiles : FileSystem where
  entries := [(⟨false, ["std.sdef"]⟩, .file (.text
    ("<d><suite name=\"S\"><class name=\"key\" hidden=\"yes\"/>"
      ++ "<class name=\"page\"><property name=\"size\"/><property name=\"owner\" hidden=\"yes\"/>"
      ++ "</class></suite></d>")))]

/-- The names of the classes of a dictionary, each with those of its properties. -/
def memberTable (d : Dictionary) : List (String × List String) :=
  d.classes.map fun c => (c.name, c.properties.map Property.name)

theorem isShown_ofRoot_diary :
    let settings : BuildSettings := { trackInclusions := true, standard := .str "std.sdef" }
    settings.includeHidden = false ∧
      ∃ d, (Build.ofRoot diaryFiles settings (some diaryDocument)).outcome = .ok d ∧
        (d.IsShown ∧ ∀ i ∈ d.inclusions, i.content.IsShown ∧ i.content.inclusions = []) ∧
          memberTable d = [("page", ["size", "ink"])] ∧
            d.inclusions.map (fun i => memberTable i.content) = [[("page", ["size"])]] := by
  have hbuilt : (Build.ofRoot diaryFiles
      { trackInclusions := true, standard := .str "std.sdef" }
      (some diaryDocument)).outcome.toOption.any (fun d =>
        memberTable d = [("page", ["size", "ink"])] ∧
          d.inclusions.map (fun i => memberTable i.content) = [[("page", ["size"])]]) = true := by
    decide +kernel
  obtain ⟨d, hd, htables⟩ := exists_eq_ok_of_any hbuilt
  exact ⟨rfl, d, hd, isShown_ofRoot rfl hd, of_decide_eq_true htables⟩

end ScriptingBindings
