/-
  ScriptingBindings.Proofs.Merge.Idempotence
  ──────────────────────────────────
  **MERGING TWICE.**

  A merged class absorbs its standard class, and a merged suite has every
  standard enumeration, so a second merge can only

    * take the application class away from the standard suite, if the first
      merge gave an application class to some other suite, or
    * add a standard class that the first merge left out, because an extension
      of exactly its name went into a class written in another letter case.

  `merge_merge_iff_settled` says that it changes nothing exactly where neither
  of the two happens.
-/
import ScriptingBindings.Proofs.Merge.Shape

namespace ScriptingBindings.Merge

open Dictionary

/-! ## §1. Absorbing a standard class. -/

theorem or_or_of_or_eq {α : Type} {a b : Option α} (h : a.or b = a) (x : Option α) :
    (a.or x).or b = a.or x := by
  cases a with
  | some _ => rfl
  | none =>
    have hb : b = none := h
    rw [hb, Option.or_none]

/-- A class absorbs a standard one: what the standard class fills in is there already, and
its members stand first. -/
structure Absorbs (standard cls : Dictionary.Class) : Prop where
  code : cls.code.isEmpty = true → cls.code = standard.code
  pluralName : cls.pluralName.or standard.pluralName = cls.pluralName
  description : cls.description.or standard.description = cls.description
  inherits : cls.inherits.or standard.inherits = cls.inherits
  properties : ∃ extra, cls.properties = unionProperties standard.properties extra
  elements : ∃ extra, cls.elements = unionElements standard.elements extra
  respondsTo : ∃ extra, cls.respondsTo = unionCommands standard.respondsTo extra

namespace Absorbs

variable {standard cls : Dictionary.Class}

/-- Merging with an absorbed class changes nothing. -/
theorem withStandard_eq (h : Absorbs standard cls) : withStandard cls standard = cls := by
  obtain ⟨name, code, pluralName, description, inherits, properties, elements, respondsTo,
    isHidden⟩ := cls
  obtain ⟨hcode, hplural, hdescription, hinherits, ⟨ps, hps⟩, ⟨es, hes⟩, ⟨rs, hrs⟩⟩ := h
  simp only at hcode hplural hdescription hinherits hps hes hrs
  have hcode : (if code.isEmpty then standard.code else code) = code := by
    split
    next he => exact (hcode he).symm
    next => rfl
  have hps : unionProperties standard.properties properties = properties := by
    rw [hps]
    exact unionBy_absorb Property.name standard.properties ps
  have hes : unionElements standard.elements elements = elements := by
    rw [hes]
    exact unionBy_absorb Element.type standard.elements es
  have hrs : unionCommands standard.respondsTo respondsTo = respondsTo := by
    rw [hrs]
    exact unionCommands_absorb standard.respondsTo rs
  simp only [withStandard, hcode, hplural, hdescription, hinherits, hps, hes, hrs]

theorem withStandard (cls standard : Dictionary.Class) :
    Absorbs standard (withStandard cls standard) where
  code := by
    show (if cls.code.isEmpty then standard.code else cls.code).isEmpty = true
      → (if cls.code.isEmpty then standard.code else cls.code) = standard.code
    split
    next => exact fun _ => rfl
    next hne => exact fun he => absurd he hne
  pluralName := by
    show (cls.pluralName.or standard.pluralName).or standard.pluralName = _
    rw [Option.or_assoc, Option.or_self]
    rfl
  description := by
    show (cls.description.or standard.description).or standard.description = _
    rw [Option.or_assoc, Option.or_self]
    rfl
  inherits := by
    show (cls.inherits.or standard.inherits).or standard.inherits = _
    rw [Option.or_assoc, Option.or_self]
    rfl
  properties := ⟨cls.properties, rfl⟩
  elements := ⟨cls.elements, rfl⟩
  respondsTo := ⟨cls.respondsTo, rfl⟩

/-- Extensions keep a class absorbing. -/
theorem extend (h : Absorbs standard cls) (e : Extension) (describes : Bool) :
    Absorbs standard (extend cls e describes) where
  code := h.code
  pluralName := h.pluralName
  description := or_or_of_or_eq h.description _
  inherits := h.inherits
  properties := by
    obtain ⟨extra, hx⟩ := h.properties
    refine ⟨extra ++ e.properties, ?_⟩
    show unionProperties cls.properties e.properties = _
    rw [hx]
    exact (unionBy_append Property.name _ _ _).symm
  elements := by
    obtain ⟨extra, hx⟩ := h.elements
    refine ⟨extra ++ e.elements, ?_⟩
    show unionElements cls.elements e.elements = _
    rw [hx]
    exact (unionBy_append Element.type _ _ _).symm
  respondsTo := by
    obtain ⟨extra, hx⟩ := h.respondsTo
    refine ⟨extra ++ e.respondsTo, ?_⟩
    show unionCommands cls.respondsTo e.respondsTo = _
    rw [hx, unionCommands_append]

theorem standardCopy (standard : Dictionary.Class) : Absorbs standard (standardCopy standard) where
  code := fun _ => rfl
  pluralName := Option.or_self
  description := Option.or_self
  inherits := Option.or_self
  properties := ⟨[], rfl⟩
  elements := ⟨[], rfl⟩
  respondsTo := ⟨[], rfl⟩

/-- A standard class with an extension absorbs itself, since it keeps its description. -/
theorem extend_standard (standard : Dictionary.Class) (e : Extension) :
    Absorbs standard (Merge.extend standard e false) where
  code := fun _ => rfl
  pluralName := Option.or_self
  description := or_or_of_or_eq Option.or_self none
  inherits := Option.or_self
  properties := ⟨e.properties, rfl⟩
  elements := ⟨e.elements, rfl⟩
  respondsTo := ⟨e.respondsTo, rfl⟩

end Absorbs

/-! ## §2. Merged classes absorb. -/

/-- A class absorbs the standard class of its name, if there is one. -/
def AbsorbsCatalog (c : Catalog) (cls : Dictionary.Class) : Prop :=
  ∀ standard, c.classes.get? cls.name = some standard → Absorbs standard cls

variable {c : Catalog}

theorem AbsorbsCatalog.withCatalog_eq {cls : Dictionary.Class} (h : AbsorbsCatalog c cls) :
    withCatalog c cls = cls := by
  unfold withCatalog
  split
  next standard hget => exact (h standard hget).withStandard_eq
  next => rfl

theorem absorbsCatalog_withCatalog (c : Catalog) (cls : Dictionary.Class) :
    AbsorbsCatalog c (withCatalog c cls) := by
  intro standard hget
  rw [name_withCatalog] at hget
  simp only [withCatalog, hget]
  exact Absorbs.withStandard cls standard

theorem absorbsCatalog_created (hc : c.classes.Keyed Dictionary.Class.name) (e : Extension) :
    AbsorbsCatalog c (created c e) := by
  intro standard hget
  rw [name_created hc] at hget
  simp only [created, hget]
  exact Absorbs.extend_standard standard e

/-- An extension leaves absorbing classes. -/
theorem absorbsCatalog_foldExtension (hc : c.classes.Keyed Dictionary.Class.name)
    {classes : List Dictionary.Class} (h : ∀ cls ∈ classes, AbsorbsCatalog c cls)
    (e : Extension) : ∀ cls ∈ (foldExtension c classes e).value, AbsorbsCatalog c cls := by
  intro cls hcls
  obtain ⟨i, hi⟩ := List.mem_iff_getElem?.mp hcls
  obtain ⟨j, -, hat⟩ := getElem?_foldExtension hc classes e
  rw [hat] at hi
  split at hi
  next =>
    rw [Option.some.injEq] at hi
    subst hi
    cases hold : classes[i]? with
    | some old =>
      intro standard hget
      exact (h old (List.mem_of_getElem? hold) standard hget).extend e true
    | none => exact absorbsCatalog_created hc e
  next => exact h cls (List.mem_of_getElem? hi)

theorem absorbsCatalog_folded (hc : c.classes.Keyed Dictionary.Class.name)
    {classes : List Dictionary.Class} (h : ∀ cls ∈ classes, AbsorbsCatalog c cls)
    (es : List Extension) : ∀ cls ∈ folded c classes es, AbsorbsCatalog c cls := by
  induction es generalizing classes with
  | nil => exact h
  | cons e es ih => exact ih (absorbsCatalog_foldExtension hc h e)

/-- **Every class of a merged suite absorbs the standard class of its name.** -/
theorem absorbsCatalog_mergedForm (hc : c.classes.Keyed Dictionary.Class.name)
    (suites : List Suite) (s : Suite) :
    ∀ cls ∈ (mergedForm c suites s).classes, AbsorbsCatalog c cls := by
  intro cls hcls
  rcases List.mem_append.mp hcls with hcls | hcls
  · refine absorbsCatalog_folded hc ?_ s.extensions cls hcls
    intro own hown
    obtain ⟨kept, -, rfl⟩ := List.mem_map.mp hown
    exact absorbsCatalog_withCatalog c kept
  · obtain ⟨entry, hentry, rfl⟩ := List.mem_map.mp hcls
    intro standard hget
    have hself : c.classes.get? entry.2.name = some entry.2 := by
      rw [hc.named entry (List.mem_of_mem_filter hentry)]
      exact hc.get?_of_mem (List.mem_of_mem_filter hentry)
    have heq : entry.2 = standard := Option.some.inj (hself.symm.trans hget)
    rw [← heq]
    exact Absorbs.standardCopy entry.2

/-! ## §3. The second merge in closed form. -/

/-- The suites of a document after a merge. -/
def mergedForms (c : Catalog) (suites : List Suite) : List Suite :=
  suites.map (mergedForm c suites)

theorem mergedEnumerations_mergedForm (hc : c.enumerations.Keyed Enumeration.name)
    (suites : List Suite) (s : Suite) :
    mergedEnumerations c (mergedForm c suites s) = (mergedForm c suites s).enumerations := by
  have hnone : (c.enumerations.map Prod.snd).filter
      (fun e => e.name ∉ (mergedForm c suites s).enumerations.map Enumeration.name) = [] := by
    rw [List.filter_eq_nil_iff]
    intro e he
    show ¬ decide (e.name ∉ (mergedEnumerations c s).map Enumeration.name) = true
    rw [decide_eq_true_eq, not_not, mergedEnumerations_eq hc, List.map_append, List.mem_append]
    by_cases hown : e.name ∈ s.enumerations.map Enumeration.name
    · exact .inl hown
    · exact .inr (List.mem_map_of_mem (List.mem_filter.mpr ⟨he, by simpa using hown⟩))
  rw [mergedEnumerations_eq hc, hnone, List.append_nil]

/-- A merged suite after a second merge: of its classes some may go, and some standard
classes may come. -/
theorem mergedForm_mergedForm (hc : c.Keyed) (suites : List Suite) (s : Suite) :
    mergedForm c (mergedForms c suites) (mergedForm c suites s)
      = { mergedForm c suites s with
          classes := keptClasses (mergedForms c suites) (mergedForm c suites s)
            ++ residualClasses c (mergedForms c suites) } := by
  -- There are no extensions left, and every class absorbs its standard class.
  have hfolded : foldedClasses c (mergedForms c suites) (mergedForm c suites s)
      = keptClasses (mergedForms c suites) (mergedForm c suites s) := by
    show (keptClasses (mergedForms c suites) (mergedForm c suites s)).map (withCatalog c) = _
    rw [List.map_congr_left, List.map_id]
    intro cls hcls
    have hmem := keptClasses_subset _ _ hcls
    exact (absorbsCatalog_mergedForm hc.classes suites s cls hmem).withCatalog_eq
  have henumerations := mergedEnumerations_mergedForm hc.enumerations suites s
  show ({ mergedForm c suites s with
    classes := foldedClasses c (mergedForms c suites) (mergedForm c suites s)
      ++ residualClasses c (mergedForms c suites)
    enumerations := mergedEnumerations c (mergedForm c suites s)
    extensions := [] } : Suite) = _
  rw [hfolded, henumerations]
  rfl

/-! ## §4. When a second merge changes nothing. -/

/-- No standard suite shares the application class with a suite of another name, as far as
the names of merged classes tell. -/
def ApplicationStays (c : Catalog) (suites : List Suite) : Prop :=
  ∀ s ∈ suites, ∀ t ∈ suites, s.name = standardSuiteName → t.name ≠ standardSuiteName →
    applicationName ∈ mergedNames c suites s → applicationName ∉ mergedNames c suites t

/-- Each standard class that is extended under its exact name is in some merged suite under
that name. -/
def TargetsStay (c : Catalog) (suites : List Suite) : Prop :=
  ∀ s ∈ suites, ∀ n ∈ targets s, n ∈ c.classes.keys → ∃ t ∈ suites, n ∈ mergedNames c suites t

/-- The conditions under which one merge does all that there is to do. -/
structure Settled (c : Catalog) (suites : List Suite) : Prop where
  application : ApplicationStays c suites
  targets : TargetsStay c suites

theorem mem_map_name_mergedForm (hc : c.classes.Keyed Dictionary.Class.name)
    {suites : List Suite} {s : Suite} {n : String} :
    n ∈ (mergedForm c suites s).classes.map Dictionary.Class.name ↔ n ∈ mergedNames c suites s := by
  rw [map_name_mergedForm hc]

theorem hasApplicationElsewhere_mergedForms (hc : c.classes.Keyed Dictionary.Class.name)
    (suites : List Suite) :
    hasApplicationElsewhere (mergedForms c suites) = true ↔
      ∃ t ∈ suites, t.name ≠ standardSuiteName ∧ applicationName ∈ mergedNames c suites t := by
  rw [hasApplicationElsewhere_iff]
  unfold mergedForms
  constructor
  · rintro ⟨_, ht', hne, happ⟩
    obtain ⟨t, ht, rfl⟩ := List.mem_map.mp ht'
    exact ⟨t, ht, hne, (mem_map_name_mergedForm hc).mp happ⟩
  · rintro ⟨t, ht, hne, happ⟩
    exact ⟨_, List.mem_map_of_mem ht, hne, (mem_map_name_mergedForm hc).mpr happ⟩

/-- Suites of other names than that of the standard suite keep what they have. -/
theorem keptClasses_of_ne (suites : List Suite) (s : Suite) (h : s.name ≠ standardSuiteName) :
    keptClasses suites s = s.classes := by
  have hname : (s.name == standardSuiteName) = false := by simpa using h
  simp [keptClasses, hname]

/-- If the condition on the application holds, a second merge takes nothing away. -/
theorem keptClasses_mergedForms (hc : c.classes.Keyed Dictionary.Class.name)
    {suites : List Suite} (h : ApplicationStays c suites) {s : Suite} (hs : s ∈ suites) :
    keptClasses (mergedForms c suites) (mergedForm c suites s) = (mergedForm c suites s).classes := by
  unfold keptClasses
  split
  next hdrops =>
    rw [Bool.and_eq_true, beq_iff_eq, hasApplicationElsewhere_mergedForms hc] at hdrops
    obtain ⟨hname, t, ht, hne, happ⟩ := hdrops
    apply List.filter_eq_self.mpr
    intro cls hcls
    have hcls := (mem_map_name_mergedForm hc).mp (List.mem_map_of_mem hcls)
    have hother : cls.name ≠ applicationName := by
      intro he
      rw [he] at hcls
      exact h s hs t ht hname hne hcls happ
    simpa using hother
  next => rfl

/-- A name is taken after a merge if and only if it is one of a class that is kept. -/
theorem isTaken_mergedForms (suites : List Suite) (n : String) :
    isTaken (mergedForms c suites) n = true ↔ ∃ s ∈ suites,
      n ∈ (keptClasses (mergedForms c suites) (mergedForm c suites s)).map Class.name := by
  rw [isTaken_iff]
  unfold mergedForms
  constructor
  · rintro ⟨_, hs', hn⟩
    obtain ⟨s, hs, rfl⟩ := List.mem_map.mp hs'
    refine ⟨s, hs, ?_⟩
    rw [map_name_keptClasses]
    exact hn.resolve_right (by simp [targets, mergedForm])
  · rintro ⟨s, hs, hn⟩
    rw [map_name_keptClasses] at hn
    exact ⟨_, List.mem_map_of_mem hs, .inl hn⟩

theorem residualClasses_eq_nil_iff (suites : List Suite) :
    residualClasses c suites = [] ↔ ∀ n ∈ c.classes.keys, isTaken suites n = true := by
  simp [residualClasses, OrderedMap.keys, List.filter_eq_nil_iff]

/-- Where the conditions hold, a second merge adds nothing. -/
theorem residualClasses_mergedForms (hc : c.classes.Keyed Dictionary.Class.name)
    {suites : List Suite} (h : Settled c suites) {s : Suite} (hs : s ∈ suites) :
    residualClasses c (mergedForms c suites) = [] := by
  rw [residualClasses_eq_nil_iff]
  intro n hn
  -- Every standard class is some merged suite's by name; none of them gives it up.
  have hpresent : ∃ t ∈ suites, n ∈ mergedNames c suites t := by
    by_cases htaken : ∃ t ∈ suites, n ∈ keptNames suites t ∨ n ∈ targets t
    · obtain ⟨t, ht, hkept | htarget⟩ := htaken
      · exact ⟨t, ht, by simp [mergedNames, hkept]⟩
      · exact h.targets t ht n htarget hn
    · refine ⟨s, hs, ?_⟩
      have hresidual : n ∈ residualNames c suites := by
        simp only [residualNames, List.mem_filter, decide_eq_true_eq]
        exact ⟨hn, fun t ht => not_or.mp (fun hor => htaken ⟨t, ht, hor⟩)⟩
      exact List.mem_append_right _ hresidual
  obtain ⟨t, ht, hmem⟩ := hpresent
  rw [isTaken_mergedForms]
  refine ⟨t, ht, ?_⟩
  rw [keptClasses_mergedForms hc h.application ht]
  exact (mem_map_name_mergedForm hc).mpr hmem

/-- If a second merge keeps the classes of all suites, the standard suite loses no
application class in it. -/
theorem applicationStays_of_unchanged (hc : c.classes.Keyed Dictionary.Class.name)
    {suites : List Suite} (h : ∀ s ∈ suites,
      keptClasses (mergedForms c suites) (mergedForm c suites s)
        ++ residualClasses c (mergedForms c suites) = (mergedForm c suites s).classes) :
    ApplicationStays c suites := by
  intro s hs t ht hname hne happ happ'
  rw [← map_name_mergedForm hc, ← h s hs, List.map_append] at happ
  rcases List.mem_append.mp happ with hkept | hadded
  · -- The standard suite keeps no application class, as the other suite has one.
    have hdrops : hasApplicationElsewhere (mergedForms c suites) = true :=
      (hasApplicationElsewhere_mergedForms hc suites).mpr ⟨t, ht, hne, happ'⟩
    have hstandard : ((mergedForm c suites s).name == standardSuiteName) = true := by
      rw [beq_iff_eq]
      exact hname
    obtain ⟨cls, hcls, hcn⟩ := List.mem_map.mp hkept
    rw [keptClasses, hdrops, hstandard] at hcls
    simp [hcn] at hcls
  · -- Nor is it added again, as the other suite keeps its own.
    have htaken : isTaken (mergedForms c suites) applicationName = true := by
      rw [isTaken_mergedForms]
      refine ⟨t, ht, ?_⟩
      rw [keptClasses_of_ne (mergedForms c suites) (mergedForm c suites t) hne]
      exact (mem_map_name_mergedForm hc).mpr happ'
    obtain ⟨cls, hcls, hcn⟩ := List.mem_map.mp hadded
    obtain ⟨entry, hentry, rfl⟩ := List.mem_map.mp hcls
    obtain ⟨hentry, huntaken⟩ := List.mem_filter.mp hentry
    rw [← hc.named entry hentry] at huntaken
    have hcn : entry.2.name = applicationName := hcn
    rw [hcn, htaken] at huntaken
    exact absurd huntaken (by decide)

/-- A second merge keeps the classes of all suites exactly where the first one settled. -/
theorem unchanged_iff_settled (hc : c.classes.Keyed Dictionary.Class.name)
    (suites : List Suite) :
    (∀ s ∈ suites, keptClasses (mergedForms c suites) (mergedForm c suites s)
        ++ residualClasses c (mergedForms c suites) = (mergedForm c suites s).classes)
      ↔ Settled c suites := by
  constructor
  · intro h
    -- The application comes first, since it says that no class is given up.
    have happ : ApplicationStays c suites := applicationStays_of_unchanged hc h
    refine ⟨happ, ?_⟩
    intro s hs n _ hkey
    have hnothing : residualClasses c (mergedForms c suites) = [] := by
      have hs' := h s hs
      rwa [keptClasses_mergedForms hc happ hs, List.append_right_eq_self] at hs'
    have htaken := (residualClasses_eq_nil_iff (mergedForms c suites)).mp hnothing n hkey
    obtain ⟨t, ht, hn⟩ := (isTaken_mergedForms suites n).mp htaken
    rw [keptClasses_mergedForms hc happ ht] at hn
    exact ⟨t, ht, (mem_map_name_mergedForm hc).mp hn⟩
  · intro h s hs
    rw [keptClasses_mergedForms hc h.application hs, residualClasses_mergedForms hc h hs,
      List.append_nil]

/-- **A second merge with the same catalog changes no suite if and only if the application
class and the targets of the extensions stay where the first merge left them.** -/
theorem merge_merge_iff_settled (d : Dictionary) (c : Catalog) (hc : c.Keyed) :
    (merge (merge d c).value c).value.suites = (merge d c).value.suites
      ↔ Settled c d.suites := by
  rw [← unchanged_iff_settled hc.classes, suites_merge hc.classes, suites_merge hc.classes]
  show (mergedForms c d.suites).map (mergedForm c (mergedForms c d.suites))
      = mergedForms c d.suites ↔ _
  conv_lhs => unfold mergedForms
  rw [List.map_map, List.map_inj_left]
  show (∀ s ∈ d.suites, mergedForm c (mergedForms c d.suites) (mergedForm c d.suites s)
      = mergedForm c d.suites s) ↔ _
  -- The two forms of a suite can differ in their classes alone.
  constructor
  · intro h s hs
    have hform := h s hs
    rw [mergedForm_mergedForm hc] at hform
    exact congrArg Suite.classes hform
  · intro h s hs
    rw [mergedForm_mergedForm hc, h s hs]

/-- One merge is enough for a suite that extends a standard class and has the application. -/
theorem merge_merge_extended_window :
    (Catalog.withBuiltIn {}).Keyed ∧
      let d : Dictionary := { suites := [{ name := standardSuiteName
                                           classes := [{ name := applicationName }]
                                           extensions := [{ target := "window" }] }] }
      let once := (merge d (Catalog.withBuiltIn {})).value
      (merge once (Catalog.withBuiltIn {})).value.suites = once.suites :=
  have hc : (Catalog.withBuiltIn {}).Keyed := Catalog.keyed_empty.withBuiltIn
  ⟨hc, (merge_merge_iff_settled _ _ hc).mpr
    ⟨by unfold ApplicationStays; decide +kernel, by unfold TargetsStay; decide +kernel⟩⟩

/-- **A second merge can change suites.**  In the first document it takes the application
class away from the standard suite; in the second one it adds `window`, whose extension went
into `Window` before. -/
theorem merge_not_idempotent :
    (Catalog.Keyed {} ∧
      let d : Dictionary := { suites := [{ name := standardSuiteName
                                           classes := [{ name := applicationName }] },
                                         { name := "Player Suite"
                                           extensions := [{ target := applicationName }] }] }
      let once := (merge d {}).value
      (merge once {}).value.suites ≠ once.suites) ∧
    ((Catalog.withBuiltIn {}).Keyed ∧
      let d : Dictionary := { suites := [{ name := "Player Suite"
                                           classes := [{ name := "Window" }]
                                           extensions := [{ target := "window" }] }] }
      let once := (merge d (Catalog.withBuiltIn {})).value
      (merge once (Catalog.withBuiltIn {})).value.suites ≠ once.suites) :=
  ⟨⟨Catalog.keyed_empty, by decide +kernel⟩,
    ⟨Catalog.keyed_empty.withBuiltIn, by decide +kernel⟩⟩

end ScriptingBindings.Merge
