/-
  ScriptingBindings.Proofs.Merge.Shape
  ──────────────────────────────────
  **THE SHAPE OF A MERGED DICTIONARY.**

  A merge keeps the suites with their names, codes, descriptions and commands
  and leaves no extension.  The names of the classes of a merged suite are

      keptNames ++ createdNames ++ residualNames

  where the last list is the same for every suite: a class that a suite got
  from its own definitions or extensions is taken in the whole document, so
  the test whether the suite already has a standard class never decides.
-/
import Mathlib.Data.List.Forall2
import ScriptingBindings.Proofs.Merge.Folding

namespace ScriptingBindings.Merge

open Dictionary

/-! ## §1. The stages without their records. -/

/-- A class with the members of the standard class of exactly its name, if there is one. -/
def withCatalog (c : Catalog) (cls : Dictionary.Class) : Dictionary.Class :=
  match c.classes.get? cls.name with
  | some standard => withStandard cls standard
  | none => cls

theorem value_mergedClass (c : Catalog) (suite : String) (cls : Dictionary.Class) :
    (mergedClass c suite cls).value = withCatalog c cls := by
  unfold mergedClass withCatalog
  cases c.classes.get? cls.name <;> rfl

@[simp] theorem name_withCatalog (c : Catalog) (cls : Dictionary.Class) :
    (withCatalog c cls).name = cls.name := by
  unfold withCatalog
  split <;> rfl

/-- The classes of a suite with all its extensions folded in. -/
def foldedClasses (c : Catalog) (suites : List Suite) (s : Suite) : List Dictionary.Class :=
  folded c ((keptClasses suites s).map (withCatalog c)) s.extensions

/-- The standard classes that nobody defines or extends, as they are added to every suite. -/
def residualClasses (c : Catalog) (suites : List Suite) : List Dictionary.Class :=
  (c.classes.filter (fun entry => !isTaken suites entry.1)).map (fun entry => standardCopy entry.2)

/-! ## §2. Names. -/

/-- The targets of the extensions of a suite in order. -/
def targets (s : Suite) : List String :=
  s.extensions.map Extension.target

/-- The names of the classes that a suite keeps: the standard suite gives its application
class up if some other suite has one. -/
def keptNames (suites : List Suite) (s : Suite) : List String :=
  let names := s.classes.map Dictionary.Class.name
  if s.name = standardSuiteName ∧
      ∃ t ∈ suites, t.name ≠ standardSuiteName ∧ applicationName ∈ t.classes.map Class.name then
    names.filter (fun n => n ≠ applicationName)
  else names

/-- The targets that match, in any letter case, neither a kept name nor an earlier target. -/
def createdNames (suites : List Suite) (s : Suite) : List String :=
  firstOfEach Text.lower ((keptNames suites s).map Text.lower) (targets s)

/-- The names of the standard classes that no suite keeps and no extension names exactly. -/
def residualNames (c : Catalog) (suites : List Suite) : List String :=
  c.classes.keys.filter
    (fun n => ∀ s ∈ suites, n ∉ keptNames suites s ∧ n ∉ targets s)

/-- The names of the classes of a merged suite. -/
def mergedNames (c : Catalog) (suites : List Suite) (s : Suite) : List String :=
  keptNames suites s ++ createdNames suites s ++ residualNames c suites

theorem hasApplicationElsewhere_iff (suites : List Suite) :
    hasApplicationElsewhere suites = true ↔
      ∃ t ∈ suites, t.name ≠ standardSuiteName ∧ applicationName ∈ t.classes.map Class.name := by
  simp [hasApplicationElsewhere, Suite.findClass?]

theorem map_name_keptClasses (suites : List Suite) (s : Suite) :
    (keptClasses suites s).map Dictionary.Class.name = keptNames suites s := by
  unfold keptClasses keptNames
  simp only [Bool.and_eq_true, beq_iff_eq, hasApplicationElsewhere_iff]
  split
  next =>
    rw [List.filter_map]
    congr 2
    funext cls
    by_cases h : cls.name = applicationName <;> simp [h]
  next => rfl

theorem keptClasses_subset (suites : List Suite) (s : Suite) :
    keptClasses suites s ⊆ s.classes := by
  unfold keptClasses
  split
  next => exact List.filter_subset_self s.classes
  next => exact fun _ h => h

theorem isTaken_iff (suites : List Suite) (n : String) :
    isTaken suites n = true ↔ ∃ s ∈ suites, n ∈ keptNames suites s ∨ n ∈ targets s := by
  simp only [isTaken, List.any_eq_true, Bool.or_eq_true, beq_iff_eq, targets, List.mem_map,
    ← map_name_keptClasses]

variable {c : Catalog}

/-- The names of a suite's classes with its extensions folded in. -/
theorem map_name_foldedClasses (hc : c.classes.Keyed Dictionary.Class.name)
    (suites : List Suite) (s : Suite) :
    (foldedClasses c suites s).map Dictionary.Class.name
      = keptNames suites s ++ createdNames suites s := by
  unfold foldedClasses
  rw [map_name_folded hc, List.map_map,
    show Dictionary.Class.name ∘ withCatalog c = Dictionary.Class.name from
      funext (name_withCatalog c),
    map_name_keptClasses, unionBy_eq_append]
  rfl

theorem map_name_residualClasses (hc : c.classes.Keyed Dictionary.Class.name)
    (suites : List Suite) :
    (residualClasses c suites).map Dictionary.Class.name = residualNames c suites := by
  unfold residualClasses residualNames
  rw [List.map_map, OrderedMap.keys, List.filter_map]
  have hname : ∀ entry ∈ c.classes.filter (fun entry => !isTaken suites entry.1),
      (Dictionary.Class.name ∘ fun entry => standardCopy entry.2) entry = entry.1 :=
    fun entry he => hc.named entry (List.mem_of_mem_filter he)
  rw [List.map_congr_left hname]
  congr 2
  funext entry
  rw [Bool.eq_iff_iff]
  simp only [Bool.not_eq_true', ← Bool.not_eq_true, isTaken_iff, Function.comp, decide_eq_true_eq]
  constructor
  · intro h s hs
    exact ⟨fun hk => h ⟨s, hs, .inl hk⟩, fun ht => h ⟨s, hs, .inr ht⟩⟩
  · rintro h ⟨s, hs, hk | ht⟩
    · exact (h s hs).1 hk
    · exact (h s hs).2 ht

/-- A class that a suite has after its extensions is taken in the whole document. -/
theorem isTaken_of_mem_foldedClasses (hc : c.classes.Keyed Dictionary.Class.name)
    {suites : List Suite} {s : Suite} (hs : s ∈ suites) {n : String}
    (hn : n ∈ (foldedClasses c suites s).map Dictionary.Class.name) :
    isTaken suites n = true := by
  rw [map_name_foldedClasses hc] at hn
  rw [isTaken_iff]
  rcases List.mem_append.mp hn with hn | hn
  · exact ⟨s, hs, .inl hn⟩
  · exact ⟨s, hs, .inr (mem_of_mem_firstOfEach Text.lower hn).1⟩

/-! ## §3. Merged suites. -/

/-- A suite of a document after the merge. -/
def mergedForm (c : Catalog) (suites : List Suite) (s : Suite) : Suite :=
  { s with
    classes := foldedClasses c suites s ++ residualClasses c suites
    enumerations := mergedEnumerations c s
    extensions := [] }

/-- **A merged suite in closed form.** -/
theorem value_mergedSuite (hc : c.classes.Keyed Dictionary.Class.name) {suites : List Suite}
    {s : Suite} (hs : s ∈ suites) :
    (mergedSuite c (isTaken suites) s (keptClasses suites s)).value = mergedForm c suites s := by
  -- What the suite has is taken, so asking whether it is present changes nothing.
  have hmissing : c.classes.filter (fun entry => !isTaken suites entry.1 &&
        !((foldedClasses c suites s).map Dictionary.Class.name).contains entry.1)
      = c.classes.filter (fun entry => !isTaken suites entry.1) := by
    apply List.filter_congr
    intro entry _
    cases ht : isTaken suites entry.1 with
    | true => rfl
    | false =>
      have habsent : entry.1 ∉ (foldedClasses c suites s).map Dictionary.Class.name :=
        fun hn => absurd (isTaken_of_mem_foldedClasses hc hs hn) (by simp [ht])
      simp [habsent]
  simp only [mergedSuite, addStandard, Logged.value_bind, Logged.value_carry, Logged.value_pure,
    Logged.value_forEach, value_mergedClass]
  show ({ s with
    classes := foldedClasses c suites s ++ (c.classes.filter (fun entry => !isTaken suites entry.1 &&
        !((foldedClasses c suites s).map Dictionary.Class.name).contains entry.1)).map
          (fun entry => standardCopy entry.2)
    enumerations := mergedEnumerations c s
    extensions := [] } : Suite) = _
  rw [hmissing]
  rfl

/-- The suites of a merged dictionary. -/
theorem suites_merge (hc : c.classes.Keyed Dictionary.Class.name) (d : Dictionary) :
    (merge d c).value.suites = d.suites.map (mergedForm c d.suites) := by
  show (Logged.forEach _ d.suites).value = _
  rw [Logged.value_forEach]
  exact List.map_congr_left (fun s hs => value_mergedSuite hc hs)

theorem map_name_mergedForm (hc : c.classes.Keyed Dictionary.Class.name) (suites : List Suite)
    (s : Suite) :
    (mergedForm c suites s).classes.map Dictionary.Class.name = mergedNames c suites s := by
  show (foldedClasses c suites s ++ residualClasses c suites).map Dictionary.Class.name = _
  rw [List.map_append, map_name_foldedClasses hc, map_name_residualClasses hc]
  rfl

/-- The standard enumerations that a suite gets are those whose names it lacks. -/
theorem mergedEnumerations_eq (hc : c.enumerations.Keyed Enumeration.name) (s : Suite) :
    mergedEnumerations c s
      = s.enumerations ++ (c.enumerations.map Prod.snd).filter
          (fun e => e.name ∉ s.enumerations.map Enumeration.name) := by
  unfold mergedEnumerations
  rw [List.filter_map]
  congr 2
  apply List.filter_congr
  intro entry he
  rw [Function.comp, hc.named entry he, Bool.eq_iff_iff]
  simp

/-! ## §4. The shape of a merge. -/

/-- What becomes of a suite `s` of a document: the merged suite `t` differs in its
enumerations, its classes and its lack of extensions only. -/
structure HasMergedShape (c : Catalog) (suites : List Suite) (s t : Suite) : Prop where
  name : t.name = s.name
  code : t.code = s.code
  description : t.description = s.description
  commands : t.commands = s.commands
  extensions : t.extensions = []
  enumerations : t.enumerations
    = s.enumerations ++ (c.enumerations.map Prod.snd).filter
        (fun e => e.name ∉ s.enumerations.map Enumeration.name)
  classes : t.classes.map Dictionary.Class.name
    = keptNames suites s ++ createdNames suites s ++ residualNames c suites

/-- **A merge keeps the suites in order, and each has the merged shape.** -/
theorem merge_hasMergedShape (d : Dictionary) (c : Catalog) (hc : c.Keyed) :
    List.Forall₂ (HasMergedShape c d.suites) d.suites (merge d c).value.suites := by
  rw [suites_merge hc.classes, List.forall₂_map_right_iff, List.forall₂_same]
  intro s _
  exact {
    name := rfl
    code := rfl
    description := rfl
    commands := rfl
    extensions := rfl
    enumerations := mergedEnumerations_eq hc.enumerations s
    classes := map_name_mergedForm hc.classes d.suites s }

/-- Suites in which an application class gives way, and in which an extension matches a
class and another one an earlier extension in a different letter case. -/
def playerSuites : List Suite :=
  [{ name := standardSuiteName, classes := [{ name := applicationName }] },
   { name := "Player Suite"
     classes := [{ name := applicationName }, { name := "Window" }]
     extensions := [{ target := "window" }, { target := "Track" }, { target := "track" }] }]

theorem merge_hasMergedShape_players :
    (Catalog.withBuiltIn {}).Keyed ∧
      List.Forall₂ (HasMergedShape (Catalog.withBuiltIn {}) playerSuites) playerSuites
        (merge { suites := playerSuites } (Catalog.withBuiltIn {})).value.suites ∧
      playerSuites.map (mergedNames (Catalog.withBuiltIn {}) playerSuites)
        = [["document"], ["application", "Window", "Track", "document"]] :=
  have hc : (Catalog.withBuiltIn {}).Keyed := Catalog.keyed_empty.withBuiltIn
  ⟨hc, merge_hasMergedShape { suites := playerSuites } (Catalog.withBuiltIn {}) hc,
    by decide +kernel⟩

end ScriptingBindings.Merge
