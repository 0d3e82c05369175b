/-
  ScriptingBindings.Proofs.Merge.Content
  ──────────────────────────────────
  **WHAT A MERGED CLASS CONSISTS OF.**

  The members of a merged class come from its sources in order: the standard
  class of exactly its name, the class of the suite, and the extensions whose
  targets are found at its place.  The list of the first source is kept as it
  stands; of every other source the members of new names follow.

  So every member of a source is there by name, no other member is, and of
  several members of one name the earliest counts.
-/
import ScriptingBindings.Proofs.Merge.Shape

namespace ScriptingBindings.Merge

open Dictionary

/-! ## §1. Sources. -/

/-- The members that a class or an extension contributes. -/
structure Members where
  properties : List Property
  elements : List Dictionary.Element
  respondsTo : List String

/-- What a class contributes. -/
def Members.ofClass (cls : Dictionary.Class) : Members :=
  ⟨cls.properties, cls.elements, cls.respondsTo⟩

/-- What an extension contributes. -/
def Members.ofExtension (e : Extension) : Members :=
  ⟨e.properties, e.elements, e.respondsTo⟩

/-- The sources of a merged class of a name: the standard class of exactly that name, the
class of its suite, and the extensions that belong to it. -/
def sources (c : Catalog) (own : Option Dictionary.Class) (es : List Extension) (name : String) :
    List Members :=
  (c.classes.get? name).toList.map .ofClass ++ own.toList.map .ofClass
    ++ es.map .ofExtension

/-- The lists of several sources united: the first one as it stands, then from the others
the first item of each key that the first one lacks. -/
def united {α : Type} (key : α → String) : List (List α) → List α
  | [] => []
  | first :: rest => first ++ firstOfEach key (first.map key) rest.flatten

/-- A class consists of its sources.  Commands are kept at their first places; but a class
that neither the catalog nor an extension touched keeps its list of commands. -/
structure ConsistsOf (sources : List Members) (touched : Bool) (cls : Dictionary.Class) :
    Prop where
  properties : cls.properties = united Property.name (sources.map Members.properties)
  elements : cls.elements = united Element.type (sources.map Members.elements)
  respondsTo : cls.respondsTo
    = if touched then (sources.flatMap Members.respondsTo).eraseDups
      else sources.flatMap Members.respondsTo
  /-- No property is lost or invented, and of one name the earliest counts. -/
  findProperty : ∀ n, cls.properties.find? (fun p => p.name == n)
    = (sources.flatMap Members.properties).find? (fun p => p.name == n)
  /-- No kind of element is lost or invented, and of one type the earliest counts. -/
  findElement : ∀ n, cls.elements.find? (fun e => e.type == n)
    = (sources.flatMap Members.elements).find? (fun e => e.type == n)
  /-- No command is lost or invented. -/
  mem_respondsTo : ∀ n, n ∈ cls.respondsTo ↔ n ∈ sources.flatMap Members.respondsTo

theorem united_cons {α : Type} (key : α → String) (first : List α) (rest : List (List α)) :
    united key (first :: rest) = unionBy key first rest.flatten := by
  rw [unionBy_eq_append]
  rfl

/-- A class consists of the sources that its lists are unions of. -/
theorem ConsistsOf.of_unions (first : Members) (rest : List Members) {touched : Bool}
    {cls : Dictionary.Class}
    (hp : cls.properties
      = unionProperties first.properties (rest.flatMap Members.properties))
    (he : cls.elements = unionElements first.elements (rest.flatMap Members.elements))
    (hr : cls.respondsTo
      = if touched then unionCommands first.respondsTo (rest.flatMap Members.respondsTo)
        else first.respondsTo ++ rest.flatMap Members.respondsTo) :
    ConsistsOf (first :: rest) touched cls where
  properties := by
    rw [hp, List.map_cons, united_cons, ← List.flatMap_def]
    rfl
  elements := by
    rw [he, List.map_cons, united_cons, ← List.flatMap_def]
    rfl
  respondsTo := by
    rw [hr, unionCommands_eq_eraseDups, List.flatMap_cons]
  findProperty n := by
    rw [hp, List.flatMap_cons]
    exact find?_unionBy Property.name _ _ n
  findElement n := by
    rw [he, List.flatMap_cons]
    exact find?_unionBy Element.type _ _ n
  mem_respondsTo n := by
    rw [hr, unionCommands_eq_eraseDups, List.flatMap_cons]
    split
    next => exact List.mem_eraseDups
    next => exact Iff.rfl

/-- A class has a property of the name of each property of its sources. -/
theorem ConsistsOf.exists_property {sources : List Members} {touched : Bool}
    {cls : Dictionary.Class} (h : ConsistsOf sources touched cls) {m : Members}
    (hm : m ∈ sources) {p : Property} (hp : p ∈ m.properties) :
    ∃ q ∈ cls.properties, q.name = p.name := by
  have hmem : p ∈ sources.flatMap Members.properties := List.mem_flatMap.mpr ⟨m, hm, hp⟩
  have hsome : (cls.properties.find? (fun q => q.name == p.name)).isSome = true := by
    rw [h.findProperty, List.find?_isSome]
    exact ⟨p, hmem, beq_self_eq_true p.name⟩
  obtain ⟨q, hq, hname⟩ := List.find?_isSome.mp hsome
  exact ⟨q, hq, eq_of_beq hname⟩

/-! ## §2. Extending a class. -/

/-- A class with several extensions. -/
def extendAll (cls : Dictionary.Class) (es : List Extension) : Dictionary.Class :=
  es.foldl (fun cls e => extend cls e) cls

theorem extendAll_cons (cls : Dictionary.Class) (e : Extension) (es : List Extension) :
    extendAll cls (e :: es) = extendAll (extend cls e) es := rfl

@[simp] theorem name_extendAll (cls : Dictionary.Class) (es : List Extension) :
    (extendAll cls es).name = cls.name := by
  induction es generalizing cls with
  | nil => rfl
  | cons e es ih =>
    rw [extendAll_cons, ih]
    rfl

theorem properties_extendAll (cls : Dictionary.Class) (es : List Extension) :
    (extendAll cls es).properties
      = unionProperties cls.properties (es.flatMap Extension.properties) := by
  induction es generalizing cls with
  | nil => rfl
  | cons e es ih =>
    rw [extendAll_cons, ih, List.flatMap_cons]
    exact (unionBy_append Property.name _ _ _).symm

theorem elements_extendAll (cls : Dictionary.Class) (es : List Extension) :
    (extendAll cls es).elements
      = unionElements cls.elements (es.flatMap Extension.elements) := by
  induction es generalizing cls with
  | nil => rfl
  | cons e es ih =>
    rw [extendAll_cons, ih, List.flatMap_cons]
    exact (unionBy_append Element.type _ _ _).symm

theorem respondsTo_extendAll (cls : Dictionary.Class) (e : Extension) (es : List Extension) :
    (extendAll cls (e :: es)).respondsTo
      = unionCommands cls.respondsTo ((e :: es).flatMap Extension.respondsTo) := by
  induction es generalizing cls e with
  | nil =>
    show unionCommands cls.respondsTo e.respondsTo = _
    simp
  | cons e' es ih =>
    rw [extendAll_cons, ih]
    show unionCommands (unionCommands cls.respondsTo e.respondsTo) _ = _
    rw [unionCommands_append]
    rfl

/-- Commands that are united already take those of any number of extensions. -/
theorem respondsTo_extendAll_of_union {cls : Dictionary.Class} {base extra : List String}
    (h : cls.respondsTo = unionCommands base extra) (es : List Extension) :
    (extendAll cls es).respondsTo
      = unionCommands base (extra ++ es.flatMap Extension.respondsTo) := by
  cases es with
  | nil => rw [List.flatMap_nil, List.append_nil, ← h]; rfl
  | cons e es => rw [respondsTo_extendAll, h, unionCommands_append]

theorem grown_some (c : Catalog) (cls : Dictionary.Class) (es : List Extension) :
    grown c (some cls) es = some (extendAll cls es) := by
  induction es generalizing cls with
  | nil => rfl
  | cons e es ih => exact ih (extend cls e)

theorem grown_none_cons (c : Catalog) (e : Extension) (es : List Extension) :
    grown c none (e :: es) = some (extendAll (created c e) es) :=
  grown_some c (created c e) es

/-! ## §3. The three kinds of merged classes. -/

theorem flatMap_ofExtension {α : Type} (f : Members → List α) (es : List Extension) :
    (es.map Members.ofExtension).flatMap f = es.flatMap (fun e => f (.ofExtension e)) :=
  List.flatMap_map ..

/-- A class of a suite with its standard class and its extensions. -/
theorem consistsOf_kept (c : Catalog) (own : Dictionary.Class) (es : List Extension) :
    ConsistsOf (sources c (some own) es own.name)
      ((c.classes.get? own.name).isSome || !es.isEmpty) (extendAll (withCatalog c own) es) := by
  unfold sources withCatalog
  cases c.classes.get? own.name with
  | some standard =>
    -- The standard class stands first, and its commands are united with all others.
    apply ConsistsOf.of_unions (.ofClass standard) (.ofClass own :: es.map .ofExtension)
    · rw [properties_extendAll, List.flatMap_cons, flatMap_ofExtension]
      exact (unionBy_append Property.name _ _ _).symm
    · rw [elements_extendAll, List.flatMap_cons, flatMap_ofExtension]
      exact (unionBy_append Element.type _ _ _).symm
    · rw [List.flatMap_cons, flatMap_ofExtension]
      exact respondsTo_extendAll_of_union rfl es
  | none =>
    -- The class of the suite stands first; its commands are united only if it is extended.
    apply ConsistsOf.of_unions (.ofClass own) (es.map .ofExtension)
    · rw [properties_extendAll, flatMap_ofExtension]
      rfl
    · rw [elements_extendAll, flatMap_ofExtension]
      rfl
    · rw [flatMap_ofExtension]
      cases es with
      | nil => exact (List.append_nil _).symm
      | cons e es => exact respondsTo_extendAll own e es

/-- A class that an extension made, with the extensions that follow. -/
theorem consistsOf_created (c : Catalog) (e : Extension) (es : List Extension) :
    ConsistsOf (sources c none (e :: es) e.target)
      ((c.classes.get? e.target).isSome || !(e :: es).isEmpty)
      (extendAll (created c e) es) := by
  unfold sources created
  cases c.classes.get? e.target with
  | some standard =>
    apply ConsistsOf.of_unions (.ofClass standard) ((e :: es).map .ofExtension)
    · rw [properties_extendAll, flatMap_ofExtension, List.flatMap_cons]
      exact (unionBy_append Property.name _ _ _).symm
    · rw [elements_extendAll, flatMap_ofExtension, List.flatMap_cons]
      exact (unionBy_append Element.type _ _ _).symm
    · rw [flatMap_ofExtension, List.flatMap_cons]
      exact respondsTo_extendAll_of_union rfl es
  | none =>
    apply ConsistsOf.of_unions (.ofExtension e) (es.map .ofExtension)
    · rw [properties_extendAll, flatMap_ofExtension]
      rfl
    · rw [elements_extendAll, flatMap_ofExtension]
      rfl
    · -- The commands of the first extension are united with none, which drops repetitions.
      have hunited : (ofExtension e).respondsTo = unionCommands e.respondsTo [] := rfl
      rw [flatMap_ofExtension]
      exact respondsTo_extendAll_of_union hunited es

/-- A standard class that nobody defines or extends. -/
theorem consistsOf_standardCopy {c : Catalog} {standard : Dictionary.Class}
    (h : c.classes.get? standard.name = some standard) :
    ConsistsOf (sources c none [] standard.name)
      ((c.classes.get? standard.name).isSome || !([] : List Extension).isEmpty)
      (standardCopy standard) := by
  unfold sources
  rw [h]
  exact ConsistsOf.of_unions (.ofClass standard) [] rfl rfl rfl

/-! ## §4. The content of a merge. -/

/-- The extensions of a suite `s` whose targets are found, as the first match in any letter
case, at a place of the merged suite `t`. -/
def extensionsAt (s t : Suite) (i : Nat) : List Extension :=
  s.extensions.filter (fun e => findClass? t.classes e.target == some i)

/-- What the classes of a merged suite `t` consist of, where `s` is the suite it comes from.
The classes that the suite keeps come first, so those are the places with a class of the
suite among their sources. -/
def HasMergedContent (c : Catalog) (suites : List Suite) (s t : Suite) : Prop :=
  ∀ i cls, t.classes[i]? = some cls →
    ConsistsOf (sources c (keptClasses suites s)[i]? (extensionsAt s t i) cls.name)
      ((c.classes.get? cls.name).isSome || !(extensionsAt s t i).isEmpty) cls

variable {c : Catalog}

/-- Every extension of a suite belongs to one of the classes that the suite has before
standard classes are added. -/
theorem findClass?_mergedForm (hc : c.classes.Keyed Dictionary.Class.name)
    (suites : List Suite) {s : Suite} {e : Extension} (he : e ∈ s.extensions) :
    ∃ i, findClass? (foldedClasses c suites s) e.target = some i
      ∧ findClass? (mergedForm c suites s).classes e.target = some i := by
  obtain ⟨i, hi⟩ := exists_findClass?_folded hc ((keptClasses suites s).map (withCatalog c)) he
  exact ⟨i, hi, findClass?_append_of_some _ hi⟩

theorem extensionsAt_mergedForm (hc : c.classes.Keyed Dictionary.Class.name)
    (suites : List Suite) (s : Suite) (i : Nat) :
    extensionsAt s (mergedForm c suites s) i
      = s.extensions.filter
          (fun e => findClass? (foldedClasses c suites s) e.target == some i) := by
  apply List.filter_congr
  intro e he
  obtain ⟨j, hfolded, hmerged⟩ := findClass?_mergedForm hc suites he
  rw [hfolded, hmerged]

/-- The classes that stand before the standard ones grow from those of the suite. -/
theorem getElem?_foldedClasses (hc : c.classes.Keyed Dictionary.Class.name)
    (suites : List Suite) (s : Suite) (i : Nat) :
    (foldedClasses c suites s)[i]? = grown c ((keptClasses suites s)[i]?.map (withCatalog c))
      (extensionsAt s (mergedForm c suites s) i) := by
  rw [extensionsAt_mergedForm hc, ← List.getElem?_map]
  exact getElem?_folded hc s.extensions i

/-- A standard class is no source of any extension, as every target was found before. -/
theorem extensionsAt_eq_nil_of_length_le (hc : c.classes.Keyed Dictionary.Class.name)
    (suites : List Suite) (s : Suite) {i : Nat} (hi : (foldedClasses c suites s).length ≤ i) :
    extensionsAt s (mergedForm c suites s) i = [] := by
  rw [extensionsAt_mergedForm hc, List.filter_eq_nil_iff]
  intro e he hfound
  obtain ⟨j, hj, -⟩ := findClass?_mergedForm hc suites he
  have hlt : j < (foldedClasses c suites s).length := lt_length_of_findClass? hj
  rw [hj] at hfound
  have hplace : j = i := by simpa using hfound
  omega

/-- A class that grows from one of a suite, or from an extension, consists of its sources. -/
theorem consistsOf_grown (hc : c.classes.Keyed Dictionary.Class.name)
    {own : Option Dictionary.Class} {es : List Extension} {cls : Dictionary.Class}
    (h : grown c (own.map (withCatalog c)) es = some cls) :
    ConsistsOf (sources c own es cls.name)
      ((c.classes.get? cls.name).isSome || !es.isEmpty) cls := by
  cases own with
  | some own =>
    rw [Option.map_some, grown_some, Option.some.injEq] at h
    subst h
    rw [name_extendAll, name_withCatalog]
    exact consistsOf_kept c own es
  | none =>
    cases es with
    | nil => exact absurd h (by simp [grown])
    | cons e es =>
      rw [Option.map_none, grown_none_cons, Option.some.injEq] at h
      subst h
      rw [name_extendAll, name_created hc]
      exact consistsOf_created c e es

theorem hasMergedContent_mergedForm (hc : c.classes.Keyed Dictionary.Class.name)
    (suites : List Suite) (s : Suite) :
    HasMergedContent c suites s (mergedForm c suites s) := by
  intro i cls hcls
  have hat := getElem?_foldedClasses hc suites s i
  have hall : (foldedClasses c suites s ++ residualClasses c suites)[i]? = some cls := hcls
  rcases Nat.lt_or_ge i (foldedClasses c suites s).length with hi | hi
  · rw [List.getElem?_append_left hi, hat] at hall
    exact consistsOf_grown hc hall
  · rw [List.getElem?_append_right hi] at hall
    have hes := extensionsAt_eq_nil_of_length_le hc suites s hi
    have hown : (keptClasses suites s)[i]? = none := by
      rw [hes, List.getElem?_eq_none hi] at hat
      cases h : (keptClasses suites s)[i]? with
      | none => rfl
      | some own => rw [h] at hat; exact absurd hat (by simp [grown])
    obtain ⟨entry, hentry, rfl⟩ := List.mem_map.mp (List.mem_of_getElem? hall)
    have hentry := List.mem_of_mem_filter hentry
    rw [hes, hown]
    have hget : c.classes.get? entry.2.name = some entry.2 := by
      rw [hc.named entry hentry]
      exact hc.get?_of_mem hentry
    exact consistsOf_standardCopy hget

/-- **Every class of a merged dictionary consists of its sources.** -/
theorem merge_hasMergedContent (d : Dictionary) (c : Catalog)
    (hc : c.classes.Keyed Dictionary.Class.name) :
    List.Forall₂ (HasMergedContent c d.suites) d.suites (merge d c).value.suites := by
  rw [suites_merge hc, List.forall₂_map_right_iff, List.forall₂_same]
  exact fun s _ => hasMergedContent_mergedForm hc d.suites s

theorem merge_hasMergedContent_players :
    (Catalog.withBuiltIn {}).classes.Keyed Dictionary.Class.name ∧
      List.Forall₂ (HasMergedContent (Catalog.withBuiltIn {}) playerSuites) playerSuites
        (merge { suites := playerSuites } (Catalog.withBuiltIn {})).value.suites :=
  have hc : (Catalog.withBuiltIn {}).Keyed := Catalog.keyed_empty.withBuiltIn
  ⟨hc.classes,
    merge_hasMergedContent { suites := playerSuites } (Catalog.withBuiltIn {}) hc.classes⟩

end ScriptingBindings.Merge
