/-
  ScriptingBindings.Proofs.Swift.TopLevel
  ──────────────────────────────────
  **NAMES AT THE TOP LEVEL OF A FILE.**

  The fixed names, the names of enumerations and those of protocols are each
  made so that none comes twice, and aliases keep away from all of them.  Two
  pairs of names are not kept apart: those of an enumeration and of a protocol,
  which are chosen without regard to each other, and those of the application
  and of the function that reaches it, which differ in their first letter only
  if the basename starts with a capital.
-/
import ScriptingBindings.Config.Validation
import ScriptingBindings.Proofs.Swift.Enumerations
import ScriptingBindings.Proofs.Swift.Openings
import ScriptingBindings.Proofs.Swift.Prefixes
import ScriptingBindings.Proofs.Swift.Protocols

namespace ScriptingBindings.Swift

open Dictionary Text

/-! ## §1. Aliases. -/

section Aliases

variable {basename : String} {seen targets : List String}

/-- An alias is what is left of a target without the basename. -/
theorem exists_target_of_mem_declareAliases {a : AliasDeclaration}
    (h : a ∈ declareAliases basename seen targets) :
    a.name ∉ seen ∧ ∃ t ∈ targets, a.name = withoutBasename basename t := by
  induction targets generalizing seen with
  | nil => exact absurd h List.not_mem_nil
  | cons t targets ih =>
    unfold declareAliases at h
    extract_lets name at h
    split at h
    next =>
      obtain ⟨hseen, t', ht', hname⟩ := ih h
      exact ⟨hseen, t', List.mem_cons_of_mem t ht', hname⟩
    next hnew =>
      rcases List.mem_cons.mp h with rfl | h
      · simp only [Bool.or_eq_true, not_or, List.contains_iff_mem] at hnew
        exact ⟨hnew.1.2, t, List.mem_cons_self, rfl⟩
      · obtain ⟨hseen, t', ht', hname⟩ := ih h
        exact ⟨fun hmem => hseen (List.mem_cons_of_mem _ hmem), t', List.mem_cons_of_mem t ht', hname⟩

/-- No alias is declared twice. -/
theorem nodup_declareAliases (basename : String) (seen targets : List String) :
    ((declareAliases basename seen targets).map AliasDeclaration.name).Nodup := by
  induction targets generalizing seen with
  | nil => exact List.nodup_nil
  | cons t targets ih =>
    unfold declareAliases
    extract_lets name
    split
    next => exact ih seen
    next =>
      rw [List.map_cons]
      refine List.nodup_cons.mpr ⟨fun hmem => ?_, ih (name :: seen)⟩
      obtain ⟨a, ha, hname⟩ := List.mem_map.mp hmem
      exact (exists_target_of_mem_declareAliases ha).1 (hname ▸ List.mem_cons_self)

end Aliases

/-! ## §2. Types. -/

/-- The names of the enumerations and of the protocols of a file: each list has no name twice,
and each name is prefixed and no fixed one. -/
structure AreTypeNames (basename : String) (enumerations protocols : List String) : Prop where
  nodup_enumerations : enumerations.Nodup
  nodup_protocols : protocols.Nodup
  isPrefixed : ∀ n ∈ enumerations ++ protocols, IsPrefixed basename n
  not_fixed : ∀ n ∈ enumerations ++ protocols, n ∉ (FixedNames.of basename).all

section Types

variable {o : Options} {names : Names} {basename : String}

/-- The names of declared enumerations are those of the enumerations. -/
theorem map_name_of_declaredEnumerations {enumerations : List Enumeration}
    {es : List EnumerationDeclaration}
    (h : List.Forall₂ (fun e d => (declareEnumeration names e).outcome = .ok d) enumerations es) :
    es.map EnumerationDeclaration.name = enumerations.map names.enumerationOf := by
  induction h with
  | nil => rfl
  | @cons e d enumerations es hd _ ih =>
    have hname : names.enumerationOf e = d.name := by
      rw [Names.enumerationOf, declareEnumeration_eq_ok hd]
      rfl
    rw [List.map_cons, List.map_cons, ih, hname]

section Names

variable {d : Dictionary} {p : Plan} {es : List EnumerationDeclaration}
  {ps : List ProtocolDeclaration} {w : Parts}

/-- The enumerations of a file have the first names, without that of the fixed save options. -/
theorem Contents.map_name_enumerations (hplan : (plan d basename).value = (names, .ok p))
    (h : Contents o names basename p es ps w) :
    es.map EnumerationDeclaration.name
      = (firstOfEach names.enumerationOf [(FixedNames.of basename).saveOptions]
          (valued d.enumerations)).map names.enumerationOf := by
  rw [map_name_of_declaredEnumerations h.enumerations, (enumerations_of_plan hplan).1]

/-- The protocols of a file have the first names of its classes. -/
theorem Contents.map_name_protocols (hplan : (plan d basename).value = (names, .ok p))
    (h : Contents o names basename p es ps w) :
    ps.map ProtocolDeclaration.name = (firstClasses names d.classes).map names.interfaceOf := by
  rw [map_name_of_declared h.protocols, (plan_eq_ok hplan).2.1]

end Names

/-- **The types of a file**: the names of its enumerations and of its protocols, which are those
of the first definitions of each name. -/
theorem Contents.areTypeNames {d : Dictionary} {p : Plan} {es : List EnumerationDeclaration}
    {ps : List ProtocolDeclaration} {w : Parts} (hplan : (plan d basename).value = (names, .ok p))
    (h : Contents o names basename p es ps w) :
    AreTypeNames basename (es.map EnumerationDeclaration.name)
      (ps.map ProtocolDeclaration.name) := by
  obtain ⟨hfor, -, hinterfaces⟩ := plan_eq_ok hplan
  obtain ⟨-, henames⟩ := enumerations_of_plan hplan
  rw [h.map_name_enumerations hplan, h.map_name_protocols hplan]
  -- A name of a definition is one that can be made for it.
  have henumeration : ∀ n ∈ (firstOfEach names.enumerationOf
      [(FixedNames.of basename).saveOptions] (valued d.enumerations)).map names.enumerationOf,
      IsPrefixed basename n ∧ n ∉ (FixedNames.of basename).all := by
    intro n hn
    obtain ⟨e, he, rfl⟩ := List.mem_map.mp hn
    obtain ⟨hmem, hsave⟩ := mem_of_mem_firstOfEach names.enumerationOf he
    have hname := henames e (List.mem_of_mem_filter hmem)
    obtain ⟨hprefixed, hfixed⟩ := isPrefixed_enumerationName hfor hname
    exact ⟨hprefixed, hfixed (fun heq => hsave (List.mem_singleton.mpr heq))⟩
  have hinterface : ∀ n ∈ (firstClasses names d.classes).map names.interfaceOf,
      IsPrefixed basename n ∧ n ∉ (FixedNames.of basename).all := by
    intro n hn
    obtain ⟨c, hc, rfl⟩ := List.mem_map.mp hn
    exact isPrefixed_interfaceName hfor
      (hinterfaces c (mem_of_mem_firstOfEach names.interfaceOf hc).1)
  have hall := List.forall_mem_append.mpr ⟨henumeration, hinterface⟩
  exact ⟨nodup_map_firstOfEach names.enumerationOf _ _, nodup_map_firstOfEach names.interfaceOf _ _,
    fun n hn => (hall n hn).1, fun n hn => (hall n hn).2⟩

end Types

/-! ## §3. The targets of aliases. -/

section Targets

variable {basename : String} {enumerations protocols : List String} {classNames : Bool}

/-- What follows the basename in the fixed names that aliases are made for. -/
def targetSuffixes (classNames : Bool) : List String :=
  ["Application", "Object", "ElementArray", "SaveOptions", "GenericMethods",
   "ApplicationProtocol"] ++ if classNames then ["ClassNames"] else []

theorem aliasTargets_eq (basename : String) (classNames : Bool) (declared : List String) :
    aliasTargets (.of basename) classNames declared
      = (targetSuffixes classNames).map (basename ++ ·) ++ declared := by
  cases classNames <;> rfl

/-- The fixed names among the targets. -/
theorem mem_all_of_mem_targetSuffixes {n : String}
    (h : n ∈ (targetSuffixes classNames).map (basename ++ ·)) :
    n ∈ (FixedNames.of basename).all := by
  have hsubset : ∀ b, targetSuffixes b ⊆ fixedSuffixes := by decide
  rw [all_fixedNames]
  exact List.map_subset _ (hsubset classNames) h

/-- The types that aliases are made for are prefixed. -/
theorem isPrefixed_of_mem_aliasTargets (h : AreTypeNames basename enumerations protocols)
    {n : String}
    (hn : n ∈ aliasTargets (.of basename) classNames (enumerations ++ protocols)) :
    IsPrefixed basename n := by
  rw [aliasTargets_eq] at hn
  rcases List.mem_append.mp hn with hn | hn
  · exact isPrefixed_of_mem_all (mem_all_of_mem_targetSuffixes hn)
  · exact h.isPrefixed n hn

/-- **The types of a file have different names** unless an enumeration and a protocol share
one. -/
theorem nodup_aliasTargets_iff (h : AreTypeNames basename enumerations protocols) :
    (aliasTargets (.of basename) classNames (enumerations ++ protocols)).Nodup ↔
      ∀ n ∈ enumerations, n ∉ protocols := by
  have hfixed : ((targetSuffixes classNames).map (basename ++ ·)).Nodup := by
    have hsuffixes : ∀ b, (targetSuffixes b).Nodup := by decide
    exact (hsuffixes classNames).map (append_injective basename)
  have hapart : List.Disjoint ((targetSuffixes classNames).map (basename ++ ·))
      (enumerations ++ protocols) :=
    fun n hn hmem => h.not_fixed n hmem (mem_all_of_mem_targetSuffixes hn)
  rw [aliasTargets_eq, List.nodup_append', List.nodup_append']
  exact ⟨fun hall => fun n hn hp => hall.2.1.2.2 hn hp,
    fun hshare => ⟨hfixed, ⟨h.nodup_enumerations, h.nodup_protocols, fun n hn hp => hshare n hn hp⟩,
      hapart⟩⟩

end Targets

/-! ## §4. What stands beside the types. -/

section Outer

variable {o : Options} {basename : String} {declared : List String}

/-- The aliases at the top level have different names, none of them that of a type or the
basename. -/
theorem nodup_outerAliases (o : Options) (basename : String) (declared : List String) :
    ((outerAliases o basename declared).map AliasDeclaration.name).Nodup := by
  unfold outerAliases
  split
  next =>
    have hsublist : (flatAliases basename (aliasTargets (.of basename) o.classNames declared)
        (aliasesOf o basename declared)).Sublist (aliasesOf o basename declared) :=
      List.filter_sublist
    exact (nodup_declareAliases basename [] _).sublist (hsublist.map AliasDeclaration.name)
  next => exact List.nodup_nil

theorem not_mem_of_mem_outerAliases {n : String}
    (h : n ∈ (outerAliases o basename declared).map AliasDeclaration.name) :
    n ∉ aliasTargets (.of basename) o.classNames declared ∧ n ≠ basename := by
  obtain ⟨a, ha, rfl⟩ := List.mem_map.mp h
  unfold outerAliases at ha
  split at ha
  next =>
    obtain ⟨-, hkept⟩ := List.mem_filter.mp ha
    simp only [Bool.and_eq_true, Bool.not_eq_true', bne_iff_ne, List.contains_eq_mem,
      decide_eq_false_iff_not] at hkept
    exact ⟨hkept.1.1, hkept.1.2⟩
  next => exact absurd ha List.not_mem_nil

/-- No alias starts with a small letter. -/
theorem startsTall_of_mem_outerAliases
    (htargets : ∀ n ∈ aliasTargets (.of basename) o.classNames declared, IsPrefixed basename n)
    {n : String} (h : n ∈ (outerAliases o basename declared).map AliasDeclaration.name) :
    StartsTall n.toList := by
  obtain ⟨a, ha, rfl⟩ := List.mem_map.mp h
  unfold outerAliases at ha
  split at ha
  next =>
    obtain ⟨-, t, ht, hname⟩ := exists_target_of_mem_declareAliases (List.mem_of_mem_filter ha)
    rw [hname, withoutBasename, String.toList_ofList]
    exact (htargets t ht).startsTall_withoutBasename
  next => exact absurd ha List.not_mem_nil

end Outer

/-! ## §5. The function that reaches the application. -/

/-- A text starts with a capital of ASCII. -/
def StartsWithCapital (s : String) : Prop :=
  ∃ c, s.toList.head? = some c ∧ c.isUpper = true

section Function

variable {names : Names} {basename : String}

theorem applicationFunction_eq (hn : names.IsFor basename) {c : Char} {rest : List Char}
    (hbasename : basename.toList = c :: rest) :
    names.applicationFunction = String.ofList (lowerChars [c] ++ rest) ++ "Application" := by
  rw [Names.applicationFunction, hn.base, hbasename]

/-- After a capital the function has a name of its own: it starts with a small letter. -/
theorem isLower_applicationFunction (hn : names.IsFor basename) (h : StartsWithCapital basename) :
    ∃ d, names.applicationFunction.toList.head? = some d ∧ d.isLower = true := by
  obtain ⟨c, hhead, hc⟩ := h
  obtain ⟨rest, hbasename⟩ := List.head?_eq_some_iff.mp hhead
  obtain ⟨d, hd, hlower⟩ := exists_lowerChars_of_isUpper hc
  refine ⟨d, ?_, hlower⟩
  rw [applicationFunction_eq hn hbasename, hd, String.toList_append, String.toList_ofList]
  rfl

/-- Without a capital the function has the name of the application. -/
theorem applicationFunction_eq_application (hn : names.IsFor basename)
    (hb : Config.isBasename basename = true) (h : ¬ StartsWithCapital basename) :
    names.applicationFunction = (FixedNames.of basename).application := by
  unfold Config.isBasename Config.isShaped at hb
  cases hbasename : basename.toList with
  | nil =>
    rw [hbasename] at hb
    exact absurd hb Bool.false_ne_true
  | cons c rest =>
    rw [hbasename, Bool.and_eq_true] at hb
    have hlower : lowerChars [c] = [c] := by
      have hkinds : (c.isUpper || c.isLower || c == '_') = true := hb.1
      rw [Bool.or_eq_true, Bool.or_eq_true, beq_iff_eq] at hkinds
      rcases hkinds with (hupper | hlower) | rfl
      · exact absurd ⟨c, by rw [hbasename]; rfl, hupper⟩ h
      · exact lowerChars_of_isLower hlower
      · decide
    rw [applicationFunction_eq hn hbasename, hlower, List.singleton_append, ← hbasename,
      String.ofList_toList]
    rfl

end Function

/-! ## §6. All names at the top level. -/

section All

variable {o : Options} {names : Names} {basename : String} {es : List EnumerationDeclaration}
  {ps : List ProtocolDeclaration}

/-- The name of the function, if there is one. -/
def functionNames (o : Options) (names : Names) : List String :=
  if o.bundleIdentifier.isTruthy then [names.applicationFunction] else []

/-- The name of the group of aliases, if there is one. -/
def groupNames (o : Options) (basename : String) : List String :=
  if o.namespaceAliases then [basename] else []

theorem eq_of_mem_groupNames {n : String} (h : n ∈ groupNames o basename) : n = basename := by
  unfold groupNames at h
  split at h
  next => exact List.mem_singleton.mp h
  next => exact absurd h List.not_mem_nil

/-- The name of the enumeration of class names, if there is one. -/
def classNamesNames (o : Options) (basename : String) : List String :=
  if o.classNames then [(FixedNames.of basename).classNames] else []

/-- The names at the top level in their order. -/
theorem map_name_openings (o : Options) (names : Names) (basename : String)
    (es : List EnumerationDeclaration) (ps : List ProtocolDeclaration) :
    (openings o names basename es ps).map Opening.name
      = ["Application", "Object", "ElementArray", "SaveOptions", "GenericMethods"].map (basename ++ ·)
        ++ es.map EnumerationDeclaration.name ++ ps.map ProtocolDeclaration.name
        ++ classNamesNames o basename ++ [(FixedNames.of basename).applicationProtocol]
        ++ functionNames o names ++ groupNames o basename
        ++ (outerAliases o basename (es.map EnumerationDeclaration.name
            ++ ps.map ProtocolDeclaration.name)).map AliasDeclaration.name := by
  unfold openings classNamesNames functionNames groupNames
  cases o.classNames <;> cases o.bundleIdentifier.isTruthy <;> cases o.namespaceAliases <;>
    simp [FixedNames.of, Function.comp_def]

/-- The names at the top level but for that of the function: the types first, then what stands
beside them. -/
def otherNames (o : Options) (basename : String) (declared : List String) : List String :=
  aliasTargets (.of basename) o.classNames declared
    ++ (groupNames o basename ++ (outerAliases o basename declared).map AliasDeclaration.name)

theorem map_name_openings_perm (o : Options) (names : Names) (basename : String)
    (es : List EnumerationDeclaration) (ps : List ProtocolDeclaration) :
    ((openings o names basename es ps).map Opening.name).Perm
      (functionNames o names ++ otherNames o basename
        (es.map EnumerationDeclaration.name ++ ps.map ProtocolDeclaration.name)) := by
  have htargets : aliasTargets (.of basename) o.classNames
      (es.map EnumerationDeclaration.name ++ ps.map ProtocolDeclaration.name)
        = ["Application", "Object", "ElementArray", "SaveOptions", "GenericMethods"].map
            (basename ++ ·)
          ++ [(FixedNames.of basename).applicationProtocol] ++ classNamesNames o basename
          ++ (es.map EnumerationDeclaration.name ++ ps.map ProtocolDeclaration.name) := by
    unfold aliasTargets classNamesNames
    simp [FixedNames.of]
  rw [map_name_openings, otherNames, htargets, List.perm_iff_count]
  intro n
  simp only [List.count_append]
  omega

variable {enumerations protocols : List String}

/-- What stands beside the types takes none of their names. -/
theorem nodup_otherNames_iff (h : AreTypeNames basename enumerations protocols) :
    (otherNames o basename (enumerations ++ protocols)).Nodup ↔
      ∀ n ∈ enumerations, n ∉ protocols := by
  have hgroup : (groupNames o basename).Nodup := by
    unfold groupNames
    split
    next => exact List.nodup_singleton basename
    next => exact List.nodup_nil
  have hbeside : (groupNames o basename ++ (outerAliases o basename
      (enumerations ++ protocols)).map AliasDeclaration.name).Nodup :=
    List.nodup_append'.mpr ⟨hgroup, nodup_outerAliases o basename _,
      fun n hn ha => (not_mem_of_mem_outerAliases ha).2 (eq_of_mem_groupNames hn)⟩
  rw [otherNames, List.nodup_append', nodup_aliasTargets_iff h]
  refine ⟨fun hall => hall.1, fun hshare => ⟨hshare, hbeside, fun n hn hmem => ?_⟩⟩
  rcases List.mem_append.mp hmem with hn' | hn'
  · exact (isPrefixed_of_mem_aliasTargets h hn).ne_basename (eq_of_mem_groupNames hn')
  · exact (not_mem_of_mem_outerAliases hn').1 hn

/-- After a capital no other name starts with a small letter: the types and the group start like
the basename, and aliases never do. -/
theorem startsTall_of_mem_otherNames (h : AreTypeNames basename enumerations protocols)
    (hcapital : StartsWithCapital basename) {n : String}
    (hn : n ∈ otherNames o basename (enumerations ++ protocols)) : StartsTall n.toList := by
  obtain ⟨c, hc, hupper⟩ := hcapital
  have hstart : ∀ s : String, s.toList.head? = some c → StartsTall s.toList := by
    intro s hs d hd
    rw [hs, Option.mem_some_iff] at hd
    exact hd ▸ isLower_eq_false_of_isUpper hupper
  rcases List.mem_append.mp hn with hn | hn
  · exact hstart n ((isPrefixed_of_mem_aliasTargets h hn).head?_eq hc)
  · rcases List.mem_append.mp hn with hn | hn
    · rw [eq_of_mem_groupNames hn]
      exact hstart basename hc
    · exact startsTall_of_mem_outerAliases (fun t ht => isPrefixed_of_mem_aliasTargets h ht) hn

/-- **The function has a name of its own** exactly where the basename starts with a capital. -/
theorem applicationFunction_not_mem_iff (hn : names.IsFor basename)
    (hb : Config.isBasename basename = true) (h : AreTypeNames basename enumerations protocols) :
    names.applicationFunction ∉ otherNames o basename (enumerations ++ protocols) ↔
      StartsWithCapital basename := by
  constructor
  · intro hmem
    by_contra hcapital
    refine hmem (List.mem_append_left _ ?_)
    rw [applicationFunction_eq_application hn hb hcapital]
    exact List.mem_cons_self
  · intro hcapital hmem
    obtain ⟨d, hd, hlower⟩ := isLower_applicationFunction hn hcapital
    have htall := startsTall_of_mem_otherNames h hcapital hmem d hd
    rw [hlower] at htall
    exact absurd htall.symm Bool.false_ne_true

/-- **Which names are declared once.** -/
theorem nodup_openings_iff (hn : names.IsFor basename) (hb : Config.isBasename basename = true)
    (h : AreTypeNames basename (es.map EnumerationDeclaration.name)
      (ps.map ProtocolDeclaration.name)) :
    ((openings o names basename es ps).map Opening.name).Nodup ↔
      (∀ e ∈ es, ∀ p ∈ ps, e.name ≠ p.name) ∧
        (o.bundleIdentifier.isTruthy = true → StartsWithCapital basename) := by
  have hshare : (∀ n ∈ es.map EnumerationDeclaration.name, n ∉ ps.map ProtocolDeclaration.name) ↔
      ∀ e ∈ es, ∀ p ∈ ps, e.name ≠ p.name := by
    rw [List.forall_mem_map]
    refine forall₂_congr fun e _ => ?_
    rw [List.mem_map, not_exists]
    exact forall_congr' fun p => not_and.trans (imp_congr_right fun _ => ne_comm)
  rw [(map_name_openings_perm o names basename es ps).nodup_iff]
  unfold functionNames
  split
  next hfunction =>
    rw [List.singleton_append, List.nodup_cons, nodup_otherNames_iff h, hshare,
      applicationFunction_not_mem_iff hn hb h]
    exact ⟨fun hall => ⟨hall.2, fun _ => hall.1⟩, fun hall => ⟨hall.2 hfunction, hall.1⟩⟩
  next hfunction =>
    rw [List.nil_append, nodup_otherNames_iff h, hshare]
    exact ⟨fun hall => ⟨hall, fun hf => absurd hf hfunction⟩, fun hall => hall.1⟩

end All

/-! ## §7. Files. -/

section Files

variable {o : Options} {names : Names} {basename : String} {d : Dictionary} {p : Plan}
  {es : List EnumerationDeclaration} {ps : List ProtocolDeclaration} {w : Parts}

/-- The definitions of a dictionary whose declarations share a name. -/
theorem Contents.ne_name_iff (hplan : (plan d basename).value = (names, .ok p))
    (h : Contents o names basename p es ps w) :
    (∀ e ∈ es, ∀ q ∈ ps, e.name ≠ q.name) ↔
      ∀ c ∈ d.classes, ∀ e ∈ valued d.enumerations,
        names.interfaceName c.name ≠ names.enumerationName e.name := by
  obtain ⟨hfor, -, hinterfaces⟩ := plan_eq_ok hplan
  obtain ⟨-, henames⟩ := enumerations_of_plan hplan
  have hes : ∀ n, n ∈ es.map EnumerationDeclaration.name ↔
      n ∈ (valued d.enumerations).map names.enumerationOf ∧
        n ∉ [(FixedNames.of basename).saveOptions] := by
    intro n
    rw [h.map_name_enumerations hplan, mem_map_firstOfEach]
  have hps : ∀ n, n ∈ ps.map ProtocolDeclaration.name ↔ n ∈ d.classes.map names.interfaceOf := by
    intro n
    rw [h.map_name_protocols hplan, firstClasses, mem_map_firstOfEach]
    simp
  constructor
  · intro hne c hc e he heq
    rw [hinterfaces c hc, henames e (List.mem_of_mem_filter he), Except.ok.injEq] at heq
    -- The protocol has no fixed name, so the enumeration is not that of save options.
    have hfixed := (isPrefixed_interfaceName hfor (hinterfaces c hc)).2
    obtain ⟨q, hq, hqname⟩ := List.mem_map.mp ((hps _).mpr (List.mem_map_of_mem hc))
    have hmem := (hes (names.enumerationOf e)).mpr ⟨List.mem_map_of_mem he, fun hsave => hfixed (by
      rw [heq, List.mem_singleton.mp hsave]
      simp [FixedNames.all])⟩
    obtain ⟨e', he', hename⟩ := List.mem_map.mp hmem
    exact hne e' he' q hq (by rw [hename, hqname, heq])
  · intro hne e he q hq heq
    obtain ⟨e', he', hename⟩ := List.mem_map.mp ((hes _).mp (List.mem_map_of_mem he)).1
    obtain ⟨c, hc, hcname⟩ := List.mem_map.mp ((hps _).mp (List.mem_map_of_mem hq))
    refine hne c hc e' he' ?_
    rw [hinterfaces c hc, henames e' (List.mem_of_mem_filter he'), hcname, hename, heq]

end Files

/-- **What is declared at the top level of a file, and which of it twice.**  The names are
pairwise different exactly where no class shares its name with an enumeration that has values
and, if there is a function that reaches the application, the basename starts with a capital. -/
theorem generate_declaresOnce_iff (o : Options) (d : Dictionary) (basename text : String)
    (names : Names) (hb : Config.isBasename basename = true)
    (h : (generate o d basename).value = (names, .ok text)) :
    ∃ p es ps w, (plan d basename).value = (names, .ok p) ∧
      Contents o names basename p es ps w ∧ text = joinParts w.all ∧
      Opens text (openings o names basename es ps) ∧
      (((openings o names basename es ps).map Opening.name).Nodup ↔
        (∀ c ∈ d.classes, ∀ e ∈ valued d.enumerations,
          names.interfaceName c.name ≠ names.enumerationName e.name) ∧
        (o.bundleIdentifier.isTruthy = true → StartsWithCapital basename)) := by
  obtain ⟨p, es, ps, w, hplan, hw, rfl⟩ := contents_of_generate h
  refine ⟨p, es, ps, w, hplan, hw, rfl, hw.opens, ?_⟩
  rw [nodup_openings_iff (plan_eq_ok hplan).1 hb (hw.areTypeNames hplan), hw.ne_name_iff hplan]

/-- All options that declare something. -/
def richOptions : Options :=
  { classNames := true
    typedAccessors := true
    namespaceAliases := true
    flatAliases := true
    bundleIdentifier := .str "com.apple.Music" }

/-- Tracks and the states of a player. -/
def playerDictionary : Dictionary :=
  { suites := [
      { name := "Player Suite"
        classes := [{ name := "track" }, { name := "application" }]
        enumerations := [
          { name := "player state", enumerators := [{ name := "stopped", code := "kPSS" }] }] }] }

theorem generate_declaresOnce_iff_player :
    Config.isBasename "Music" = true ∧
      ∃ names text, (generate richOptions playerDictionary "Music").value = (names, .ok text) ∧
        ∃ p es ps w, (plan playerDictionary "Music").value = (names, .ok p) ∧
          Contents richOptions names "Music" p es ps w ∧ text = joinParts w.all ∧
          Opens text (openings richOptions names "Music" es ps) ∧
          (((openings richOptions names "Music" es ps).map Opening.name).Nodup ↔
            (∀ c ∈ playerDictionary.classes, ∀ e ∈ valued playerDictionary.enumerations,
              names.interfaceName c.name ≠ names.enumerationName e.name) ∧
            (richOptions.bundleIdentifier.isTruthy = true → StartsWithCapital "Music")) := by
  have hb : Config.isBasename "Music" = true := by decide +kernel
  obtain ⟨names, text, h⟩ := exists_text_of_isSome
    (r := (generate richOptions playerDictionary "Music").value) (by decide +kernel)
  exact ⟨hb, names, text, h,
    generate_declaresOnce_iff richOptions playerDictionary "Music" text names hb h⟩

/-- A class and an enumeration of one name. -/
def twinDictionary : Dictionary :=
  { suites := [
      { name := "Player Suite"
        classes := [{ name := "track" }]
        enumerations := [
          { name := "track", enumerators := [{ name := "song", code := "kSng" }] }] }] }

/-- **A name can be declared twice**: that of a class and an enumeration of one name, and that of
the function for a basename that starts with a small letter. -/
theorem names_declared_twice :
    (∃ names text, (generate {} twinDictionary "Test").value = (names, .ok text) ∧
      ∃ p es ps w, (plan twinDictionary "Test").value = (names, .ok p) ∧
        Contents {} names "Test" p es ps w ∧ text = joinParts w.all ∧
        ¬ ((openings {} names "Test" es ps).map Opening.name).Nodup) ∧
    (Config.isBasename "music" = true ∧
      ∃ names text, (generate richOptions {} "music").value = (names, .ok text) ∧
        ∃ p es ps w, (plan {} "music").value = (names, .ok p) ∧
          Contents richOptions names "music" p es ps w ∧ text = joinParts w.all ∧
          ¬ ((openings richOptions names "music" es ps).map Opening.name).Nodup) := by
  refine ⟨?_, by decide +kernel, ?_⟩
  · obtain ⟨names, text, h⟩ := exists_text_of_isSome
      (r := (generate {} twinDictionary "Test").value) (by decide +kernel)
    obtain ⟨p, es, ps, w, hplan, hw, htext⟩ := contents_of_generate h
    have hfor := (plan_eq_ok hplan).1
    refine ⟨names, text, h, p, es, ps, w, hplan, hw, htext, ?_⟩
    rw [nodup_openings_iff hfor (by decide +kernel) (hw.areTypeNames hplan),
      hw.ne_name_iff hplan]
    -- Both are named after the track.
    rintro ⟨hne, -⟩
    refine hne { name := "track" } (by decide +kernel)
      { name := "track", enumerators := [{ name := "song", code := "kSng" }] } (by decide +kernel) ?_
    rw [hfor.interfaceName_eq, hfor.enumerationName_eq]
    decide +kernel
  · obtain ⟨names, text, h⟩ := exists_text_of_isSome
      (r := (generate richOptions {} "music").value) (by decide +kernel)
    obtain ⟨p, es, ps, w, hplan, hw, htext⟩ := contents_of_generate h
    refine ⟨names, text, h, p, es, ps, w, hplan, hw, htext, ?_⟩
    rw [nodup_openings_iff (plan_eq_ok hplan).1 (by decide +kernel) (hw.areTypeNames hplan)]
    rintro ⟨-, hcapital⟩
    obtain ⟨c, hc, hupper⟩ := hcapital (by decide)
    rw [← Option.some.inj hc] at hupper
    exact absurd hupper (by decide)

end ScriptingBindings.Swift
