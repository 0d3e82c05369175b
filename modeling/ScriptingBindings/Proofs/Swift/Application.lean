/-
  ScriptingBindings.Proofs.Swift.Application
  ──────────────────────────────────
  **WHOSE APPLICATION CLASS COUNTS.**

  Where another suite has an application class the standard suite gives its own
  one up.  It gets one back if it also extends the application: then its
  extension finds no class that it could be folded into and makes one.

      application ∈ the merged standard suite  ↔  RemakesApplication s

  So the protocol of the application is that of a more specific suite, unless a
  standard suite that comes first made the class again or has a class whose
  name only looks different.
-/
import ScriptingBindings.Proofs.Swift.Extensions

namespace ScriptingBindings.Swift

open Dictionary Merge Text

/-! ## §1. The merged standard suite. -/

/-- Some suite other than the standard one has an application class. -/
def AppliesElsewhere (suites : List Suite) : Prop :=
  ∃ s ∈ suites, s.name ≠ standardSuiteName ∧
    applicationName ∈ s.classes.map Dictionary.Class.name

/-- A suite that has given its application class up makes another one: no class of it has the
name in other letter case, and the first extension of the name is spelled exactly like it. -/
def RemakesApplication (s : Suite) : Prop :=
  (∀ cls ∈ s.classes, lower cls.name = lower applicationName → cls.name = applicationName) ∧
    (s.extensions.find? (fun e => lower e.target == lower applicationName)).map Extension.target
      = some applicationName

section Names

variable {c : Catalog} {suites : List Suite} {s : Suite}

theorem keptNames_of_appliesElsewhere (helsewhere : AppliesElsewhere suites)
    (hname : s.name = standardSuiteName) :
    keptNames suites s
      = (s.classes.map Dictionary.Class.name).filter (fun n => n ≠ applicationName) := by
  unfold keptNames
  exact if_pos ⟨hname, helsewhere⟩

/-- No standard class of the application is added. -/
theorem applicationName_not_mem_residualNames (helsewhere : AppliesElsewhere suites) :
    applicationName ∉ residualNames c suites := by
  obtain ⟨t, ht, htname, happlication⟩ := helsewhere
  intro hmem
  have hall := of_decide_eq_true (List.mem_filter.mp hmem).2
  refine (hall t ht).1 ?_
  unfold keptNames
  rw [if_neg (fun h => htname h.1)]
  exact happlication

/-- An extension makes the class exactly where nothing of that name is left in its way. -/
theorem applicationName_mem_createdNames_iff (helsewhere : AppliesElsewhere suites)
    (hname : s.name = standardSuiteName) :
    applicationName ∈ createdNames suites s ↔ RemakesApplication s := by
  unfold createdNames RemakesApplication targets
  rw [mem_firstOfEach_iff, keptNames_of_appliesElsewhere helsewhere hname, List.find?_map]
  refine and_congr ?_ Iff.rfl
  simp only [List.mem_map, List.mem_filter, decide_eq_true_eq]
  constructor
  · intro hnone cls hcls hlower
    by_contra hne
    exact hnone ⟨cls.name, ⟨⟨cls, hcls, rfl⟩, hne⟩, hlower⟩
  · rintro hall ⟨_, ⟨⟨cls, hcls, rfl⟩, hne⟩, hlower⟩
    exact hne (hall cls hcls hlower)

end Names

/-- What becomes of the application class in a suite `s` that is merged into `t`. -/
structure GivesWay (s t : Suite) : Prop where
  name : t.name = s.name
  application : s.name = standardSuiteName →
    (applicationName ∈ t.classes.map Dictionary.Class.name ↔ RemakesApplication s)

/-- **The standard suite gives way** unless it makes the class again. -/
theorem givesWay_mergedForm {c : Catalog} (hc : c.classes.Keyed Dictionary.Class.name)
    {suites : List Suite} (helsewhere : AppliesElsewhere suites) (s : Suite) :
    GivesWay s (mergedForm c suites s) where
  name := rfl
  application := by
    intro hname
    have hkept : applicationName ∉ keptNames suites s := by
      rw [keptNames_of_appliesElsewhere helsewhere hname]
      exact fun hmem => absurd rfl (of_decide_eq_true (List.mem_filter.mp hmem).2)
    have hresidual := applicationName_not_mem_residualNames (c := c) helsewhere
    rw [map_name_mergedForm hc, mergedNames, List.mem_append, List.mem_append,
      or_iff_left hresidual, or_iff_right hkept]
    exact applicationName_mem_createdNames_iff helsewhere hname

/-! ## §2. The protocol of the application. -/

/-- What a file has under the name of the application: one protocol, that of the first class of
this name.  The class is one of a merged suite `t`, and in a standard suite it is spelled
differently or was made by an extension. -/
def ShowsApplication (o : Options) (names : Names) (d merged : Dictionary)
    (ps : List ProtocolDeclaration) : Prop :=
  ∃ interface first p s t, names.interfaceName applicationName = .ok interface ∧ p ∈ ps ∧
    IsOnlyProtocol o names merged.classes ps interface first p ∧
    (s, t) ∈ d.suites.zip merged.suites ∧ first ∈ t.classes ∧
    (t.name = standardSuiteName → first.name ≠ applicationName ∨ RemakesApplication s)

/-- A suite other than the standard one keeps its application class. -/
theorem exists_application {c : Catalog} (hc : c.classes.Keyed Dictionary.Class.name)
    {d : Dictionary} (helsewhere : AppliesElsewhere d.suites) :
    ∃ cls ∈ (merge d c).value.classes, cls.name = applicationName := by
  obtain ⟨s, hs, hname, happlication⟩ := helsewhere
  have hmem : applicationName ∈ (mergedForm c d.suites s).classes.map Dictionary.Class.name := by
    rw [map_name_mergedForm hc, mergedNames, keptNames, if_neg (fun h => hname h.1)]
    exact List.mem_append_left _ (List.mem_append_left _ happlication)
  obtain ⟨cls, hcls, hclsName⟩ := List.mem_map.mp hmem
  refine ⟨cls, List.mem_flatMap.mpr ⟨mergedForm c d.suites s, ?_, hcls⟩, hclsName⟩
  rw [suites_merge hc]
  exact List.mem_map_of_mem hs

/-- Each suite stands beside its merged form. -/
theorem mem_zip_suites {c : Catalog} (hc : c.classes.Keyed Dictionary.Class.name) {d : Dictionary}
    {s : Suite} (hs : s ∈ d.suites) :
    (s, mergedForm c d.suites s) ∈ d.suites.zip (merge d c).value.suites := by
  have hzip := List.zip_map' (f := id) (g := mergedForm c d.suites) (l := d.suites)
  rw [List.map_id] at hzip
  rw [suites_merge hc, hzip]
  exact List.mem_map.mpr ⟨s, hs, rfl⟩

/-- The protocols of a merged dictionary show the application. -/
theorem showsApplication_of_emits {o : Options} {names : Names} {d : Dictionary} {c : Catalog}
    {ps : List ProtocolDeclaration} {text : String}
    (hc : c.classes.Keyed Dictionary.Class.name) (helsewhere : AppliesElsewhere d.suites)
    (hnames : ∀ cls ∈ (merge d c).value.classes,
      names.interfaceName cls.name = .ok (names.interfaceOf cls))
    (hps : Emits o names (firstClasses names (merge d c).value.classes) ps text) :
    ShowsApplication o names d (merge d c).value ps := by
  obtain ⟨cls, hcls, hname⟩ := exists_application hc helsewhere
  obtain ⟨first, p, hp, honly⟩ := hps.exists_isOnlyProtocol hcls
  obtain ⟨t, ht, hfirst⟩ := List.mem_flatMap.mp (List.mem_of_find?_eq_some honly.first_of_name)
  rw [suites_merge hc] at ht
  obtain ⟨s, hs, rfl⟩ := List.mem_map.mp ht
  refine ⟨names.interfaceOf cls, first, p, s, mergedForm c d.suites s, hname ▸ hnames cls hcls, hp,
    honly, mem_zip_suites hc hs, hfirst, fun hstandard => or_iff_not_imp_left.mpr fun hsame => ?_⟩
  -- A standard suite that has the class under exactly its name made it again.
  have hsame : first.name = applicationName := not_not.mp hsame
  rw [← (givesWay_mergedForm hc helsewhere s).application hstandard, ← hsame]
  exact List.mem_map_of_mem hfirst

/-- **The application class of a more specific suite counts.**  If a suite other than the standard
one has an application class, a merged standard suite has one exactly where it makes the class
again; and a file that is generated has one protocol under the name of the application, which is
that of a standard suite only if this made the class again or spells its name differently. -/
theorem merge_generate_givesWay (d : Dictionary) (c : Catalog)
    (hc : c.classes.Keyed Dictionary.Class.name) (helsewhere : AppliesElsewhere d.suites) :
    List.Forall₂ GivesWay d.suites (merge d c).value.suites ∧
      ∀ o basename text names,
        (generate o (merge d c).value basename).value = (names, .ok text) →
          ∃ ps, Emits o names (firstClasses names (merge d c).value.classes) ps text ∧
            ShowsApplication o names d (merge d c).value ps := by
  constructor
  · rw [suites_merge hc, List.forall₂_map_right_iff, List.forall₂_same]
    exact fun s _ => givesWay_mergedForm hc helsewhere s
  · intro o basename text names h
    obtain ⟨-, hnames, ps, hps⟩ := generate_eq_ok h
    exact ⟨ps, hps, showsApplication_of_emits hc helsewhere hnames hps⟩

theorem merge_generate_givesWay_players :
    tabCatalog.classes.Keyed Dictionary.Class.name ∧ AppliesElsewhere playerSuites ∧
      let d : Dictionary := { suites := playerSuites }
      let merged := (merge d tabCatalog).value
      List.Forall₂ GivesWay d.suites merged.suites ∧
        ∃ names text, (generate {} merged "Test").value = (names, .ok text) ∧
          ∃ ps, Emits {} names (firstClasses names merged.classes) ps text ∧
            ShowsApplication {} names d merged ps := by
  have hc : tabCatalog.classes.Keyed Dictionary.Class.name := ⟨by decide, by decide⟩
  have helsewhere : AppliesElsewhere playerSuites :=
    ⟨playerSuites[1], by decide, by decide, by decide⟩
  obtain ⟨names, text, h⟩ := exists_text_of_isSome (r := (generate {}
    (merge { suites := playerSuites } tabCatalog).value "Test").value) (by decide +kernel)
  have hgives := merge_generate_givesWay { suites := playerSuites } tabCatalog hc helsewhere
  exact ⟨hc, helsewhere, hgives.1, names, text, h, hgives.2 {} "Test" text names h⟩

/-- A standard suite that both defines and extends the application, before a suite with an
application class of its own. -/
def browserSuites : List Suite :=
  [{ name := standardSuiteName
     classes := [{ name := applicationName }]
     extensions := [{ target := applicationName }] },
   { name := "Browser Suite"
     classes := [{ name := applicationName
                   properties := [{ name := "tabs", type := { base := "integer" } }] }] }]

/-- **The standard suite need not give way.**  Its extension makes the application class that it
gave up, and the only protocol of the application lacks what the other suite declares. -/
theorem application_comes_back :
    (({} : Catalog).classes.Keyed Dictionary.Class.name ∧ AppliesElsewhere browserSuites) ∧
      let merged := (merge { suites := browserSuites } {}).value
      merged.suites.map (fun t => (t.name, t.classes.map Dictionary.Class.name))
          = [(standardSuiteName, [applicationName]), ("Browser Suite", [applicationName])] ∧
        ∃ names text, (generate {} merged "Test").value = (names, .ok text) ∧
          names.interfaceName applicationName = .ok "TestApplicationClass" ∧
          ∃ ps p, Emits {} names (firstClasses names merged.classes) ps text ∧
            ps.filter (fun q => q.name == "TestApplicationClass") = [p] ∧
            ¬ p.Declares ({} : Options).addComments "tabs" := by
  have hc : ({} : Catalog).classes.Keyed Dictionary.Class.name := Catalog.keyed_empty.classes
  refine ⟨⟨hc, browserSuites[1], by decide, by decide, by decide⟩, by decide +kernel, ?_⟩
  obtain ⟨names, text, h⟩ := exists_text_of_isSome (r := (generate {}
    (merge { suites := browserSuites } {}).value "Test").value) (by decide +kernel)
  obtain ⟨hfor, -, ps, hps⟩ := generate_eq_ok h
  have hname : names.interfaceName applicationName = .ok "TestApplicationClass" := by
    rw [hfor.interfaceName_eq]
    decide +kernel
  -- The class that the extension made comes first, and it has no properties.
  have hhead : (merge { suites := browserSuites } {}).value.classes.head?
      = some (ofExtension { target := applicationName }) := by decide +kernel
  obtain ⟨rest, hclasses⟩ := List.head?_eq_some_iff.mp hhead
  obtain ⟨first, p, -, honly⟩ := hps.exists_isOnlyProtocol
    (c := ofExtension { target := applicationName }) (by rw [hclasses]; exact List.mem_cons_self)
  have hkey : names.interfaceOf (ofExtension { target := applicationName })
      = "TestApplicationClass" := by
    rw [Names.interfaceOf, ofExtension, hname]
    rfl
  have hfirst := honly.first_of_name
  rw [hclasses, List.find?_cons, beq_self_eq_true] at hfirst
  rw [hkey] at honly
  refine ⟨names, text, h, hname, ps, p, hps, honly.only_of_name, fun hdeclares => ?_⟩
  obtain ⟨q, hq, -⟩ := (honly.reads "tabs").mp (reads_of_declares hdeclares)
  rw [← Option.some.inj hfirst] at hq
  exact absurd hq List.not_mem_nil

end ScriptingBindings.Swift
