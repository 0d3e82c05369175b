/-
  ScriptingBindings.Proofs.Swift.Extensions
  ──────────────────────────────────
  **WHERE THE MEMBERS OF EXTENSIONS END UP.**

  A merge folds an extension into a class of its own suite, found in any
  letter case; a file declares the first class of each name of a protocol, over
  all suites.  So the members of an extension are declared where the class
  that it was folded into comes first.  Where a class of an earlier suite has
  the same name, the protocol is that of the earlier class, and members that
  only the extension has are not declared anywhere.
-/
import ScriptingBindings.Proofs.Merge.Content
import ScriptingBindings.Proofs.Swift.Protocols

namespace ScriptingBindings.Swift

open Dictionary Merge

/-! ## §1. The class of an extension. -/

/-- An extension is folded into a class that has a property of the name of each of its
properties. -/
theorem exists_class_of_extension {c : Catalog} {s : Suite}
    (hc : c.classes.Keyed Dictionary.Class.name) (suites : List Suite) {e : Extension}
    (he : e ∈ s.extensions) :
    ∃ i cls, findClass? (mergedForm c suites s).classes e.target = some i ∧
      (mergedForm c suites s).classes[i]? = some cls ∧
        ∀ p ∈ e.properties, ∃ q ∈ cls.properties, q.name = p.name := by
  obtain ⟨i, -, hi⟩ := findClass?_mergedForm hc suites he
  have hlt : i < (mergedForm c suites s).classes.length := lt_length_of_findClass? hi
  refine ⟨i, _, hi, List.getElem?_eq_getElem hlt, ?_⟩
  intro p hp
  have hcontent := hasMergedContent_mergedForm hc suites s i _ (List.getElem?_eq_getElem hlt)
  have hat : e ∈ extensionsAt s (mergedForm c suites s) i :=
    List.mem_filter.mpr ⟨he, by rw [hi]; exact beq_self_eq_true (some i)⟩
  exact hcontent.exists_property
    (List.mem_append_right _ (List.mem_map_of_mem hat) : Members.ofExtension e ∈ _) hp

/-! ## §2. The protocol of an extension. -/

/-- What a file has of an extension that was folded into a class of the merged suite `t`.

Under the name of that class there is exactly one protocol.  It is that of the first class of
the name, can be read by the names of that class's properties and by no others, and declares
each property of the extension that the first class has.  Only a member named like the
identifier can be missing, and only if an override spells some type by an empty value. -/
def ReachesProtocol (o : Options) (names : Names) (classes : List Dictionary.Class)
    (ps : List ProtocolDeclaration) (t : Suite) (e : Extension) : Prop :=
  ∃ i cls first p, findClass? t.classes e.target = some i ∧ t.classes[i]? = some cls ∧
    names.interfaceName cls.name = .ok (names.interfaceOf cls) ∧ p ∈ ps ∧
    IsOnlyProtocol o names classes ps (names.interfaceOf cls) first p ∧
    ∀ q ∈ e.properties, q.name ≠ identifierName →
      (first = cls ∨ ∃ r ∈ first.properties, r.name = q.name) →
      ∃ name, Names.member q.name = .ok name ∧
        (p.Declares o.addComments name ∨
          (name = identifierName ∧ ∃ v ∈ o.overrides.map Prod.snd, v.isTruthy = false))

/-- **The members of extensions are declared where their class comes first.** -/
theorem merge_generate_reachesProtocol (o : Options) (d : Dictionary) (c : Catalog)
    (basename text : String) (names : Names) (hc : c.classes.Keyed Dictionary.Class.name)
    (h : (generate o (merge d c).value basename).value = (names, .ok text)) :
    ∃ ps, Emits o names (firstClasses names (merge d c).value.classes) ps text ∧
      List.Forall₂ (fun s t => ∀ e ∈ s.extensions,
          ReachesProtocol o names (merge d c).value.classes ps t e)
        d.suites (merge d c).value.suites := by
  obtain ⟨hfor, hnames, ps, hps⟩ := generate_eq_ok h
  refine ⟨ps, hps, ?_⟩
  rw [suites_merge hc, List.forall₂_map_right_iff, List.forall₂_same]
  intro s hs e he
  obtain ⟨i, cls, hi, hcls, hproperties⟩ := exists_class_of_extension hc d.suites he
  have hmem : cls ∈ (merge d c).value.classes := by
    refine List.mem_flatMap.mpr ⟨mergedForm c d.suites s, ?_, List.mem_of_getElem? hcls⟩
    rw [suites_merge hc]
    exact List.mem_map_of_mem hs
  obtain ⟨first, p, hp, honly⟩ := hps.exists_isOnlyProtocol hmem
  refine ⟨i, cls, first, p, hi, hcls, hnames cls hmem, hp, honly, ?_⟩
  intro q hq hid hfirst
  -- Either way the first class of the name has a property of this name.
  have hr : ∃ r ∈ first.properties, r.name = q.name := by
    rcases hfirst with rfl | hr
    · exact hproperties q hq
    · exact hr
  obtain ⟨r, hr, hname⟩ := hr
  obtain ⟨name, hread⟩ := (declareClass_eq_ok honly.declared).2.1 r hr
  have hmember : Names.member q.name = .ok name := by
    rw [readName, if_neg (hname ▸ hid), hname] at hread
    exact hread
  obtain ⟨front, texts, back, htexts, -⟩ := hps.written
  obtain ⟨_, -, htext⟩ := exists_right_of_forall₂ htexts hp
  refine ⟨name, hmember, ?_⟩
  rcases declares_of_reads htext ((honly.reads name).mpr ⟨r, hr, hread⟩) with
    hdeclares | ⟨hidentifier, type, htype, hfalse⟩
  · exact .inl hdeclares
  · -- The type of an identifier is never empty on its own.
    rcases isTruthy_of_identifier hfor honly.declared htype with htruthy | hoverride
    · exact absurd htruthy (by simp [hfalse])
    · exact .inr ⟨hidentifier, type, hoverride, hfalse⟩

/-! ## §3. Which class comes first. -/

/-- A suite that defines tabs. -/
def tabSuite : Suite := { name := "Tab Suite", classes := [{ name := "tab" }] }

/-- A suite that extends tabs. -/
def zoomSuite : Suite :=
  { name := "Zoom Suite"
    extensions := [{ target := "tab"
                     properties := [{ name := "zoom", type := { base := "integer" } }] }] }

/-- A catalog with the class of tabs. -/
def tabCatalog : Catalog := { classes := [("tab", { name := "tab", code := "bTab" })] }

theorem merge_generate_reachesProtocol_zoom :
    tabCatalog.classes.Keyed Dictionary.Class.name ∧
      let d : Dictionary := { suites := [zoomSuite, tabSuite] }
      let merged := (merge d tabCatalog).value
      ∃ names text, (generate {} merged "Test").value = (names, .ok text) ∧
        ∃ ps, Emits {} names (firstClasses names merged.classes) ps text ∧
          List.Forall₂ (fun s t => ∀ e ∈ s.extensions,
            ReachesProtocol {} names merged.classes ps t e) d.suites merged.suites := by
  have hc : tabCatalog.classes.Keyed Dictionary.Class.name := ⟨by decide, by decide⟩
  obtain ⟨names, text, h⟩ := exists_text_of_isSome (r := (generate {}
    (merge { suites := [zoomSuite, tabSuite] } tabCatalog).value "Test").value)
    (by decide +kernel)
  exact ⟨hc, names, text, h,
    merge_generate_reachesProtocol {} _ _ "Test" text names hc h⟩

/-- **The members of an extension can be lost.**  The second suite extends the tabs of the
first one, so the merge makes a class of tabs for it, and the only protocol of tabs is that of
the first suite. -/
theorem extension_member_lost :
    tabCatalog.classes.Keyed Dictionary.Class.name ∧
      let d : Dictionary := { suites := [tabSuite, zoomSuite] }
      let merged := (merge d tabCatalog).value
      (merged.suites.map fun t => findClass? t.classes "tab") = [some 0, some 0] ∧
      Names.member "zoom" = .ok "zoom" ∧
      ∃ names text, (generate {} merged "Test").value = (names, .ok text) ∧
        names.interfaceName "tab" = .ok "TestTab" ∧
        ∃ ps p, Emits {} names (firstClasses names merged.classes) ps text ∧
          ps.filter (fun q => q.name == "TestTab") = [p] ∧
          ¬ p.Declares ({} : Options).addComments "zoom" := by
  have hc : tabCatalog.classes.Keyed Dictionary.Class.name := ⟨by decide, by decide⟩
  refine ⟨hc, by decide +kernel, by decide +kernel, ?_⟩
  obtain ⟨names, text, h⟩ := exists_text_of_isSome (r := (generate {}
    (merge { suites := [tabSuite, zoomSuite] } tabCatalog).value "Test").value)
    (by decide +kernel)
  obtain ⟨hfor, hnames, ps, hps⟩ := generate_eq_ok h
  have hname : names.interfaceName "tab" = .ok "TestTab" := by
    rw [hfor.interfaceName_eq]
    decide +kernel
  have hclasses : (merge { suites := [tabSuite, zoomSuite] } tabCatalog).value.classes
      = [{ name := "tab", code := "bTab" },
         { name := "tab", code := "bTab",
           properties := [{ name := "zoom", type := { base := "integer" } }] }] := by
    decide +kernel
  obtain ⟨first, p, -, honly⟩ := hps.exists_isOnlyProtocol (c := { name := "tab", code := "bTab" })
    (by rw [hclasses]; exact List.mem_cons_self)
  have hkey : names.interfaceOf { name := "tab", code := "bTab" } = "TestTab" := by
    rw [Names.interfaceOf, hname]
    rfl
  rw [hkey] at honly
  refine ⟨names, text, h, hname, ps, p, hps, honly.only_of_name, ?_⟩
  intro hdeclares
  obtain ⟨q, hq, -⟩ := (honly.reads "zoom").mp (reads_of_declares hdeclares)
  -- The first class of the name is the one of the first suite, which has no properties.
  have hfirst := honly.first_of_name
  rw [hclasses, List.find?_cons, hkey, beq_self_eq_true] at hfirst
  rw [← Option.some.inj hfirst] at hq
  exact absurd hq List.not_mem_nil

end ScriptingBindings.Swift
