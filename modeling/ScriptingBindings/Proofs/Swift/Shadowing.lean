/-
  ScriptingBindings.Proofs.Swift.Shadowing
  ──────────────────────────────────
  **WHAT ALIASES AT THE TOP LEVEL HIDE.**

  An alias at the top level hides every type of its name that the code around
  it refers to.  No such alias has the name of another declaration of its file,
  and none has the name of a type that the templates, the table of types or
  the declared definitions bring in, but for two protocols of the bridge:

      @objc public protocol MusicSBObjectProtocol: SBObjectProtocol
      public typealias SBObjectProtocol = MusicSBObjectProtocol

  Nor are types looked at that only an override spells, or that stand for
  definitions which the file does not have.
-/
import ScriptingBindings.Proofs.Identifier.Legality
import ScriptingBindings.Proofs.Swift.Agreement
import ScriptingBindings.Proofs.Swift.Aliases
import ScriptingBindings.Proofs.Text.Capitals

namespace ScriptingBindings.Swift

open Dictionary Identifier Template Text

/-! ## §1. How aliases start. -/

/-- A text starts with a character that is its own upper case. -/
def StartsUpper (s : List Char) : Prop :=
  ∀ d ∈ s.head?, upperOf d = [d]

instance (s : List Char) : Decidable (StartsUpper s) :=
  decidable_of_iff (s.head?.all (fun d => upperOf d = [d]) = true) (by
    simp only [Option.all_eq_true, decide_eq_true_eq, StartsUpper, Option.mem_def])

/-- An identifier in Pascal case starts with a character that is its own upper case. -/
theorem startsUpper_identifier {name made : String} (h : identifier .pascal name = .ok made) :
    StartsUpper made.toList :=
  forall_head?_identifier (fun _ _ hd => upperOf_head hd) (by decide +kernel) h

section Targets

variable {n : Names} {basename name made : String}

/-- Behind the basename a name for a definition starts in upper case. -/
theorem exists_of_forms (h : n.Forms made) :
    ∃ rest, made = n.basename ++ rest ∧ StartsUpper rest.toList := by
  obtain ⟨hidentifier, -⟩ := h
  refine ⟨_, String.append_assoc, ?_⟩
  rw [String.toList_append]
  exact forall_head?_append_of_ne_nil (startsUpper_identifier hidentifier)
    (fun hempty => identifier_ne_empty hidentifier (String.toList_eq_nil_iff.mp hempty)) _

theorem exists_of_mem_all (h : made ∈ (FixedNames.of basename).all) :
    ∃ rest, made = basename ++ rest ∧ StartsUpper rest.toList := by
  rw [all_fixedNames] at h
  obtain ⟨rest, hrest, rfl⟩ := List.mem_map.mp h
  have hall : ∀ rest ∈ fixedSuffixes, StartsUpper rest.toList := by decide +kernel
  exact ⟨rest, rfl, hall rest hrest⟩

end Targets

/-- The types that aliases are made for start in upper case after the basename. -/
theorem Contents.startsUpper_target {o : Options} {names : Names} {basename : String}
    {d : Dictionary} {p : Plan} {es : List EnumerationDeclaration} {ps : List ProtocolDeclaration}
    {w : Parts} (hplan : (plan d basename).value = (names, .ok p))
    (h : Contents o names basename p es ps w) {t : String}
    (ht : t ∈ aliasTargets (.of basename) o.classNames (declaredNames es ps)) :
    ∃ rest, t = basename ++ rest ∧ StartsUpper rest.toList := by
  have hfor := (plan_eq_ok hplan).1
  rw [aliasTargets_eq] at ht
  rcases List.mem_append.mp ht with ht | ht
  · exact exists_of_mem_all (mem_all_of_mem_targetSuffixes ht)
  · exact hfor.base ▸ exists_of_forms (h.forms_of_mem t ht)

/-! ## §2. Names of declarations. -/

section Function

variable {o : Options} {names : Names} {basename : String}

/-- The function that reaches the application has the name of the alias for the application, or
its name starts with a character that has an upper case. -/
theorem applicationFunction_cases (hn : names.IsFor basename) :
    names.applicationFunction = (FixedNames.of basename).application ∨
      ∃ d, names.applicationFunction.toList.head? = some d ∧ upperOf d ≠ [d] := by
  cases hbasename : basename.toList with
  | nil =>
    left
    rw [Names.applicationFunction, hn.base, hbasename]
    rw [String.toList_eq_nil_iff.mp hbasename]
    rfl
  | cons c rest =>
    rw [applicationFunction_eq hn hbasename]
    by_cases hlower : lowerChars [c] = [c]
    · left
      rw [hlower, List.singleton_append, ← hbasename, String.ofList_toList]
      rfl
    · right
      obtain ⟨d, more, hd⟩ := List.exists_cons_of_ne_nil
        (lowerChars_ne_nil (List.cons_ne_nil c []))
      refine ⟨d, ?_, upperOf_ne_of_lowerChars hd hlower⟩
      rw [hd, String.toList_append, String.toList_ofList]
      rfl

end Function

theorem aliasesOf_of_mem_outerAliases {o : Options} {basename : String} {declared : List String}
    {a : AliasDeclaration} (h : a ∈ outerAliases o basename declared) :
    a ∈ aliasesOf o basename declared := by
  unfold outerAliases at h
  split at h
  next => exact List.mem_of_mem_filter h
  next => exact absurd h List.not_mem_nil

section Declared

variable {o : Options} {names : Names} {basename : String} {d : Dictionary} {p : Plan}
  {es : List EnumerationDeclaration} {ps : List ProtocolDeclaration} {w : Parts}

/-- No alias at the top level has the name of the function. -/
theorem Contents.applicationFunction_not_mem (hplan : (plan d basename).value = (names, .ok p))
    (h : Contents o names basename p es ps w) :
    names.applicationFunction ∉
      (outerAliases o basename (declaredNames es ps)).map AliasDeclaration.name := by
  intro hmem
  rcases applicationFunction_cases (plan_eq_ok hplan).1 with heq | ⟨d, hd, hupper⟩
  · refine (not_mem_of_mem_outerAliases hmem).1 ?_
    rw [heq]
    exact List.mem_cons_self
  · obtain ⟨a, ha, hname⟩ := List.mem_map.mp hmem
    obtain ⟨htarget, hrest, -⟩ := of_mem_declareAliases (aliasesOf_of_mem_outerAliases ha)
    obtain ⟨rest, hprefixed, hstart⟩ := h.startsUpper_target hplan htarget
    rw [hprefixed, withoutBasename_append] at hrest
    rw [← hname, hrest] at hd
    exact hupper (hstart d hd)

/-- **An alias at the top level is the only declaration of its name.** -/
theorem Contents.count_name_outerAliases (hplan : (plan d basename).value = (names, .ok p))
    (h : Contents o names basename p es ps w) {a : AliasDeclaration}
    (ha : a ∈ outerAliases o basename (declaredNames es ps)) :
    ((openings o names basename es ps).map Opening.name).count a.name = 1 := by
  have hmem := List.mem_map_of_mem (f := AliasDeclaration.name) ha
  obtain ⟨htargets, hbasename⟩ := not_mem_of_mem_outerAliases hmem
  have hfunction : a.name ∉ functionNames o names := by
    unfold functionNames
    split
    next =>
      rw [List.mem_singleton]
      exact fun heq => h.applicationFunction_not_mem hplan (heq ▸ hmem)
    next => exact List.not_mem_nil
  have hgroup : a.name ∉ groupNames o basename := fun hname => hbasename (eq_of_mem_groupNames hname)
  rw [(map_name_openings_perm o names basename es ps).count_eq, otherNames, ← declaredNames,
    List.count_append, List.count_append, List.count_append, List.count_eq_zero_of_not_mem hfunction,
    List.count_eq_zero_of_not_mem htargets, List.count_eq_zero_of_not_mem hgroup,
    List.count_eq_one_of_mem (nodup_outerAliases o basename _) hmem]

end Declared

/-! ## §3. What the templates refer to. -/

/-- The words in a text: the longest runs of word characters. -/
def wordsIn (s : String) : List String :=
  ((s.toList.splitOnP (fun c => !isWordChar c)).filter (fun word => !word.isEmpty)).map
    String.ofList

/-- Whether a text of a template opens a comment. -/
def opensComment (s : String) : Bool :=
  "//".toList.isPrefixOf (s.toList.dropWhile (· == ' '))

mutual

/-- The texts of a part of a template that are code. -/
def codeOfNode : Node → List String
  | .text s => if opensComment s then [] else [s]
  | .value _ _ => []
  | .when conditions body =>
    if conditions.any (fun r => r.base == "add_comments") then [] else codeOfNodes body
  | .choose _ yes no => codeOfNodes yes ++ codeOfNodes no
  | .each _ _ body => codeOfNodes body

/-- The texts of the parts of a template that are code. -/
def codeOfNodes : List Node → List String
  | [] => []
  | n :: rest => codeOfNode n ++ codeOfNodes rest

end

/-- The types that templates refer to: the words of their code that start with a capital. -/
def templateTypes : List String :=
  ((templates.flatMap (fun t => codeOfNodes t.2)).flatMap wordsIn).filter
    (fun word => word.toList.head?.any Char.isUpper)

/-- The protocol of the bridge that the protocol of an application inherits. -/
def applicationRoot : String := "SBApplicationProtocol"

/-- **No alias has the name of a type that a template refers to**, but for one. -/
theorem templateTypes_subset : ∀ n ∈ templateTypes, n ∈ usedTypes ∨ n = applicationRoot := by
  decide +kernel

/-! ## §4. What declarations refer to. -/

/-- A reference with the parts that make it a list or an optional. -/
def TypeRef.decorated (r : TypeRef) (isList isOptional : Bool) : TypeRef :=
  let r := if isList then r.asList else r
  if isOptional then r.asOptional else r

/-- The types that a reference names: a generated one, or the words of its spelling. -/
def TypeRef.named (r : TypeRef) : List String :=
  if r.isGenerated then [r.base.display] else wordsIn r.base.display

/-- A property among the given ones has a type that is written as a value. -/
def Spells (o : Options) (names : Names) (ps : List Property) (v : Json) (r : TypeRef) : Prop :=
  ∃ p ∈ ps, mapBase o.overrides names p.type.base = .ok r ∧
    ∃ isList isOptional, v = (r.decorated isList isOptional).spelling

/-- What the declarations of a file refer to by name. -/
inductive RefersTo (o : Options) (names : Names) (cs : List Dictionary.Class)
    (qs : List ProtocolDeclaration) : String → Prop where
  /-- Fixed code refers to types of the bridge and of the language. -/
  | fixed {n : String} (hn : n ∈ templateTypes) : RefersTo o names cs qs n
  /-- A protocol inherits others. -/
  | inherited {q : ProtocolDeclaration} {n : String} (hq : q ∈ qs) (hn : n ∈ q.inheritance) :
      RefersTo o names cs qs n
  /-- A typed accessor gives objects of a type. -/
  | contained {q : ProtocolDeclaration} {a : AccessorDeclaration} (ho : o.typedAccessors = true)
      (hq : q ∈ qs) (ha : a ∈ q.accessors) : RefersTo o names cs qs a.type
  /-- A property, the identifier or a setter has a type. -/
  | member {c : Dictionary.Class} {q : ProtocolDeclaration} {v : Json} {r : TypeRef} {n : String}
      (hc : c ∈ cs) (hq : (declareClass o names c).outcome = .ok q) (hv : v ∈ q.memberTypes)
      (hr : Spells o names c.properties v r) (hn : n ∈ r.named) : RefersTo o names cs qs n

section Members

variable {o : Options} {names : Names} {c : Dictionary.Class} {q : ProtocolDeclaration}

theorem exists_spells_of_mapType {ps : List Property} {p : Property} (hp : p ∈ ps) {t : TypeRef}
    (ht : mapType o.overrides names p.type = .ok t) : ∃ r, Spells o names ps t.spelling r := by
  rw [mapType_eq, map_eq_ok] at ht
  obtain ⟨r, hr, rfl⟩ := ht
  exact ⟨r, p, hp, hr, p.type.isList, p.type.isOptional, rfl⟩

/-- The identifier is written with the type of a property. -/
theorem exists_spells_of_identifier {title : String} {all ps : List Property} (hps : ps ⊆ all)
    {m m' : Members} (h : (ps.foldlM (Members.addProperty o names title) m).outcome = .ok m')
    (hm : ∀ v, m.identifier = some v → ∃ r, Spells o names all v r) :
    ∀ v, m'.identifier = some v → ∃ r, Spells o names all v r := by
  induction ps generalizing m with
  | nil => exact Except.ok.inj h ▸ hm
  | cons p ps ih =>
    rw [List.foldlM_cons] at h
    obtain ⟨next, hnext, hrest⟩ := Run.outcome_bind_eq_ok.mp h
    refine ih (fun x hx => hps (List.mem_cons_of_mem p hx)) hrest ?_
    rcases addProperty_cases hnext with
      ⟨-, r, hr, rfl⟩ | ⟨-, _, -, ⟨-, rfl⟩ | ⟨-, _, -, rfl⟩⟩
    · rintro v hv
      rw [← Option.some.inj hv]
      exact ⟨r, p, hps List.mem_cons_self, hr, false, false, rfl⟩
    · exact hm
    · exact hm

/-- **Every type that a member is written with** is that of a property of the class. -/
theorem exists_spells_of_mem_memberTypes (h : (declareClass o names c).outcome = .ok q) :
    ∀ v ∈ q.memberTypes, ∃ r, Spells o names c.properties v r := by
  obtain ⟨m, hm⟩ := exists_isMadeOf h
  intro v hv
  unfold ProtocolDeclaration.memberTypes at hv
  rcases List.mem_append.mp hv with hv | hv
  · rcases List.mem_append.mp hv with hv | hv
    · obtain ⟨d, hd, rfl⟩ := List.mem_map.mp hv
      obtain ⟨p, hp, -, t, ht, htype⟩ := (writesReferences_of_declareClass h).properties d hd
      exact htype ▸ exists_spells_of_mapType hp ht
    · rw [hm.identifier, Option.mem_toList] at hv
      exact exists_spells_of_identifier (fun _ hp => hp) hm.members (fun v hv => absurd hv nofun)
        v hv
  · obtain ⟨s, hs, rfl⟩ := List.mem_map.mp hv
    obtain ⟨p, hp, hsetter⟩ := exists_right_of_forall₂ hm.forall₂_setters.flip hs
    obtain ⟨-, -, t, ht, htype⟩ := declareSetter_eq_ok.mp hsetter
    have hmem := List.mem_of_mem_filter (mem_of_mem_firstOfEach setterName hp).1
    exact htype ▸ exists_spells_of_mapType hmem ht

end Members

/-! ## §5. What aliases keep away from. -/

/-- The names of types that a file can refer to although an alias at its top level has them:
two protocols of the bridge, the words of an override, and the name that a definition would have
which is not declared. -/
inductive IsExposed (o : Options) (names : Names) (targets : List String) (n : String) : Prop where
  | root (h : n = applicationRoot ∨ n = rootProtocol)
  | override (v : Json) (hv : v ∈ o.overrides.map Prod.snd) (hn : n ∈ wordsIn v.display)
  | undeclared (name : String) (h : names.interfaceName name = .ok n) (hn : n ∉ targets)

section Kept

variable {o : Options} {names : Names} {basename : String} {d : Dictionary} {p : Plan}
  {es : List EnumerationDeclaration} {ps : List ProtocolDeclaration} {w : Parts} {n : String}

/-- A reference leads to a type of the file, to the type of enumerations without values or to a
definition that is not declared. -/
theorem Contents.reference_cases (hplan : (plan d basename).value = (names, .ok p))
    (h : Contents o names basename p es ps w) {name type : String}
    (hr : names.reference name = .ok type) :
    type ∈ aliasTargets (.of basename) o.classNames (declaredNames es ps) ∨
      type = emptyEnumerationType ∨ names.interfaceName name = .ok type := by
  rw [reference_eq hplan] at hr
  split at hr
  next r hreferent =>
    rw [← Except.ok.inj hr]
    rcases List.mem_append.mp (mem_of_referent? hreferent) with hr | hr
    · left
      rw [aliasTargets_eq, List.mem_append]
      rcases h.type_cases_of_mem_typed hplan hr with hsave | hdeclared
      · rw [hsave]
        exact .inl (List.mem_map_of_mem (List.mem_append_left _ (by decide)))
      · exact .inr hdeclared
    · obtain ⟨name, -, rfl⟩ := List.mem_map.mp hr
      exact .inr (.inl rfl)
  next => exact .inr (.inr hr)

/-- Every protocol inherits the root, and some the generic methods. -/
theorem basicInheritance_eq_ok_cases (hn : names.IsFor basename) {c : Dictionary.Class}
    {basic : List String} (h : basicInheritance names c = .ok basic) :
    basic = [rootProtocol] ∨ basic = [rootProtocol, (FixedNames.of basename).genericMethods] := by
  unfold basicInheritance at h
  rw [hn.fixed] at h
  split at h
  next => exact .inr (Except.ok.inj h).symm
  next => exact .inl (Except.ok.inj h).symm

section Inheritance

variable {c : Dictionary.Class} {q : ProtocolDeclaration}

/-- A protocol inherits the root, the generic methods and the protocol of its parent. -/
theorem inheritance_cases (hn : names.IsFor basename) (h : (declareClass o names c).outcome = .ok q)
    (hmem : n ∈ q.inheritance) :
    n = rootProtocol ∨ n = (FixedNames.of basename).genericMethods ∨
      ∃ parent, names.reference parent = .ok n := by
  obtain ⟨basic, hbasic, hinheritance⟩ := inheritanceOf_eq_ok_cases (head_of_declareClass h).2.2
  have hall : n ∈ basic → n = rootProtocol ∨ n = (FixedNames.of basename).genericMethods := by
    intro hmem
    rcases basicInheritance_eq_ok_cases hn hbasic with rfl | rfl
    · exact .inl (List.mem_singleton.mp hmem)
    · exact List.mem_pair.mp hmem
  rcases hinheritance with hq | ⟨parent, type, htype, hq⟩
  · exact (hall (hq ▸ hmem)).imp_right .inl
  · rw [hq] at hmem
    rcases List.mem_append.mp hmem with hmem | hmem
    · exact (hall hmem).imp_right .inl
    · exact .inr (.inr ⟨parent, List.mem_singleton.mp hmem ▸ htype⟩)

theorem rootProtocol_mem_inheritance (hn : names.IsFor basename)
    (h : (declareClass o names c).outcome = .ok q) : rootProtocol ∈ q.inheritance := by
  obtain ⟨basic, hbasic, hinheritance⟩ := inheritanceOf_eq_ok_cases (head_of_declareClass h).2.2
  have hroot : rootProtocol ∈ basic := by
    rcases basicInheritance_eq_ok_cases hn hbasic with rfl | rfl <;> exact List.mem_cons_self
  rcases hinheritance with hq | ⟨_, _, -, hq⟩
  · exact hq ▸ hroot
  · exact hq ▸ List.mem_append_left _ hroot

end Inheritance

theorem not_mem_usedTypes_of_mem_outerAliases {declared : List String} {a : AliasDeclaration}
    (h : a ∈ outerAliases o basename declared) : a.name ∉ usedTypes := by
  unfold outerAliases at h
  split at h
  next =>
    obtain ⟨-, hkept⟩ := List.mem_filter.mp h
    rw [Bool.and_eq_true, Bool.not_eq_true', ← Bool.not_eq_true, List.contains_iff_mem] at hkept
    exact hkept.2
  next => exact absurd h List.not_mem_nil

/-- The words of the table of types are looked at. -/
theorem wordsIn_knownTypes_subset : ∀ entry ∈ knownTypes, wordsIn entry.2 ⊆ usedTypes := by
  decide +kernel

/-- The words of the spelling of a type come from an override or from the table. -/
theorem mem_wordsIn_of_spelling? {name : String} {v : Json}
    (h : spelling? o.overrides name = some v) (hn : n ∈ wordsIn v.display) :
    n ∈ usedTypes ∨ v ∈ o.overrides.map Prod.snd := by
  rcases spelling?_cases h with ⟨entry, hentry, rfl⟩ | hoverride
  · exact .inl (wordsIn_knownTypes_subset entry hentry hn)
  · exact .inr hoverride

/-- **Where an alias at the top level has the name of a type that the file refers to**, the type
is one of those that are not looked at. -/
theorem Contents.isExposed_of_refersTo (hplan : (plan d basename).value = (names, .ok p))
    (h : Contents o names basename p es ps w)
    (htargets : n ∉ aliasTargets (.of basename) o.classNames (declaredNames es ps))
    (hused : n ∉ usedTypes) (hrefers : RefersTo o names p.classes ps n) :
    IsExposed o names (aliasTargets (.of basename) o.classNames (declaredNames es ps)) n := by
  have hreference : ∀ name, names.reference name = .ok n →
      IsExposed o names (aliasTargets (.of basename) o.classNames (declaredNames es ps)) n := by
    intro name hr
    rcases h.reference_cases hplan hr with hmem | rfl | hinterface
    · exact absurd hmem htargets
    · exact absurd (by decide) hused
    · exact .undeclared name hinterface htargets
  cases hrefers with
  | fixed hn =>
    rcases templateTypes_subset n hn with hmem | hroot
    · exact absurd hmem hused
    · exact .root (.inl hroot)
  | inherited hq hn =>
    obtain ⟨c, -, hdeclared⟩ := exists_right_of_forall₂ h.protocols.flip hq
    rcases inheritance_cases (plan_eq_ok hplan).1 hdeclared hn with hroot | hgeneric | ⟨parent, hr⟩
    · exact .root (.inr hroot)
    · refine absurd ?_ htargets
      rw [hgeneric]
      exact List.mem_append_left _ (List.mem_append_left _ (by simp))
    · exact hreference parent hr
  | contained _ hq ha =>
    obtain ⟨c, -, hdeclared⟩ := exists_right_of_forall₂ h.protocols.flip hq
    exact hreference _ ((writesReferences_of_declareClass hdeclared).contained _ ha)
  | member _ _ _ hr hn =>
    obtain ⟨q, -, hbase, -⟩ := hr
    rcases mapBase_cases hbase with ⟨name, type, htype, rfl⟩ | ⟨name, v, hv, rfl⟩
    · -- A generated type is named as a whole.
      have hname : n = type := List.mem_singleton.mp hn
      exact hreference name (hname ▸ htype)
    · rcases mem_wordsIn_of_spelling? hv hn with hmem | hmem
      · exact absurd hmem hused
      · exact .override v hmem hn

end Kept

/-! ## §6. Files. -/

/-- An alias at the top level hides nothing: no other declaration has its name, and no type that
the file refers to has, unless it is one that is not looked at. -/
structure HidesOnlyExposed (o : Options) (names : Names) (basename : String) (p : Plan)
    (es : List EnumerationDeclaration) (ps : List ProtocolDeclaration) (a : AliasDeclaration) :
    Prop where
  once : ((openings o names basename es ps).map Opening.name).count a.name = 1
  not_used : a.name ∉ usedTypes
  isExposed : RefersTo o names p.classes ps a.name →
    IsExposed o names (aliasTargets (.of basename) o.classNames (declaredNames es ps)) a.name

/-- **What aliases at the top level hide.**  Every type that a member is written with is that of
a property, so what a file refers to is known.  An alias at the top level is the only declaration
of its name, and the types of its name that the file refers to are among the two protocols of the
bridge, the words of overrides and the names of definitions that are not declared. -/
theorem generate_hidesOnlyExposed (o : Options) (d : Dictionary) (basename text : String)
    (names : Names) (ho : o.flatAliases = true)
    (h : (generate o d basename).value = (names, .ok text)) :
    ∃ p es ps w, (plan d basename).value = (names, .ok p) ∧
      Contents o names basename p es ps w ∧ text = joinParts w.all ∧
      Opens text (openings o names basename es ps) ∧
      List.Forall₂ (fun c q => ∀ v ∈ q.memberTypes, ∃ r, Spells o names c.properties v r)
        p.classes ps ∧
      w.aliases = [ofLines
        (groupedLines o.addComments basename (groupedAliases o basename (declaredNames es ps))
          ++ outerLines (outerAliases o basename (declaredNames es ps)))] ∧
      ∀ a ∈ outerAliases o basename (declaredNames es ps),
        HidesOnlyExposed o names basename p es ps a := by
  obtain ⟨p, es, ps, w, hplan, hw, rfl⟩ := contents_of_generate h
  refine ⟨p, es, ps, w, hplan, hw, rfl, hw.opens,
    hw.protocols.imp (fun _ _ => exists_spells_of_mem_memberTypes),
    hw.aliases_eq (by rw [ho, Bool.or_true]), fun a ha => ?_⟩
  have htargets := (not_mem_of_mem_outerAliases (List.mem_map_of_mem ha)).1
  have hused := not_mem_usedTypes_of_mem_outerAliases ha
  exact ⟨hw.count_name_outerAliases hplan ha, hused, hw.isExposed_of_refersTo hplan htargets hused⟩

theorem generate_hidesOnlyExposed_player :
    richOptions.flatAliases = true ∧
      ∃ names text, (generate richOptions playerDictionary "Music").value = (names, .ok text) ∧
        ∃ p es ps w, (plan playerDictionary "Music").value = (names, .ok p) ∧
          Contents richOptions names "Music" p es ps w ∧ text = joinParts w.all ∧
          Opens text (openings richOptions names "Music" es ps) ∧
          List.Forall₂
            (fun c q => ∀ v ∈ q.memberTypes, ∃ r, Spells richOptions names c.properties v r)
            p.classes ps ∧
          w.aliases = [ofLines
            (groupedLines richOptions.addComments "Music"
                (groupedAliases richOptions "Music" (declaredNames es ps))
              ++ outerLines (outerAliases richOptions "Music" (declaredNames es ps)))] ∧
          ∀ a ∈ outerAliases richOptions "Music" (declaredNames es ps),
            HidesOnlyExposed richOptions names "Music" p es ps a := by
  obtain ⟨names, text, h⟩ := exists_text_player
  exact ⟨rfl, names, text, h,
    generate_hidesOnlyExposed richOptions playerDictionary "Music" text names rfl h⟩

/-- Options for aliases at the top level, with a spelling for integers. -/
def spelledOptions : Options :=
  { flatAliases := true, overrides := [("integer", .str "CGFloat")] }

/-- A class that is named like the root of all protocols. -/
def rootDictionary : Dictionary :=
  { suites := [{ name := "Bridge Suite", classes := [{ name := "SBObjectProtocol" }] }] }

/-- A class that is named like the spelling of integers, and has one. -/
def numberClass : Dictionary.Class :=
  { name := "CGFloat", properties := [{ name := "value", type := { base := "integer" } }] }

/-- Numbers. -/
def numberDictionary : Dictionary :=
  { suites := [{ name := "Number Suite", classes := [numberClass] }] }

/-- A file whose declared types have the given names has the aliases for these. -/
theorem exists_outerAliases (o : Options) (d : Dictionary) (basename : String)
    (declared : List String)
    (htext : (generate o d basename).value.2.toOption.isSome = true)
    (htypes : (plan d basename).value.2.toOption.map (fun p =>
      (p.designations (plan d basename).value.1).map Designation.type) = some declared) :
    ∃ names text, (generate o d basename).value = (names, .ok text) ∧
      ∃ p es ps w, (plan d basename).value = (names, .ok p) ∧
        Contents o names basename p es ps w ∧ text = joinParts w.all ∧
        declaredNames es ps = declared := by
  obtain ⟨names, text, h⟩ := exists_text_of_isSome htext
  obtain ⟨p, es, ps, w, hplan, hw, rfl⟩ := contents_of_generate h
  rw [hplan] at htypes
  exact ⟨names, _, h, p, es, ps, w, hplan, hw, rfl, hw.map_name.trans (Option.some.inj htypes)⟩

/-- The protocol of a class is among those of a file. -/
theorem Contents.exists_protocol {o : Options} {names : Names} {basename : String} {d : Dictionary}
    {p : Plan} {es : List EnumerationDeclaration} {ps : List ProtocolDeclaration} {w : Parts}
    (hplan : (plan d basename).value = (names, .ok p)) (h : Contents o names basename p es ps w)
    {c : Dictionary.Class} (hc : d.classes = [c]) :
    c ∈ p.classes ∧ ∃ q ∈ ps, (declareClass o names c).outcome = .ok q := by
  have hclasses : p.classes = [c] := by
    rw [(plan_eq_ok hplan).2.1, hc]
    rfl
  have hmem : c ∈ p.classes := hclasses ▸ List.mem_cons_self
  exact ⟨hmem, exists_right_of_forall₂ h.protocols hmem⟩

/-- **An alias can hide the root of all protocols, and a type that an override spells.** -/
theorem flat_aliases_hide :
    (∃ names text, (generate spelledOptions rootDictionary "Test").value = (names, .ok text) ∧
      ∃ p es ps w, (plan rootDictionary "Test").value = (names, .ok p) ∧
        Contents spelledOptions names "Test" p es ps w ∧ text = joinParts w.all ∧
        ⟨"SBObjectProtocol", "TestSBObjectProtocol"⟩
          ∈ outerAliases spelledOptions "Test" (declaredNames es ps) ∧
        RefersTo spelledOptions names p.classes ps "SBObjectProtocol") ∧
    (∃ names text, (generate spelledOptions numberDictionary "Test").value = (names, .ok text) ∧
      ∃ p es ps w, (plan numberDictionary "Test").value = (names, .ok p) ∧
        Contents spelledOptions names "Test" p es ps w ∧ text = joinParts w.all ∧
        ⟨"CGFloat", "TestCGFloat"⟩ ∈ outerAliases spelledOptions "Test" (declaredNames es ps) ∧
        RefersTo spelledOptions names p.classes ps "CGFloat") := by
  constructor
  · obtain ⟨names, text, h, p, es, ps, w, hplan, hw, htext, hdeclared⟩ :=
      exists_outerAliases spelledOptions rootDictionary "Test" ["TestSBObjectProtocol"]
        (by decide +kernel) (by decide +kernel)
    obtain ⟨-, q, hq, hclass⟩ := hw.exists_protocol hplan (c := { name := "SBObjectProtocol" }) rfl
    refine ⟨names, text, h, p, es, ps, w, hplan, hw, htext, ?_,
      .inherited hq (rootProtocol_mem_inheritance (plan_eq_ok hplan).1 hclass)⟩
    rw [hdeclared]
    decide +kernel
  · obtain ⟨names, text, h, p, es, ps, w, hplan, hw, htext, hdeclared⟩ :=
      exists_outerAliases spelledOptions numberDictionary "Test" ["TestCGFloat"]
        (by decide +kernel) (by decide +kernel)
    obtain ⟨hc, q, -, hclass⟩ := hw.exists_protocol hplan (c := numberClass) rfl
    refine ⟨names, text, h, p, es, ps, w, hplan, hw, htext, ?_, ?_⟩
    · rw [hdeclared]
      decide +kernel
    · -- The property and its setter are written with the type that stands for integers.
      have hcount : (declareClass spelledOptions (plan numberDictionary "Test").value.1
          numberClass).outcome.toOption.map (fun q => q.memberTypes.length) = some 2 := by
        decide +kernel
      rw [hplan, hclass] at hcount
      obtain ⟨v, hv⟩ := List.exists_mem_of_length_pos
        ((Option.some.inj hcount).symm ▸ (by decide : 0 < 2))
      obtain ⟨r, hr⟩ := exists_spells_of_mem_memberTypes hclass v hv
      have hnamed : "CGFloat" ∈ r.named := by
        obtain ⟨m, hm, hbase, -⟩ := hr
        rw [List.mem_singleton.mp hm] at hbase
        have hinteger : mapBase spelledOptions.overrides names "integer"
            = .ok (.plain (.str "CGFloat")) := by
          rfl
        rw [← Except.ok.inj (hinteger.symm.trans hbase)]
        decide +kernel
      exact .member hc hclass hv hr hnamed

end ScriptingBindings.Swift
