/-
  ScriptingBindings.Proofs.Swift.Agreement
  ──────────────────────────────────
  **REFERENCES AND DECLARATIONS.**

  A declared definition is referred to by the type that it is declared under,
  unless an earlier definition claims its name: the lower case spelling of one
  name can be another name, and a class and an enumeration can share one.

      names.reference r.name = .ok r.type  ↔  ¬ IsOverruled (p.typed names d) r

  Every definition of a dictionary, declared or passed over, is referred to by
  a type of the file or by the type of enumerations without values.  There are
  two exceptions.  An enumeration without values can catch the names that
  differ from its own in letter case only, and a second spelling of an
  enumeration whose name is kept apart from a fixed one strays to the name
  that a class would get.
-/
import ScriptingBindings.Proofs.Swift.MemberNames
import ScriptingBindings.Proofs.Swift.References
import ScriptingBindings.Proofs.Swift.TopLevel

namespace ScriptingBindings.Swift

open Dictionary Text

/-! ## §1. Where references are written. -/

/-- What a protocol writes for the other definitions that its class names: the parent, the
types of contained objects and the types of properties. -/
structure WritesReferences (o : Options) (names : Names) (c : Dictionary.Class)
    (q : ProtocolDeclaration) : Prop where
  /-- Only a class that names itself as its parent does not inherit it. -/
  inherited : ∀ parent, c.inherits = some parent → parent ≠ "" →
    ∃ type, names.reference parent = .ok type ∧ (type ∈ q.inheritance ∨ type = q.name)
  contained : ∀ a ∈ q.accessors, names.reference a.title = .ok a.type
  properties : ∀ m ∈ q.properties, ∃ p ∈ c.properties, readName p = .ok m.name ∧
    ∃ t, mapType o.overrides names p.type = .ok t ∧ m.type = t.spelling

section Written

variable {o : Options} {names : Names} {c : Dictionary.Class}

theorem exists_reference_of_inheritanceOf {interface : String} {inheritance : List String}
    (h : inheritanceOf names interface c = .ok inheritance) {parent : String}
    (hparent : c.inherits = some parent) (hne : parent ≠ "") :
    ∃ type, names.reference parent = .ok type ∧ (type ∈ inheritance ∨ type = interface) := by
  rw [inheritanceOf_eq] at h
  obtain ⟨basic, -, h⟩ := bind_eq_ok.mp h
  rw [hparent] at h
  dsimp only at h
  rw [if_neg (by simpa using hne)] at h
  obtain ⟨type, htype, h⟩ := bind_eq_ok.mp h
  refine ⟨type, htype, ?_⟩
  split at h
  next hskip =>
    rw [Bool.or_eq_true, decide_eq_true_eq, List.contains_iff_mem] at hskip
    rw [← Except.ok.inj h]
    exact hskip.symm
  next =>
    rw [← Except.ok.inj h]
    exact .inl (List.mem_append_right _ List.mem_cons_self)

theorem reference_of_mem_declareAccessors {title : String} {taken : List String}
    {elements : List Dictionary.Element} {as : List AccessorDeclaration}
    (h : (declareAccessors o names title taken elements).outcome = .ok as) :
    ∀ a ∈ as, names.reference a.title = .ok a.type := by
  induction elements generalizing taken as with
  | nil =>
    rw [← Except.ok.inj h]
    exact fun a ha => absurd ha List.not_mem_nil
  | cons e elements ih =>
    rw [declareAccessors_cons] at h
    obtain ⟨name, -, h⟩ := Run.outcome_bind_eq_ok.mp h
    split at h
    next =>
      obtain ⟨_, -, h⟩ := Run.outcome_bind_eq_ok.mp h
      exact ih h
    next =>
      obtain ⟨type, htype, h⟩ := Run.outcome_bind_eq_ok.mp h
      obtain ⟨more, hmore, h⟩ := Run.outcome_bind_eq_ok.mp h
      rw [← Except.ok.inj h]
      exact List.forall_mem_cons.mpr ⟨htype, ih hmore⟩

/-- Each declared property has the type of one that it can be read for. -/
theorem mapType_of_mem_properties {title : String} {ps : List Property} {m m' : Members}
    (h : (ps.foldlM (Members.addProperty o names title) m).outcome = .ok m') :
    ∀ q ∈ m'.properties, q ∈ m.properties ∨ ∃ p ∈ ps, readName p = .ok q.name ∧
      ∃ t, mapType o.overrides names p.type = .ok t ∧ q.type = t.spelling := by
  induction ps generalizing m with
  | nil => exact fun q hq => .inl (Except.ok.inj h ▸ hq)
  | cons p ps ih =>
    rw [List.foldlM_cons] at h
    obtain ⟨next, hnext, hrest⟩ := Run.outcome_bind_eq_ok.mp h
    intro q hq
    rcases ih hrest q hq with hq | ⟨p', hp', hq⟩
    · rcases addProperty_cases hnext with
        ⟨-, _, -, rfl⟩ | ⟨hid, name, hname, ⟨-, rfl⟩ | ⟨-, t, ht, rfl⟩⟩
      · exact .inl hq
      · exact .inl hq
      · rcases List.mem_append.mp hq with hq | hq
        · exact .inl hq
        · -- The property that is declared in this step.
          rw [List.mem_singleton.mp hq]
          refine .inr ⟨p, List.mem_cons_self, ?_, t, ht, rfl⟩
          rw [readName, if_neg hid, hname]
    · exact .inr ⟨p', List.mem_cons_of_mem p hp', hq⟩

/-- **A declared protocol writes references** wherever its class names a definition. -/
theorem writesReferences_of_declareClass {q : ProtocolDeclaration}
    (h : (declareClass o names c).outcome = .ok q) : WritesReferences o names c q := by
  rw [declareClass_eq] at h
  obtain ⟨interface, -, h⟩ := Run.outcome_bind_eq_ok.mp h
  obtain ⟨inheritance, hinheritance, h⟩ := Run.outcome_bind_eq_ok.mp h
  obtain ⟨members, hmembers, h⟩ := Run.outcome_bind_eq_ok.mp h
  obtain ⟨accessors, haccessors, h⟩ := Run.outcome_bind_eq_ok.mp h
  obtain ⟨setters, -, h⟩ := Run.outcome_bind_eq_ok.mp h
  rw [Run.outcome_ofExcept] at hinheritance
  rw [← Except.ok.inj h]
  exact {
    inherited := fun parent => exists_reference_of_inheritanceOf hinheritance
    contained := reference_of_mem_declareAccessors haccessors
    properties := fun m hm =>
      (mapType_of_mem_properties hmembers m hm).resolve_left List.not_mem_nil }

/-- The name of a type that is not spelled otherwise and has no dot is a reference. -/
theorem mapBase_eq_generated {overrides : OrderedMap Json} {name : String}
    (hblank : isAllBlank name.toList = false) (hdot : '.' ∉ name.toList)
    (hspelling : spelling? overrides name = none) :
    mapBase overrides names name = (names.reference name).map .generated := by
  have hhead : String.ofList (name.toList.takeWhile (· != '.')) = name := by
    rw [List.takeWhile_eq_self_iff.mpr, String.ofList_toList]
    intro c hc
    rw [bne_iff_ne]
    exact fun heq => hdot (heq ▸ hc)
  have hcontains : name.toList.contains '.' = false := by simpa using hdot
  rw [mapBase_eq]
  simp only [hblank, hhead, hcontains, hspelling, Bool.false_and, Bool.false_eq_true, if_false]

end Written

/-! ## §2. Declared definitions. -/

/-- Another definition of another type was the first to claim the name of a definition. -/
def IsOverruled (rs : List Designation) (r : Designation) : Prop :=
  ∃ first, rs.find? (·.claims r.name) = some first ∧ first.type ≠ r.type

section Declared

variable {o : Options} {names : Names} {basename : String} {d : Dictionary} {p : Plan}
  {es : List EnumerationDeclaration} {ps : List ProtocolDeclaration} {w : Parts}

/-- The types that a file declares are those of its definitions. -/
theorem Contents.map_name (h : Contents o names basename p es ps w) :
    es.map EnumerationDeclaration.name ++ ps.map ProtocolDeclaration.name
      = (p.designations names).map Designation.type := by
  have henumeration : Designation.type ∘ names.designateEnumeration = names.enumerationOf :=
    funext names.type_designateEnumeration
  have hclass : Designation.type ∘ names.designateClass = names.interfaceOf :=
    funext names.type_designateClass
  rw [map_name_of_declaredEnumerations h.enumerations, map_name_of_declared h.protocols,
    Plan.designations, List.map_append, List.map_map, List.map_map, henumeration, hclass]

/-- Each protocol of a file writes references. -/
theorem Contents.writesReferences (h : Contents o names basename p es ps w) :
    List.Forall₂ (WritesReferences o names) p.classes ps :=
  h.protocols.imp (fun _ _ => writesReferences_of_declareClass)

/-- A name that a definition with a type of its own claims refers to the first such type. -/
theorem reference_of_find? (hplan : (plan d basename).value = (names, .ok p)) {name : String}
    {first : Designation} (h : (p.typed names d).find? (·.claims name) = some first) :
    names.reference name = .ok first.type := by
  have hfirst : (p.known names d basename).find? (·.claims name) = some first := by
    rw [Plan.known, List.find?_append, h, Option.some_or]
  rw [reference_eq hplan, referent?_of_find? hfirst]

/-- **A definition is referred to by its own type** unless it is overruled. -/
theorem reference_designation_iff (hplan : (plan d basename).value = (names, .ok p))
    {r : Designation} (hr : r ∈ p.designations names) :
    names.reference r.name = .ok r.type ↔ ¬ IsOverruled (p.typed names d) r := by
  have hmem : r ∈ p.typed names d := List.mem_append_right _ hr
  obtain ⟨first, hfirst⟩ := exists_find?_claims hmem
  rw [reference_of_find? hplan hfirst, Except.ok.injEq]
  constructor
  · rintro hsame ⟨other, hother, hne⟩
    rw [hfirst, Option.some_inj] at hother
    exact hne (hother ▸ hsame)
  · intro hnot
    by_contra hne
    exact hnot ⟨first, hfirst, hne⟩

end Declared

/-- **What the declared definitions are referred to by.**  The types that a file declares are
those of its definitions, in order; each definition is referred to by its own type exactly where
no earlier claim overrules it; and the protocols write these references for their parents, for
the objects that they contain and for the types of their properties. -/
theorem generate_refersToDeclared_iff (o : Options) (d : Dictionary) (basename text : String)
    (names : Names) (h : (generate o d basename).value = (names, .ok text)) :
    ∃ p es ps w, (plan d basename).value = (names, .ok p) ∧
      Contents o names basename p es ps w ∧ text = joinParts w.all ∧
      Opens text (openings o names basename es ps) ∧
      es.map EnumerationDeclaration.name ++ ps.map ProtocolDeclaration.name
        = (p.designations names).map Designation.type ∧
      (∀ r ∈ p.designations names,
        names.reference r.name = .ok r.type ↔ ¬ IsOverruled (p.typed names d) r) ∧
      List.Forall₂ (WritesReferences o names) p.classes ps ∧
      ∀ name, isAllBlank name.toList = false → '.' ∉ name.toList →
        spelling? o.overrides name = none →
        mapBase o.overrides names name = (names.reference name).map .generated := by
  obtain ⟨p, es, ps, w, hplan, hw, rfl⟩ := contents_of_generate h
  exact ⟨p, es, ps, w, hplan, hw, rfl, hw.opens, hw.map_name,
    fun r hr => reference_designation_iff hplan hr, hw.writesReferences,
    fun name => mapBase_eq_generated⟩

/-- There is a file for the player. -/
theorem exists_text_player :
    ∃ names text, (generate richOptions playerDictionary "Music").value = (names, .ok text) :=
  exists_text_of_isSome (by decide +kernel)

theorem generate_refersToDeclared_iff_player :
    ∃ names text, (generate richOptions playerDictionary "Music").value = (names, .ok text) ∧
      ∃ p es ps w, (plan playerDictionary "Music").value = (names, .ok p) ∧
        Contents richOptions names "Music" p es ps w ∧ text = joinParts w.all ∧
        Opens text (openings richOptions names "Music" es ps) ∧
        es.map EnumerationDeclaration.name ++ ps.map ProtocolDeclaration.name
          = (p.designations names).map Designation.type ∧
        (∀ r ∈ p.designations names,
          names.reference r.name = .ok r.type ↔
            ¬ IsOverruled (p.typed names playerDictionary) r) ∧
        List.Forall₂ (WritesReferences richOptions names) p.classes ps ∧
        ∀ name, isAllBlank name.toList = false → '.' ∉ name.toList →
          spelling? richOptions.overrides name = none →
          mapBase richOptions.overrides names name = (names.reference name).map .generated := by
  obtain ⟨names, text, h⟩ := exists_text_player
  exact ⟨names, text, h,
    generate_refersToDeclared_iff richOptions playerDictionary "Music" text names h⟩

/-- Two classes whose names differ in letter case. -/
def playlistDictionary : Dictionary :=
  { suites := [
      { name := "Player Suite"
        classes := [{ name := "playList" }, { name := "playlist" }] }] }

/-- **A definition can be overruled**: the lower case spelling of the first class is the name of
the second one, which is referred to by the protocol of the first. -/
theorem reference_of_overruled :
    ∃ names text, (generate {} playlistDictionary "Test").value
        = (names, .ok text) ∧
      ∃ p, (plan playlistDictionary "Test").value = (names, .ok p) ∧
        ⟨"playlist", "TestPlaylist"⟩ ∈ p.designations names ∧
        names.reference "playlist" = .ok "TestPlayList" := by
  obtain ⟨names, text, h⟩ := exists_text_of_isSome
    (r := (generate {} playlistDictionary "Test").value) (by decide +kernel)
  obtain ⟨p, -, -, -, hplan, -, -⟩ := contents_of_generate h
  have hmem : (plan playlistDictionary "Test").value.2.toOption.any (fun p =>
      decide (⟨"playlist", "TestPlaylist"⟩ ∈
        p.designations (plan playlistDictionary "Test").value.1)) = true := by decide +kernel
  have href : ((plan playlistDictionary "Test").value.1.reference "playlist").toOption
      = some "TestPlayList" := by decide +kernel
  rw [hplan] at hmem href
  exact ⟨names, text, h, p, hplan, of_decide_eq_true hmem, eq_ok_of_toOption href⟩

/-! ## §3. All definitions. -/

/-- The names of the definitions of a dictionary. -/
def definedNames (d : Dictionary) : List String :=
  d.classes.map Dictionary.Class.name ++ d.enumerations.map Enumeration.name

/-- The types among declarations, which are all of them but functions. -/
def typeNames (ds : List Opening) : List String :=
  (ds.filter (fun d => d.kind != .function)).map Opening.name

/-- A name refers to one of the given types, or it is the name of an enumeration without values
and refers to the type that all of these have. -/
def IsResolved (d : Dictionary) (names : Names) (types : List String) (name : String) : Prop :=
  ∃ type, names.reference name = .ok type ∧
    (type ∈ types ∨ type = emptyEnumerationType ∧
      ∃ e ∈ d.enumerations, e.name = name ∧ e.enumerators = [])

/-- A name that no enumeration without values has refers to such an enumeration. -/
def IsCaught (d : Dictionary) (rs : List Designation) (types : List String) (name : String) :
    Prop :=
  ∃ e ∈ d.enumerations, e.enumerators = [] ∧ referent? rs name = some (designateEmpty e.name) ∧
    emptyEnumerationType ∉ types ∧ ∀ other ∈ d.enumerations, other.name = name →
      other.enumerators ≠ []

/-- A name that would make a fixed one refers to no definition, and no type has the name that a
class would get instead. -/
def IsStray (names : Names) (rs : List Designation) (types : List String) (name : String) : Prop :=
  referent? rs name = none ∧ ∃ made, names.prefixed name = .ok made ∧ names.isFixed made = true ∧
    made ++ "Class" ∉ types

section Types

variable {o : Options} {names : Names} {basename : String} {es : List EnumerationDeclaration}
  {ps : List ProtocolDeclaration}

theorem mem_typeNames {ds : List Opening} {opening : Opening} (h : opening ∈ ds)
    (hkind : opening.kind ≠ .function) : opening.name ∈ typeNames ds :=
  List.mem_map_of_mem (List.mem_filter.mpr ⟨h, bne_iff_ne.mpr hkind⟩)

/-- The types of a file: the fixed save options are one of them. -/
theorem saveOptions_mem_typeNames :
    (FixedNames.of basename).saveOptions ∈ typeNames (openings o names basename es ps) := by
  have hmem : (⟨.enumeration, (FixedNames.of basename).saveOptions⟩ : Opening)
      ∈ openings o names basename es ps := by simp [openings]
  exact mem_typeNames hmem nofun

/-- So are those of declared enumerations and classes. -/
theorem mem_typeNames_of_declared {type : String}
    (h : type ∈ es.map EnumerationDeclaration.name ++ ps.map ProtocolDeclaration.name) :
    type ∈ typeNames (openings o names basename es ps) := by
  rcases List.mem_append.mp h with h | h
  · obtain ⟨e, he, rfl⟩ := List.mem_map.mp h
    have hmem : (⟨.enumeration, e.name⟩ : Opening) ∈ openings o names basename es ps := by
      simp only [openings, List.mem_append]
      exact .inl (.inl (.inl (.inl (.inl (.inl (.inr (List.mem_map_of_mem he)))))))
    exact mem_typeNames hmem nofun
  · obtain ⟨q, hq, rfl⟩ := List.mem_map.mp h
    have hmem : (⟨.protocol, q.name⟩ : Opening) ∈ openings o names basename es ps := by
      simp only [openings, List.mem_append]
      exact .inl (.inl (.inl (.inl (.inl (.inr (List.mem_map_of_mem hq))))))
    exact mem_typeNames hmem nofun

end Types

section Defined

variable {o : Options} {names : Names} {basename : String} {d : Dictionary} {p : Plan}
  {es : List EnumerationDeclaration} {ps : List ProtocolDeclaration} {w : Parts}
  {types : List String} {name : String}

/-- A definition that becomes known with a type of its own has that of the save options, or one
that is declared for a definition. -/
theorem Contents.type_cases_of_mem_typed (hplan : (plan d basename).value = (names, .ok p))
    (hw : Contents o names basename p es ps w) {r : Designation} (hr : r ∈ p.typed names d) :
    r.type = (FixedNames.of basename).saveOptions ∨
      r.type ∈ es.map EnumerationDeclaration.name ++ ps.map ProtocolDeclaration.name := by
  rcases List.mem_append.mp hr with hr | hr
  · obtain ⟨e, he, rfl⟩ := List.mem_map.mp hr
    left
    rw [Names.type_designateEnumeration]
    exact (plan_eq_ok hplan).1.isSaveOptions_iff.mp (List.mem_filter.mp he).2
  · exact .inr (hw.map_name ▸ List.mem_map_of_mem hr)

/-- So its type is one of the file. -/
theorem Contents.type_mem_of_mem_typed (hplan : (plan d basename).value = (names, .ok p))
    (hw : Contents o names basename p es ps w) {r : Designation} (hr : r ∈ p.typed names d) :
    r.type ∈ typeNames (openings o names basename es ps) := by
  rcases hw.type_cases_of_mem_typed hplan hr with hsave | hdeclared
  · exact hsave ▸ saveOptions_mem_typeNames
  · exact mem_typeNames_of_declared hdeclared

/-- The protocol of a class is declared, though perhaps for another class. -/
theorem Contents.interfaceOf_mem (hplan : (plan d basename).value = (names, .ok p))
    (hw : Contents o names basename p es ps w) {c : Dictionary.Class} (hc : c ∈ d.classes) :
    names.interfaceOf c ∈ typeNames (openings o names basename es ps) := by
  refine mem_typeNames_of_declared (List.mem_append_right _ ?_)
  rw [hw.map_name_protocols hplan, firstClasses, mem_map_firstOfEach]
  exact ⟨List.mem_map_of_mem hc, List.not_mem_nil⟩

/-- The type of an enumeration that has not become known under its own name is declared. -/
theorem Contents.enumerationOf_mem (hplan : (plan d basename).value = (names, .ok p))
    (hw : Contents o names basename p es ps w) {e : Enumeration} (he : e ∈ d.enumerations)
    (hunknown : ∀ r ∈ p.known names d basename, r.name ≠ e.name) :
    names.enumerationOf e ∈ es.map EnumerationDeclaration.name := by
  -- One that stands for the save options has become known, declared or not.
  have hsave : names.enumerationOf e ∉ [(FixedNames.of basename).saveOptions] := by
    intro hmem
    have hsaver : names.designateEnumeration e ∈ names.savers d.enumerations :=
      List.mem_map_of_mem (List.mem_filter.mpr
        ⟨he, (plan_eq_ok hplan).1.isSaveOptions_iff.mpr (List.mem_singleton.mp hmem)⟩)
    exact hunknown _ (List.mem_append_left _ (List.mem_append_left _ hsaver)) rfl
  rw [hw.map_name_enumerations hplan, mem_map_firstOfEach]
  rcases enumerationOf_cases (n := names) [(FixedNames.of basename).saveOptions] he with
    hseen | hempty | hvalued
  · exact absurd hseen hsave
  · exact absurd rfl (hunknown _ (List.mem_append_right _ (List.mem_map_of_mem hempty)))
  · exact ⟨hvalued, hsave⟩

/-- The names of the definitions of a dictionary can be made. -/
theorem exists_interfaceName (hplan : (plan d basename).value = (names, .ok p))
    (hname : name ∈ definedNames d) : ∃ type, names.interfaceName name = .ok type := by
  rcases List.mem_append.mp hname with hname | hname
  · obtain ⟨c, hc, rfl⟩ := List.mem_map.mp hname
    exact ⟨_, (plan_eq_ok hplan).2.2 c hc⟩
  · obtain ⟨e, he, rfl⟩ := List.mem_map.mp hname
    obtain ⟨made, hmade, -⟩ := Names.enumerationName_eq_ok.mp
      ((enumerations_of_plan hplan).2 e he)
    exact ⟨_, Names.interfaceName_eq_ok.mpr ⟨made, hmade, rfl⟩⟩

/-- **Every definition is referred to by a type.** -/
theorem exists_reference (hplan : (plan d basename).value = (names, .ok p))
    (hname : name ∈ definedNames d) : ∃ type, names.reference name = .ok type := by
  rw [reference_eq hplan]
  cases referent? (p.known names d basename) name with
  | none => exact exists_interfaceName hplan hname
  | some r => exact ⟨r.type, rfl⟩

/-- A name that is caught does not refer to a declared type. -/
theorem not_isCaught_of_isResolved (hplan : (plan d basename).value = (names, .ok p))
    (h : IsResolved d names types name) : ¬ IsCaught d (p.known names d basename) types name := by
  rintro ⟨e, -, -, hreferent, hundeclared, hnone⟩
  obtain ⟨type, href, hresolved⟩ := h
  rw [reference_eq hplan, hreferent] at href
  have htype : emptyEnumerationType = type := Except.ok.inj href
  rcases hresolved with hmem | ⟨-, e', he', hname, hempty⟩
  · exact hundeclared (htype ▸ hmem)
  · exact hnone e' he' hname hempty

/-- The name of a class that was kept apart from a fixed one is not the type of enumerations
without values. -/
theorem append_class_ne_emptyEnumerationType (made : String) :
    made ++ "Class" ≠ emptyEnumerationType := by
  intro heq
  have hsuffix : "Class".toList <:+ emptyEnumerationType.toList :=
    ⟨made.toList, by rw [← String.toList_append, heq]⟩
  exact absurd hsuffix (by decide)

/-- Neither does a name that strays. -/
theorem not_isStray_of_isResolved (hplan : (plan d basename).value = (names, .ok p))
    (h : IsResolved d names types name) :
    ¬ IsStray names (p.known names d basename) types name := by
  rintro ⟨hreferent, made, hmade, hfixed, hundeclared⟩
  obtain ⟨type, href, hresolved⟩ := h
  have hinterface : names.interfaceName name = .ok (made ++ "Class") :=
    Names.interfaceName_eq_ok.mpr ⟨made, hmade, by rw [if_pos hfixed]⟩
  rw [reference_eq hplan, hreferent, hinterface] at href
  have htype : made ++ "Class" = type := Except.ok.inj href
  rcases hresolved with hmem | ⟨hempty, -⟩
  · exact hundeclared (htype ▸ hmem)
  · exact append_class_ne_emptyEnumerationType made (htype.trans hempty)

/-- A name that refers to a definition is resolved unless it is caught. -/
theorem Contents.isResolved_of_referent? (hplan : (plan d basename).value = (names, .ok p))
    (hw : Contents o names basename p es ps w) {r : Designation}
    (hr : referent? (p.known names d basename) name = some r)
    (hcaught : ¬ IsCaught d (p.known names d basename)
      (typeNames (openings o names basename es ps)) name) :
    IsResolved d names (typeNames (openings o names basename es ps)) name := by
  have href : names.reference name = .ok r.type := by rw [reference_eq hplan, hr]
  refine ⟨r.type, href, ?_⟩
  rcases List.mem_append.mp (mem_of_referent? hr) with htyped | hempty
  · exact .inl (hw.type_mem_of_mem_typed hplan htyped)
  · obtain ⟨first, hfirst, rfl⟩ := List.mem_map.mp hempty
    obtain ⟨e, he, rfl, hvalues⟩ := exists_enumeration_of_mem_emptyNames hfirst
    by_contra hneither
    obtain ⟨hundeclared, hnone⟩ := not_or.mp hneither
    exact hcaught ⟨e, he, hvalues, hr, hundeclared,
      fun other hother hname hvalues' => hnone ⟨rfl, other, hother, hname, hvalues'⟩⟩

/-- The name of a definition that refers to none is resolved unless it strays. -/
theorem Contents.isResolved_of_unreferred (hplan : (plan d basename).value = (names, .ok p))
    (hw : Contents o names basename p es ps w) (hname : name ∈ definedNames d)
    (hnone : referent? (p.known names d basename) name = none)
    (hstray : ¬ IsStray names (p.known names d basename)
      (typeNames (openings o names basename es ps)) name) :
    IsResolved d names (typeNames (openings o names basename es ps)) name := by
  have href : names.reference name = names.interfaceName name := by rw [reference_eq hplan, hnone]
  rcases List.mem_append.mp hname with hname | hname
  · obtain ⟨c, hc, rfl⟩ := List.mem_map.mp hname
    exact ⟨_, href.trans ((plan_eq_ok hplan).2.2 c hc), .inl (hw.interfaceOf_mem hplan hc)⟩
  · obtain ⟨e, he, rfl⟩ := List.mem_map.mp hname
    have hunknown : ∀ r ∈ p.known names d basename, r.name ≠ e.name := by
      intro r hr heq
      obtain ⟨first, hfirst⟩ := exists_referent? hr
      rw [heq, hnone] at hfirst
      exact absurd hfirst (by simp)
    have hmem := hw.enumerationOf_mem hplan he hunknown
    obtain ⟨made, hmade, htype⟩ := Names.enumerationName_eq_ok.mp
      ((enumerations_of_plan hplan).2 e he)
    -- Without a fixed name in the way a class and an enumeration get the same name.
    by_cases hfixed : names.isFixed made = true
    · have hinterface : names.interfaceName e.name = .ok (made ++ "Class") :=
        Names.interfaceName_eq_ok.mpr ⟨made, hmade, by rw [if_pos hfixed]⟩
      refine ⟨_, href.trans hinterface, .inl ?_⟩
      by_contra hundeclared
      exact hstray ⟨hnone, made, hmade, hfixed, hundeclared⟩
    · have hinterface : names.interfaceName e.name = .ok made :=
        Names.interfaceName_eq_ok.mpr ⟨made, hmade, by rw [if_neg hfixed]⟩
      rw [if_neg (by simp [hfixed])] at htype
      refine ⟨_, href.trans hinterface, .inl (mem_typeNames_of_declared ?_)⟩
      rw [htype]
      exact List.mem_append_left _ hmem

end Defined

/-- **What all definitions are referred to by.**  Each class and each enumeration of a dictionary,
declared or not, is referred to by a type.  It is one of the file, or that of enumerations without
values for such an enumeration, exactly where the name is neither caught by another enumeration
without values nor strays from a fixed name. -/
theorem generate_isResolved_iff (o : Options) (d : Dictionary) (basename text : String)
    (names : Names) (h : (generate o d basename).value = (names, .ok text)) :
    ∃ p es ps w, (plan d basename).value = (names, .ok p) ∧
      Contents o names basename p es ps w ∧ text = joinParts w.all ∧
      Opens text (openings o names basename es ps) ∧
      ∀ name ∈ definedNames d, (∃ type, names.reference name = .ok type) ∧
        (IsResolved d names (typeNames (openings o names basename es ps)) name ↔
          ¬ IsCaught d (p.known names d basename)
            (typeNames (openings o names basename es ps)) name ∧
          ¬ IsStray names (p.known names d basename)
            (typeNames (openings o names basename es ps)) name) := by
  obtain ⟨p, es, ps, w, hplan, hw, rfl⟩ := contents_of_generate h
  refine ⟨p, es, ps, w, hplan, hw, rfl, hw.opens, fun name hname =>
    ⟨exists_reference hplan hname, ?_, ?_⟩⟩
  · exact fun hresolved =>
      ⟨not_isCaught_of_isResolved hplan hresolved, not_isStray_of_isResolved hplan hresolved⟩
  · rintro ⟨hcaught, hstray⟩
    cases hreferent : referent? (p.known names d basename) name with
    | none => exact hw.isResolved_of_unreferred hplan hname hreferent hstray
    | some r => exact hw.isResolved_of_referent? hplan hreferent hcaught

theorem generate_isResolved_iff_player :
    ∃ names text, (generate richOptions playerDictionary "Music").value = (names, .ok text) ∧
      ∃ p es ps w, (plan playerDictionary "Music").value = (names, .ok p) ∧
        Contents richOptions names "Music" p es ps w ∧ text = joinParts w.all ∧
        Opens text (openings richOptions names "Music" es ps) ∧
        ∀ name ∈ definedNames playerDictionary, (∃ type, names.reference name = .ok type) ∧
          (IsResolved playerDictionary names
              (typeNames (openings richOptions names "Music" es ps)) name ↔
            ¬ IsCaught playerDictionary (p.known names playerDictionary "Music")
              (typeNames (openings richOptions names "Music" es ps)) name ∧
            ¬ IsStray names (p.known names playerDictionary "Music")
              (typeNames (openings richOptions names "Music" es ps)) name) := by
  obtain ⟨names, text, h⟩ := exists_text_player
  exact ⟨names, text, h, generate_isResolved_iff richOptions playerDictionary "Music" text names h⟩

/-- Two spellings of an enumeration whose name is kept apart from a fixed one. -/
def arrayDictionary : Dictionary :=
  { suites := [
      { name := "Player Suite"
        enumerations := [
          { name := "element array", enumerators := [{ name := "list", code := "kLst" }] },
          { name := "element-array", enumerators := [{ name := "list", code := "kLst" }] }] }] }

/-- Two spellings of a class and an enumeration without values. -/
def genreDictionary : Dictionary :=
  { suites := [
      { name := "Player Suite"
        classes := [{ name := "music track" }, { name := "Music-Track" }]
        enumerations := [{ name := "music-track" }] }] }

/-- A file without further options has only fixed types and those of its definitions, so what is
neither is not declared. -/
theorem exists_undeclared_reference (d : Dictionary) (basename name type : String)
    (declared : List String)
    (htext : (generate {} d basename).value.2.toOption.isSome = true)
    (href : ((plan d basename).value.1.reference name).toOption = some type)
    (htypes : (plan d basename).value.2.toOption.map (fun p =>
      (p.designations (plan d basename).value.1).map Designation.type) = some declared)
    (hfixed : type ∉ (FixedNames.of basename).all) (hdeclared : type ∉ declared) :
    ∃ names text, (generate {} d basename).value = (names, .ok text) ∧
      ∃ p es ps w, (plan d basename).value = (names, .ok p) ∧
        Contents {} names basename p es ps w ∧ text = joinParts w.all ∧
        names.reference name = .ok type ∧
        type ∉ typeNames (openings {} names basename es ps) := by
  obtain ⟨names, text, h⟩ := exists_text_of_isSome htext
  obtain ⟨p, es, ps, w, hplan, hw, rfl⟩ := contents_of_generate h
  rw [hplan] at href htypes
  have hmap : (p.designations names).map Designation.type = declared := Option.some.inj htypes
  refine ⟨names, _, h, p, es, ps, w, hplan, hw, rfl, eq_ok_of_toOption href, fun hmem => ?_⟩
  have hname := (List.filter_sublist.map Opening.name).subset hmem
  -- There is no function, no group and no alias.
  have hplain : ∀ declared, functionNames {} names
      ++ otherNames {} basename declared
        = aliasTargets (.of basename) false declared := by
    intro declared
    simp [functionNames, otherNames, groupNames, outerAliases, Json.isTruthy]
  rw [(map_name_openings_perm _ names basename es ps).mem_iff, hplain, hw.map_name, hmap,
    aliasTargets_eq] at hname
  rcases List.mem_append.mp hname with hname | hname
  · exact hfixed (mem_all_of_mem_targetSuffixes hname)
  · exact hdeclared hname

/-- **References can dangle**: the second spelling of an enumeration refers to the protocol of a
class, and the second spelling of a class refers to the type of enumerations without values. -/
theorem references_dangle :
    (∃ names text, (generate {} arrayDictionary "Test").value = (names, .ok text) ∧
      ∃ p es ps w, (plan arrayDictionary "Test").value = (names, .ok p) ∧
        Contents {} names "Test" p es ps w ∧ text = joinParts w.all ∧
        "element-array" ∈ definedNames arrayDictionary ∧
        names.reference "element-array" = .ok "TestElementArrayClass" ∧
        "TestElementArrayClass" ∉ typeNames (openings {} names "Test" es ps)) ∧
    (∃ names text, (generate {} genreDictionary "Test").value = (names, .ok text) ∧
      ∃ p es ps w, (plan genreDictionary "Test").value = (names, .ok p) ∧
        Contents {} names "Test" p es ps w ∧ text = joinParts w.all ∧
        "Music-Track" ∈ definedNames genreDictionary ∧
        names.reference "Music-Track" = .ok emptyEnumerationType ∧
        emptyEnumerationType ∉ typeNames (openings {} names "Test" es ps)) := by
  obtain ⟨names, text, h, p, es, ps, w, hplan, hw, htext, href, hundeclared⟩ :=
    exists_undeclared_reference arrayDictionary "Test" "element-array" "TestElementArrayClass"
      ["TestElementArrayEnum"] (by decide +kernel) (by decide +kernel) (by decide +kernel)
      (by decide +kernel) (by decide)
  obtain ⟨names', text', h', p', es', ps', w', hplan', hw', htext', href', hundeclared'⟩ :=
    exists_undeclared_reference genreDictionary "Test" "Music-Track" emptyEnumerationType
      ["TestMusicTrack"] (by decide +kernel) (by decide +kernel) (by decide +kernel)
      (by decide +kernel) (by decide)
  exact ⟨⟨names, text, h, p, es, ps, w, hplan, hw, htext, by decide, href, hundeclared⟩,
    names', text', h', p', es', ps', w', hplan', hw', htext', by decide, href', hundeclared'⟩

end ScriptingBindings.Swift
