/-
  ScriptingBindings.Proofs.Swift.OneLine
  ──────────────────────────────────
  **NAMES AND TYPES OF ONE LINE.**

  The names that are made of a dictionary's texts are of one line whatever
  these texts are, if the basename is: of the texts nothing but words gets into
  a name.  So are the types that refer to them, and what stands on the line of
  a member:

      (declareClass o names c).outcome = .ok p  →  p.IsFlat

  This does not hold for overrides, which are written as they are.
-/
import ScriptingBindings.Proofs.Identifier.OneLine
import ScriptingBindings.Proofs.Swift.DeclarationLines
import ScriptingBindings.Proofs.Swift.MemberNames
import ScriptingBindings.Proofs.Swift.Plan

namespace ScriptingBindings.Swift

open Dictionary Identifier Text

/-! ## §1. Names that are made. -/

theorem linesOf_of_isOneLine {s : String} (h : IsOneLine s) : linesOf s = [s.toList] :=
  cutAt_of_not_mem h

theorem isOneLine_escapeKeyword {name : String} (h : IsOneLine name) :
    IsOneLine (escapeKeyword name) := by
  unfold escapeKeyword
  split
  next => exact (IsOneLine.append (by decide) h).append (by decide)
  next => exact h

/-- **The name of a member is of one line.** -/
theorem isOneLine_member {name made : String} (h : Names.member name = .ok made) :
    IsOneLine made := by
  rw [Names.member_eq, mapError_eq_ok] at h
  obtain ⟨plain, hplain, hescaped⟩ := bind_eq_ok.mp h
  rw [if_pos rfl, mapError_eq_ok, escape_sanitizer, Except.ok.injEq] at hescaped
  rw [← hescaped]
  exact isOneLine_escapeKeyword (isOneLine_identifier (mapError_eq_ok.mp hplain))

theorem isOneLine_accessor {type made : String} (h : Names.accessor type = .ok made) :
    IsOneLine made :=
  isOneLine_member h

theorem isOneLine_untyped {accessor : String} (h : IsOneLine accessor) :
    IsOneLine (Names.untyped accessor) := by
  refine IsOneLine.append (by decide) (isOneLine_ofList (not_mem_capitalizeFirst ?_))
  intro hmem
  -- Stripping takes characters from the ends only.
  have hstripped := List.dropWhile_subset _ (List.mem_reverse.mp hmem)
  exact h (List.dropWhile_subset _ (List.mem_reverse.mp hstripped))

theorem isOneLine_setter (property : String) : IsOneLine (Names.setter property) := by
  have hoverrides : ∀ entry ∈ setterOverrides, IsOneLine entry.2 := by decide
  refine IsOneLine.append (by decide) ?_
  unfold setterSuffix
  split
  next suffix hsuffix => exact hoverrides _ (OrderedMap.mem_of_lookup hsuffix)
  next =>
    refine isOneLine_ofList fun hmem => ?_
    -- The line feed is no letter and no number.
    exact absurd (List.mem_filter.mp hmem).2 (by decide)

/-- A name for a definition is of one line if the basename is. -/
theorem Names.Forms.isOneLine {n : Names} {made : String} (h : n.Forms made)
    (hn : IsOneLine n.basename) : IsOneLine made := by
  have hsuffixes : ∀ suffix ∈ nameSuffixes, IsOneLine suffix := by decide
  obtain ⟨hidentifier, hsuffix⟩ := h
  exact (hn.append (isOneLine_identifier hidentifier)).append (hsuffixes _ hsuffix)

/-! ## §2. Names that are known. -/

/-- Names of which all that a declaration can show is of one line. -/
structure Names.AreFlat (n : Names) : Prop where
  base : IsOneLine n.basename
  genericMethods : ∀ f, n.fixed = some f → IsOneLine f.genericMethods
  types : ∀ entry ∈ n.types, IsOneLine entry.2

namespace Names.AreFlat

variable {n : Names}

/-- Before the first file nothing is known. -/
theorem new : Names.AreFlat {} where
  base := by decide
  genericMethods f h := absurd h (by simp)
  types entry h := absurd h List.not_mem_nil

theorem start {basename : String} (h : IsOneLine basename) : (Names.start basename).AreFlat where
  base := h
  genericMethods f hf := by
    rw [← Option.some.inj hf]
    exact h.append (by decide)
  types entry h := absurd h List.not_mem_nil

theorem register (h : n.AreFlat) (name : String) {type : String} (htype : IsOneLine type) :
    (n.register name type).AreFlat :=
  ⟨h.base, h.genericMethods, forall_types_register h.types name htype⟩

/-- What becomes known is of one line. -/
theorem of_learns (h : n.AreFlat) {m : Names} (hm : n.Learns m) : m.AreFlat := by
  induction hm with
  | refl => exact h
  | type _ name made ih =>
    refine ih.register name ?_
    cases made with
    | enumeration hmade => exact (forms_of_enumerationName hmade).isOneLine ih.base
    | interface hmade => exact (forms_of_interfaceName hmade).isOneLine ih.base
    | empty => decide
  | empties _ empties ih => exact ⟨ih.base, ih.genericMethods, ih.types⟩

theorem reference (h : n.AreFlat) {name type : String} (hr : n.reference name = .ok type) :
    IsOneLine type := by
  rcases reference_cases hr with ⟨entry, hentry, rfl⟩ | hinterface
  · exact h.types entry hentry
  · exact (forms_of_interfaceName hinterface).isOneLine h.base

end Names.AreFlat

/-! ## §3. Types. -/

section Types

variable {names : Names} {r : TypeRef}

theorem isOneLine_spelling? {name : String} {v : Json} (h : spelling? [] name = some v) :
    IsOneLine v.display := by
  have hknown : ∀ entry ∈ knownTypes, IsOneLine entry.2 := by decide
  obtain ⟨s, hs, rfl⟩ := Option.map_eq_some_iff.mp h
  exact hknown _ (OrderedMap.mem_of_lookup hs)

/-- **The spelling of a type without overrides is of one line.** -/
theorem isOneLine_mapBase (hn : names.AreFlat) {base : String}
    (h : mapBase [] names base = .ok r) : IsOneLine r.spelling.display := by
  rcases mapBase_cases h with ⟨name, type, htype, rfl⟩ | ⟨name, v, hv, rfl⟩
  · exact hn.reference htype
  · exact isOneLine_spelling? hv

theorem isOneLine_asList (h : IsOneLine r.spelling.display) :
    IsOneLine r.asList.spelling.display := by
  unfold TypeRef.asList
  split
  next => exact h
  next =>
    rw [TypeRef.make, Json.display_within]
    exact (IsOneLine.append (by decide) h).append (by decide)

theorem isOneLine_asOptional (h : IsOneLine r.spelling.display) :
    IsOneLine r.asOptional.spelling.display := by
  unfold TypeRef.asOptional
  split
  next => exact h
  next =>
    rw [TypeRef.make, Json.display_within, String.empty_append]
    exact h.append (by decide)

theorem isOneLine_mapType (hn : names.AreFlat) {t : ValueType}
    (h : mapType [] names t = .ok r) : IsOneLine r.spelling.display := by
  rw [mapType_eq, map_eq_ok] at h
  obtain ⟨plain, hplain, rfl⟩ := h
  have hline := isOneLine_mapBase hn hplain
  have hlist : IsOneLine (if t.isList then plain.asList else plain).spelling.display := by
    split
    next => exact isOneLine_asList hline
    next => exact hline
  dsimp only
  split
  next => exact isOneLine_asOptional hlist
  next => exact hlist

end Types

/-! ## §4. Members. -/

section Declarations

variable {o : Options} {names : Names} {title : String}

/-- Members of which each is written on one line. -/
structure Members.AreFlat (m : Members) : Prop where
  properties : ∀ q ∈ m.properties, IsOneLine q.head
  identifier : ∀ type, m.identifier = some type → IsOneLine type.display

theorem isOneLine_propertyHead {q : PropertyDeclaration} (hname : IsOneLine q.name)
    (htype : IsOneLine q.type.display) : IsOneLine q.head :=
  ((((IsOneLine.append (by decide) hname).append (by decide)).append htype).append (by decide))

/-- One property keeps members on one line each. -/
theorem Members.AreFlat.addProperty (ho : o.overrides = []) (hn : names.AreFlat)
    {m m' : Members} {p : Property} (hm : m.AreFlat)
    (h : (m.addProperty o names title p).outcome = .ok m') : m'.AreFlat := by
  rcases addProperty_cases h with
    ⟨-, r, hr, rfl⟩ | ⟨-, name, hname, ⟨-, rfl⟩ | ⟨-, r, hr, rfl⟩⟩
  · rw [ho] at hr
    refine ⟨hm.properties, fun type htype => ?_⟩
    rw [← Option.some.inj htype]
    exact isOneLine_mapBase hn hr
  · exact hm
  · rw [ho] at hr
    refine ⟨List.forall_mem_append.mpr ⟨hm.properties, ?_⟩, hm.identifier⟩
    exact List.forall_mem_singleton.mpr
      (isOneLine_propertyHead (isOneLine_member hname) (isOneLine_mapType hn hr))

theorem Members.areFlat_of_foldlM (ho : o.overrides = []) (hn : names.AreFlat)
    {ps : List Property} {m : Members}
    (h : (ps.foldlM (Members.addProperty o names title) {}).outcome = .ok m) : m.AreFlat := by
  rw [Run.outcome_foldlM] at h
  refine foldlM_invariant Members.AreFlat (fun m p m' hm => hm.addProperty ho hn) ?_ h
  exact ⟨fun q hq => absurd hq List.not_mem_nil, fun type htype => absurd htype (by simp)⟩

theorem isOneLine_accessorHead {elements : List Dictionary.Element} {a : AccessorDeclaration}
    (h : IsAccessorOf o elements a) : IsOneLine a.head := by
  obtain ⟨e, -, hname⟩ := h.name
  have hline := isOneLine_accessor hname
  have huntyped : IsOneLine (optional a.untyped).display := by
    rw [h.untyped]
    split
    next => exact isOneLine_untyped hline
    next => decide
  unfold AccessorDeclaration.head
  split
  next =>
    exact (((IsOneLine.append (by decide) hline).append (by decide)).append huntyped).append
      (by decide)
  next => exact (IsOneLine.append (by decide) hline).append (by decide)

theorem isOneLine_setterHead (ho : o.overrides = []) (hn : names.AreFlat) {p : Property}
    {s : SetterDeclaration} (h : declareSetter o names p = .ok s) : IsOneLine s.head := by
  rw [declareSetter_eq] at h
  obtain ⟨parameter, hparameter, h⟩ := bind_eq_ok.mp h
  obtain ⟨r, hr, h⟩ := bind_eq_ok.mp h
  rw [ho] at hr
  rw [← Except.ok.inj h]
  have hname := IsOneLine.append (by decide : IsOneLine "    @objc optional func ")
    (isOneLine_setter p.name)
  exact ((((hname.append (by decide)).append (isOneLine_member hparameter)).append
    (by decide)).append (isOneLine_mapType hn hr)).append (by decide)

/-- Each setter is that of a property. -/
theorem exists_declareSetter {taken : List String} {ps : List Property}
    {ss : List SetterDeclaration} (h : declareSetters o names taken ps = .ok ss) :
    ∀ s ∈ ss, ∃ p, declareSetter o names p = .ok s := by
  induction ps generalizing taken ss with
  | nil =>
    rw [← Except.ok.inj h]
    exact fun s hs => absurd hs List.not_mem_nil
  | cons p ps ih =>
    rw [declareSetters_cons] at h
    split at h
    next => exact ih h
    next =>
      obtain ⟨s, hs, h⟩ := bind_eq_ok.mp h
      split at h
      next => exact ih h
      next =>
        obtain ⟨more, hmore, h⟩ := bind_eq_ok.mp h
        rw [← Except.ok.inj h]
        exact List.forall_mem_cons.mpr ⟨⟨p, hs⟩, ih hmore⟩

/-! ## §5. Protocols. -/

/-- A protocol of which the opening and each member are written on one line. -/
structure ProtocolDeclaration.IsFlat (p : ProtocolDeclaration) : Prop where
  head : IsOneLine p.head
  properties : ∀ q ∈ p.properties, IsOneLine q.head
  identifier : ∀ type, p.identifier = some type → IsOneLine type.display
  accessors : ∀ a ∈ p.accessors, IsOneLine a.head
  setters : ∀ s ∈ p.setters, IsOneLine s.head

theorem isOneLine_of_mem_basicInheritance (hn : names.AreFlat) {c : Dictionary.Class}
    {basic : List String} (h : basicInheritance names c = .ok basic) :
    ∀ parent ∈ basic, IsOneLine parent := by
  have hroot : IsOneLine rootProtocol := by decide
  unfold basicInheritance at h
  split at h
  next =>
    split at h
    next f hf =>
      rw [← Except.ok.inj h]
      refine List.forall_mem_cons.mpr ⟨hroot, ?_⟩
      exact List.forall_mem_singleton.mpr (hn.genericMethods f hf)
    next => exact absurd h (by simp)
  next =>
    rw [← Except.ok.inj h]
    exact List.forall_mem_singleton.mpr hroot

theorem isOneLine_of_mem_inheritanceOf (hn : names.AreFlat) {interface : String}
    {c : Dictionary.Class} {inheritance : List String}
    (h : inheritanceOf names interface c = .ok inheritance) :
    ∀ parent ∈ inheritance, IsOneLine parent := by
  obtain ⟨basic, hbasic, hcases⟩ := inheritanceOf_eq_ok_cases h
  have hall := isOneLine_of_mem_basicInheritance hn hbasic
  rcases hcases with rfl | ⟨parent, type, htype, rfl⟩
  · exact hall
  · refine List.forall_mem_append.mpr ⟨hall, ?_⟩
    exact List.forall_mem_singleton.mpr (hn.reference htype)

/-- What a declared class is called and what it inherits. -/
theorem head_of_declareClass {c : Dictionary.Class} {p : ProtocolDeclaration}
    (h : (declareClass o names c).outcome = .ok p) :
    p.title = c.name ∧ names.interfaceName c.name = .ok p.name ∧
      inheritanceOf names p.name c = .ok p.inheritance := by
  rw [declareClass_eq] at h
  obtain ⟨interface, hinterface, h⟩ := Run.outcome_bind_eq_ok.mp h
  obtain ⟨inheritance, hinheritance, h⟩ := Run.outcome_bind_eq_ok.mp h
  obtain ⟨members, -, h⟩ := Run.outcome_bind_eq_ok.mp h
  obtain ⟨accessors, -, h⟩ := Run.outcome_bind_eq_ok.mp h
  obtain ⟨setters, -, h⟩ := Run.outcome_bind_eq_ok.mp h
  rw [Run.outcome_ofExcept] at hinterface hinheritance
  rw [← Except.ok.inj h]
  exact ⟨rfl, hinterface, hinheritance⟩

/-- **A declared class is written on one line where it opens and at each member**, whatever its
texts are. -/
theorem isFlat_of_declareClass (ho : o.overrides = []) (hn : names.AreFlat)
    {c : Dictionary.Class} {p : ProtocolDeclaration}
    (h : (declareClass o names c).outcome = .ok p) : p.IsFlat := by
  obtain ⟨m, hm⟩ := exists_isMadeOf h
  obtain ⟨-, hname, hinheritance⟩ := head_of_declareClass h
  have hmembers := Members.areFlat_of_foldlM ho hn hm.members
  refine ⟨?_, ?_, ?_, ?_, ?_⟩
  · -- The opening shows the name and all that is inherited.
    have hparents := isOneLine_of_mem_inheritanceOf hn hinheritance
    have hopening := IsOneLine.append (by decide : IsOneLine "@objc public protocol ")
      ((forms_of_interfaceName hname).isOneLine hn.base)
    exact ((hopening.append (by decide)).append (IsOneLine.intercalate (by decide) hparents)).append
      (by decide)
  · rw [hm.properties]
    exact hmembers.properties
  · rw [hm.identifier]
    exact hmembers.identifier
  · exact fun a ha => isOneLine_accessorHead ((declareAccessors_eq_ok hm.accessors).2 a ha).2
  · intro s hs
    obtain ⟨q, hq⟩ := exists_declareSetter hm.setters s hs
    exact isOneLine_setterHead ho hn hq

end Declarations

end ScriptingBindings.Swift
