/-
  ScriptingBindings.Proofs.Swift.MemberNames
  ──────────────────────────────────
  **THE NAMES OF MEMBERS.**

  The members of a protocol are declared in passes, each of which skips the
  names that are taken.  Accessors keep away from properties and from the
  identifier, and setters from everything before them.  What no pass looks at
  is whether the identifier meets a property of another spelling that was read
  before it, and whether the untyped name of an accessor is taken.

  The typed accessors of a class are those of its protocol.
-/
import Mathlib.Data.List.Nodup
import ScriptingBindings.Proofs.FirstOfEach
import ScriptingBindings.Proofs.Identifier.Plural
import ScriptingBindings.Proofs.Swift.Members

namespace ScriptingBindings.Swift

open Dictionary Identifier

variable {o : Options} {names : Names} {title : String}

/-! ## §1. Accessors. -/

/-- **No accessor has the name of the identifier**: it ends in an `s`, or it is escaped. -/
theorem accessor_ne_identifierName {type name : String} (h : Names.accessor type = .ok name) :
    name ≠ identifierName := by
  rw [Names.accessor_eq, Names.member_eq, mapError_eq_ok] at h
  obtain ⟨made, hmade, hescaped⟩ := bind_eq_ok.mp h
  rw [mapError_eq_ok] at hmade
  obtain ⟨front, c, hchars, hc⟩ := endsInS_identifier hmade
  rw [if_pos rfl, mapError_eq_ok, escape_sanitizer, Except.ok.injEq] at hescaped
  rintro rfl
  unfold escapeKeyword at hescaped
  split at hescaped
  next =>
    -- A reserved word starts with a grave accent, the identifier with a letter.
    have hfirst := congrArg (fun s : String => s.toList.head?) hescaped
    simp [identifierName] at hfirst
  next =>
    -- A plural ends in an `s` of either case, the identifier in a `d`.
    have hlast := congrArg (fun s : String => s.toList.getLast?) hescaped
    simp only [hchars, List.getLast?_concat] at hlast
    rcases hc with rfl | rfl
    · exact absurd hlast (by decide)
    · exact absurd hlast (by decide)

/-- An accessor that was declared for one of the elements, with the untyped name that goes with
its name. -/
structure IsAccessorOf (o : Options) (elements : List Dictionary.Element)
    (a : AccessorDeclaration) : Prop where
  name : ∃ e ∈ elements, Names.accessor e.type = .ok a.name
  untyped : a.untyped = if o.typedAccessors then some (Names.untyped a.name) else none

/-- **Accessors** have different names, none of them taken. -/
theorem declareAccessors_eq_ok {taken : List String} {elements : List Dictionary.Element}
    {as : List AccessorDeclaration}
    (h : (declareAccessors o names title taken elements).outcome = .ok as) :
    (as.map AccessorDeclaration.name).Nodup ∧
      ∀ a ∈ as, a.name ∉ taken ∧ IsAccessorOf o elements a := by
  -- Each accessor takes its name before the rest is declared, so the names taken are free here.
  induction elements generalizing taken as with
  | nil =>
    rw [← Except.ok.inj h]
    exact ⟨List.nodup_nil, fun a ha => absurd ha List.not_mem_nil⟩
  | cons e elements ih =>
    have hmono : ∀ a, IsAccessorOf o elements a → IsAccessorOf o (e :: elements) a := by
      rintro a ⟨⟨e', he', hname⟩, huntyped⟩
      exact ⟨⟨e', List.mem_cons_of_mem e he', hname⟩, huntyped⟩
    rw [declareAccessors_cons] at h
    obtain ⟨name, hname, h⟩ := Run.outcome_bind_eq_ok.mp h
    rw [Run.outcome_ofExcept] at hname
    by_cases htaken : name ∈ taken
    · rw [if_pos (by simpa using htaken)] at h
      obtain ⟨_, -, h⟩ := Run.outcome_bind_eq_ok.mp h
      obtain ⟨hnodup, hall⟩ := ih h
      exact ⟨hnodup, fun a ha => ⟨(hall a ha).1, hmono a (hall a ha).2⟩⟩
    · rw [if_neg (by simpa using htaken)] at h
      obtain ⟨type, -, h⟩ := Run.outcome_bind_eq_ok.mp h
      obtain ⟨more, hmore, h⟩ := Run.outcome_bind_eq_ok.mp h
      obtain ⟨hnodup, hall⟩ := ih hmore
      rw [← Except.ok.inj h]
      refine ⟨List.nodup_cons.mpr ⟨fun hmem => ?_, hnodup⟩, ?_⟩
      · obtain ⟨a, ha, rfl⟩ := List.mem_map.mp hmem
        exact (hall a ha).1 List.mem_cons_self
      · refine List.forall_mem_cons.mpr ⟨⟨htaken, ⟨e, List.mem_cons_self, hname⟩, rfl⟩, ?_⟩
        intro a ha
        exact ⟨fun hmem => (hall a ha).1 (List.mem_cons_of_mem name hmem), hmono a (hall a ha).2⟩

/-- Which accessors are declared depends only on which of their names are taken. -/
theorem declareAccessors_congr {taken taken' : List String} {elements : List Dictionary.Element}
    (h : ∀ e ∈ elements, ∀ name, Names.accessor e.type = .ok name →
      (name ∈ taken ↔ name ∈ taken')) :
    declareAccessors o names title taken elements
      = declareAccessors o names title taken' elements := by
  induction elements generalizing taken taken' with
  | nil => rfl
  | cons e elements ih =>
    obtain ⟨he, hrest⟩ := List.forall_mem_cons.mp h
    rw [declareAccessors_cons, declareAccessors_cons]
    cases hname : Names.accessor e.type with
    | error failure => rfl
    | ok name =>
      have hcontains : taken.contains name = taken'.contains name := by
        rw [Bool.eq_iff_iff, List.contains_iff_mem, List.contains_iff_mem]
        exact he name hname
      have hmore : declareAccessors o names title (name :: taken) elements
          = declareAccessors o names title (name :: taken') elements :=
        ih fun e' he' k hk => by rw [List.mem_cons, List.mem_cons, hrest e' he' k hk]
      show (if taken.contains name then _ else _) = (if taken'.contains name then _ else _)
      rw [hcontains, hmore, ih hrest]

/-! ## §2. Setters. -/

/-- **Setters** have different names, none of them taken. -/
theorem declareSetters_eq_ok {taken : List String} {ps : List Property}
    {ss : List SetterDeclaration} (h : declareSetters o names taken ps = .ok ss) :
    (ss.map SetterDeclaration.name).Nodup ∧ ∀ s ∈ ss, s.name ∉ taken := by
  induction ps generalizing taken ss with
  | nil =>
    rw [← Except.ok.inj h]
    exact ⟨List.nodup_nil, fun s hs => absurd hs List.not_mem_nil⟩
  | cons p ps ih =>
    rw [declareSetters_cons] at h
    split at h
    next => exact ih h
    next =>
      obtain ⟨s, -, h⟩ := bind_eq_ok.mp h
      split at h
      next => exact ih h
      next htaken =>
        obtain ⟨more, hmore, h⟩ := bind_eq_ok.mp h
        obtain ⟨hnodup, hall⟩ := ih hmore
        rw [← Except.ok.inj h]
        refine ⟨List.nodup_cons.mpr ⟨fun hmem => ?_, hnodup⟩, ?_⟩
        · obtain ⟨s', hs', hname⟩ := List.mem_map.mp hmem
          exact hall s' hs' (hname ▸ List.mem_cons_self)
        · refine List.forall_mem_cons.mpr ⟨by simpa using htaken, fun s' hs' hmem => ?_⟩
          exact hall s' hs' (List.mem_cons_of_mem s.name hmem)

/-! ## §3. Properties and the identifier. -/

/-- No property is declared twice. -/
theorem nodup_foldlM_addProperty {ps : List Property} {m m' : Members}
    (h : (ps.foldlM (Members.addProperty o names title) m).outcome = .ok m')
    (hm : m.Consistent o names) (hnodup : (m.properties.map PropertyDeclaration.name).Nodup) :
    (m'.properties.map PropertyDeclaration.name).Nodup := by
  induction ps generalizing m with
  | nil => exact Except.ok.inj h ▸ hnodup
  | cons p ps ih =>
    rw [List.foldlM_cons] at h
    obtain ⟨next, hnext, hrest⟩ := Run.outcome_bind_eq_ok.mp h
    obtain ⟨_, -, -, hconsistent⟩ := addProperty_eq_ok hnext
    refine ih hrest (hconsistent hm) ?_
    rcases addProperty_cases hnext with
      ⟨-, _, -, rfl⟩ | ⟨-, name, -, ⟨-, rfl⟩ | ⟨htaken, _, -, rfl⟩⟩
    · exact hnodup
    · exact hnodup
    · -- A property that is new is not among those that can be read.
      rw [List.map_append, List.nodup_append']
      refine ⟨hnodup, List.nodup_singleton name, fun k hk hnew => ?_⟩
      rw [List.mem_singleton.mp hnew] at hk
      exact htaken ((hm.taken name).mpr (.inl hk))

/-- The first property that can be read by the name of the identifier. -/
def firstIdentifier? (ps : List Property) : Option Property :=
  ps.find? (fun p => decide (readName p = .ok identifierName))

theorem firstIdentifier?_cons (p : Property) (ps : List Property) :
    firstIdentifier? (p :: ps)
      = if readName p = .ok identifierName then some p else firstIdentifier? ps := by
  unfold firstIdentifier?
  by_cases h : readName p = .ok identifierName
  · rw [if_pos h, List.find?_cons_of_pos (by simpa using h)]
  · rw [if_neg h, List.find?_cons_of_neg (by simpa using h)]

/-- **A property has the name of the identifier** where one of another spelling comes before all
that are spelled like it. -/
theorem identifierName_mem_properties_iff {ps : List Property} {m m' : Members}
    (h : (ps.foldlM (Members.addProperty o names title) m).outcome = .ok m') :
    identifierName ∈ m'.properties.map PropertyDeclaration.name ↔
      identifierName ∈ m.properties.map PropertyDeclaration.name ∨
        (identifierName ∉ m.taken ∧ ∃ p, firstIdentifier? ps = some p ∧ p.name ≠ identifierName) := by
  induction ps generalizing m with
  | nil =>
    rw [← Except.ok.inj h]
    simp [firstIdentifier?]
  | cons p ps ih =>
    rw [List.foldlM_cons] at h
    obtain ⟨next, hnext, hrest⟩ := Run.outcome_bind_eq_ok.mp h
    rw [ih hrest, firstIdentifier?_cons]
    -- From the identifier on its name is taken; before it, another spelling may declare it.
    rcases addProperty_cases hnext with
      ⟨hid, _, -, rfl⟩ | ⟨hid, name, hname, ⟨htaken, rfl⟩ | ⟨htaken, _, -, rfl⟩⟩
    · have hread : readName p = .ok identifierName := by rw [readName, if_pos hid]
      simp [hread, hid]
    · have hread : readName p = .ok name := by rw [readName, if_neg hid, hname]
      by_cases hne : name = identifierName
      · subst hne
        simp [htaken]
      · simp [hread, hne, firstIdentifier?]
    · have hread : readName p = .ok name := by rw [readName, if_neg hid, hname]
      by_cases hne : name = identifierName
      · subst hne
        simp [hread, htaken, hid]
      · simp [hread, hne, Ne.symm hne, firstIdentifier?]

/-! ## §4. Classes. -/

section Classes

variable {c : Dictionary.Class} {p : ProtocolDeclaration} {m : Members}

/-- A protocol that was declared in passes: first the properties, then the accessors, which keep
away from the names of properties, and last the setters, which keep away from all others. -/
structure IsMadeOf (o : Options) (names : Names) (c : Dictionary.Class) (p : ProtocolDeclaration)
    (m : Members) : Prop where
  members : (c.properties.foldlM (Members.addProperty o names c.name) {}).outcome = .ok m
  properties : p.properties = m.properties
  identifier : p.identifier = m.identifier
  accessors : (declareAccessors o names c.name m.taken c.elements).outcome = .ok p.accessors
  setters : declareSetters o names (p.accessors.flatMap AccessorDeclaration.taken ++ m.taken)
    c.properties = .ok p.setters

theorem exists_isMadeOf (h : (declareClass o names c).outcome = .ok p) :
    ∃ m, IsMadeOf o names c p m := by
  rw [declareClass_eq] at h
  obtain ⟨interface, -, h⟩ := Run.outcome_bind_eq_ok.mp h
  obtain ⟨inheritance, -, h⟩ := Run.outcome_bind_eq_ok.mp h
  obtain ⟨m, hm, h⟩ := Run.outcome_bind_eq_ok.mp h
  obtain ⟨accessors, haccessors, h⟩ := Run.outcome_bind_eq_ok.mp h
  obtain ⟨setters, hsetters, h⟩ := Run.outcome_bind_eq_ok.mp h
  rw [Run.outcome_ofExcept] at hsetters
  rw [← Except.ok.inj h]
  exact ⟨m, hm, rfl, rfl, haccessors, hsetters⟩

namespace IsMadeOf

theorem consistent (h : IsMadeOf o names c p m) : m.Consistent o names :=
  (foldlM_addProperty_eq_ok h.members).2.2 (Members.consistent_empty o names)

/-- The names that the properties took are those that the class can be read by. -/
theorem mem_taken_iff (h : IsMadeOf o names c p m) (k : String) :
    k ∈ m.taken ↔ ∃ q ∈ c.properties, readName q = .ok k := by
  rw [(foldlM_addProperty_eq_ok h.members).2.1 k]
  simp

theorem nodup_properties (h : IsMadeOf o names c p m) :
    (p.properties.map PropertyDeclaration.name).Nodup := by
  rw [h.properties]
  exact nodup_foldlM_addProperty h.members (Members.consistent_empty o names) List.nodup_nil

/-- The identifier meets a property where one of another spelling comes first. -/
theorem identifierName_mem_iff (h : IsMadeOf o names c p m) :
    identifierName ∈ p.properties.map PropertyDeclaration.name ↔
      ∃ q, firstIdentifier? c.properties = some q ∧ q.name ≠ identifierName := by
  rw [h.properties, identifierName_mem_properties_iff h.members]
  simp

/-- The properties of a class but those that are spelled like the identifier. -/
def otherProperties (c : Dictionary.Class) : List Property :=
  c.properties.filter fun q => q.name != identifierName

theorem readName_of_mem_otherProperties {q : Property} (hq : q ∈ otherProperties c) :
    readName q = Names.member q.name := by
  rw [readName, if_neg (by simpa using (List.mem_filter.mp hq).2)]

/-- The identifier is left out of the names that typed accessors keep away from, but no accessor
has its name. -/
theorem mem_otherNames_iff (h : IsMadeOf o names c p m) {taken : List String}
    (htaken : (otherProperties c).mapM (fun q => Names.member q.name) = .ok taken)
    {type name : String} (haccessor : Names.accessor type = .ok name) :
    name ∈ taken ↔ name ∈ m.taken := by
  have hall := mapM_eq_ok.mp htaken
  rw [h.mem_taken_iff]
  constructor
  · intro hmem
    obtain ⟨q, hq, hk⟩ := exists_right_of_forall₂ hall.flip hmem
    exact ⟨q, List.mem_of_mem_filter hq, (readName_of_mem_otherProperties hq).trans hk⟩
  · rintro ⟨q, hq, hk⟩
    have hid : q.name ≠ identifierName := by
      intro hid
      rw [readName, if_pos hid] at hk
      exact accessor_ne_identifierName haccessor (Except.ok.inj hk).symm
    have hq' : q ∈ otherProperties c := List.mem_filter.mpr ⟨hq, by simpa using hid⟩
    obtain ⟨k, hmem, hk'⟩ := exists_right_of_forall₂ hall hq'
    rw [← readName_of_mem_otherProperties hq', hk, Except.ok.injEq] at hk'
    exact hk' ▸ hmem

/-- **Typed accessors** are those of the protocol: both keep away from the same properties. -/
theorem declareTypedAccessors_eq_ok (h : IsMadeOf o names c p m)
    (hname : names.interfaceName c.name = .ok p.name) :
    (declareTypedAccessors o names c).outcome
      = .ok (if p.accessors.isEmpty then none else some ⟨c.name, p.name, p.accessors⟩) := by
  have hmember : ∀ q ∈ otherProperties c, ∃ k, Names.member q.name = .ok k := by
    intro q hq
    rw [← readName_of_mem_otherProperties hq]
    exact (foldlM_addProperty_eq_ok h.members).1 q (List.mem_of_mem_filter hq)
  obtain ⟨taken, htaken⟩ := exists_mapM_of_forall hmember
  have haccessors := h.accessors
  rw [← declareAccessors_congr fun e _ name => h.mem_otherNames_iff htaken] at haccessors
  unfold otherProperties at htaken
  rw [declareTypedAccessors_eq]
  simp only [Run.outcome_bind, Run.outcome_ofExcept, htaken, haccessors, ok_bind]
  split
  next => rfl
  next => simp only [Run.outcome_bind, Run.outcome_ofExcept, hname, ok_bind, Run.outcome_pure]

end IsMadeOf

end Classes

end ScriptingBindings.Swift
