/-
  ScriptingBindings.Proofs.Swift.Members
  ──────────────────────────────────
  **THE MEMBERS OF A PROTOCOL.**

  A property is declared as a property of its own name, except that the
  identifier becomes a method.  While the properties of a class are declared,
  the names taken are exactly those that can be read, so a class that is
  declared can be read by the name of each of its properties and by no other.
-/
import ScriptingBindings.Proofs.Swift.Names
import ScriptingBindings.Swift.Declaration

namespace ScriptingBindings.Swift

open Dictionary

/-! ## §1. Names of properties. -/

/-- The name under which a property can be read. -/
def readName (p : Property) : Except GenerationError String :=
  if p.name = identifierName then .ok identifierName else Names.member p.name

/-- Whether a name is that of a declared property or of the declared identifier. -/
def Reads (properties : List PropertyDeclaration) (identifier : Option Json) (name : String) :
    Prop :=
  name ∈ properties.map PropertyDeclaration.name
    ∨ (name = identifierName ∧ identifier.isSome = true)

/-- The names taken are those that can be read, and the type of the identifier is one that
some type of the dictionary stands for. -/
structure Members.Consistent (o : Options) (names : Names) (m : Members) : Prop where
  taken : ∀ name, name ∈ m.taken ↔ Reads m.properties m.identifier name
  identifier : ∀ type, m.identifier = some type →
    ∃ base r, mapBase o.overrides names base = .ok r ∧ r.spelling = type

theorem Members.consistent_empty (o : Options) (names : Names) :
    Members.Consistent o names {} where
  taken name := by simp [Reads]
  identifier type h := absurd h (by simp)

/-! ## §2. One property. -/

variable {o : Options} {names : Names} {title : String}

/-- Taking the name of the identifier along with the identifier. -/
theorem mem_taken_identifier {m : Members} (hm : m.Consistent o names) (type : Json)
    (k : String) :
    k ∈ identifierName :: m.taken ↔ Reads m.properties (some type) k := by
  rw [List.mem_cons, hm.taken k]
  simp only [Reads, Option.isSome_some, and_true]
  constructor
  · rintro (hk | hk | ⟨hk, -⟩)
    · exact .inr hk
    · exact .inl hk
    · exact .inr hk
  · rintro (hk | hk)
    · exact .inr (.inl hk)
    · exact .inl hk

/-- Taking the name of a property along with the property. -/
theorem mem_taken_property {m : Members} (hm : m.Consistent o names) (p : PropertyDeclaration)
    (k : String) :
    k ∈ p.name :: m.taken ↔ Reads (m.properties ++ [p]) m.identifier k := by
  rw [List.mem_cons, hm.taken k]
  simp only [Reads, List.map_append, List.mem_append, List.map_cons, List.map_nil,
    List.mem_singleton]
  rw [← or_assoc, or_comm (a := k = p.name)]

/-- What one property can do: it becomes the identifier, it meets a name that is taken, or it is
declared under a name of its own. -/
theorem addProperty_cases {m m' : Members} {p : Property}
    (h : (m.addProperty o names title p).outcome = .ok m') :
    (p.name = identifierName ∧ ∃ r, mapBase o.overrides names p.type.base = .ok r ∧
        m' = { m with identifier := some r.spelling, taken := identifierName :: m.taken }) ∨
      (p.name ≠ identifierName ∧ ∃ name, Names.member p.name = .ok name ∧
        ((name ∈ m.taken ∧ m' = m) ∨
          (name ∉ m.taken ∧ ∃ r, mapType o.overrides names p.type = .ok r ∧ m' = { m with
            taken := name :: m.taken
            properties := m.properties ++ [⟨name, r.spelling, p.description⟩] }))) := by
  rw [addProperty_eq] at h
  by_cases hid : p.name = identifierName
  · rw [if_pos hid] at h
    obtain ⟨type, htype, h⟩ := Run.outcome_bind_eq_ok.mp h
    rw [Run.outcome_ofExcept] at htype
    exact .inl ⟨hid, type, htype, (Except.ok.inj h).symm⟩
  · rw [if_neg hid] at h
    obtain ⟨name, hname, h⟩ := Run.outcome_bind_eq_ok.mp h
    rw [Run.outcome_ofExcept] at hname
    refine .inr ⟨hid, name, hname, ?_⟩
    by_cases htaken : name ∈ m.taken
    · rw [if_pos (by simpa using htaken)] at h
      obtain ⟨_, -, h⟩ := Run.outcome_bind_eq_ok.mp h
      exact .inl ⟨htaken, (Except.ok.inj h).symm⟩
    · rw [if_neg (by simpa using htaken)] at h
      obtain ⟨type, htype, h⟩ := Run.outcome_bind_eq_ok.mp h
      rw [Run.outcome_ofExcept] at htype
      exact .inr ⟨htaken, type, htype, (Except.ok.inj h).symm⟩

/-- **What one property does**: its name is taken, and taken names stay those that can be
read. -/
theorem addProperty_eq_ok {m m' : Members} {p : Property}
    (h : (m.addProperty o names title p).outcome = .ok m') :
    ∃ name, readName p = .ok name ∧ (∀ k, k ∈ m'.taken ↔ k = name ∨ k ∈ m.taken) ∧
      (m.Consistent o names → m'.Consistent o names) := by
  unfold readName
  rcases addProperty_cases h with ⟨hid, r, hr, rfl⟩ | ⟨hid, name, hname, hnew⟩
  · -- The identifier: there is one from now on.
    rw [if_pos hid]
    refine ⟨identifierName, rfl, fun k => List.mem_cons, fun hm => ⟨fun k => ?_, ?_⟩⟩
    · exact mem_taken_identifier hm r.spelling k
    · intro spelling hs
      exact ⟨p.type.base, r, hr, Option.some.inj hs⟩
  · rw [if_neg hid]
    refine ⟨name, hname, ?_⟩
    rcases hnew with ⟨htaken, rfl⟩ | ⟨-, r, -, rfl⟩
    · -- A name that is taken stays with the first property that took it.
      refine ⟨fun k => ⟨.inr, fun hk => ?_⟩, id⟩
      rcases hk with rfl | hk
      · exact htaken
      · exact hk
    · refine ⟨fun k => List.mem_cons, fun hm => ⟨fun k => ?_, hm.identifier⟩⟩
      exact mem_taken_property hm ⟨name, r.spelling, p.description⟩ k

/-! ## §3. All properties. -/

theorem foldlM_addProperty_eq_ok {ps : List Property} {m m' : Members}
    (h : (ps.foldlM (Members.addProperty o names title) m).outcome = .ok m') :
    (∀ p ∈ ps, ∃ name, readName p = .ok name) ∧
      (∀ k, k ∈ m'.taken ↔ k ∈ m.taken ∨ ∃ p ∈ ps, readName p = .ok k) ∧
      (m.Consistent o names → m'.Consistent o names) := by
  induction ps generalizing m with
  | nil =>
    rw [← Except.ok.inj h]
    refine ⟨fun p hp => absurd hp (by simp), fun k => ?_, id⟩
    simp
  | cons p ps ih =>
    rw [List.foldlM_cons] at h
    obtain ⟨next, hnext, hrest⟩ := Run.outcome_bind_eq_ok.mp h
    obtain ⟨name, hname, htaken, hconsistent⟩ := addProperty_eq_ok hnext
    obtain ⟨hall, htaken', hconsistent'⟩ := ih hrest
    refine ⟨List.forall_mem_cons.mpr ⟨⟨name, hname⟩, hall⟩, ?_, hconsistent' ∘ hconsistent⟩
    intro k
    rw [htaken', htaken, List.exists_mem_cons_iff, hname, Except.ok.injEq]
    tauto

/-! ## §4. Classes. -/

/-- **A declared class** has its own name and can be read by the names of its properties. -/
theorem declareClass_eq_ok {c : Dictionary.Class} {p : ProtocolDeclaration}
    (h : (declareClass o names c).outcome = .ok p) :
    names.interfaceName c.name = .ok p.name ∧
      (∀ q ∈ c.properties, ∃ name, readName q = .ok name) ∧
      (∀ name, Reads p.properties p.identifier name ↔ ∃ q ∈ c.properties, readName q = .ok name) ∧
      ∀ type, p.identifier = some type →
        ∃ base r, mapBase o.overrides names base = .ok r ∧ r.spelling = type := by
  rw [declareClass_eq] at h
  obtain ⟨interface, hinterface, h⟩ := Run.outcome_bind_eq_ok.mp h
  obtain ⟨inheritance, -, h⟩ := Run.outcome_bind_eq_ok.mp h
  obtain ⟨members, hmembers, h⟩ := Run.outcome_bind_eq_ok.mp h
  obtain ⟨accessors, -, h⟩ := Run.outcome_bind_eq_ok.mp h
  obtain ⟨setters, -, h⟩ := Run.outcome_bind_eq_ok.mp h
  obtain ⟨hall, htaken, hconsistent⟩ := foldlM_addProperty_eq_ok hmembers
  rw [Run.outcome_ofExcept] at hinterface
  rw [← Except.ok.inj h]
  have hm := hconsistent (Members.consistent_empty o names)
  refine ⟨hinterface, hall, fun name => ?_, hm.identifier⟩
  have hreads := hm.taken name
  rw [htaken] at hreads
  show Reads members.properties members.identifier name ↔ _
  rw [← hreads]
  simp

/-- The type of a declared identifier counts as true, unless an override spells it. -/
theorem isTruthy_of_identifier {c : Dictionary.Class} {p : ProtocolDeclaration}
    {basename : String} (hn : names.IsFor basename)
    (h : (declareClass o names c).outcome = .ok p) {type : Json} (ht : p.identifier = some type) :
    type.isTruthy = true ∨ type ∈ o.overrides.map Prod.snd := by
  obtain ⟨base, r, hr, rfl⟩ := (declareClass_eq_ok h).2.2.2 type ht
  exact isTruthy_of_mapBase hn hr

/-! ## §5. What is inherited. -/

/-- A protocol inherits what every one does, and perhaps the protocol of a parent. -/
theorem inheritanceOf_eq_ok_cases {interface : String} {c : Dictionary.Class}
    {inheritance : List String} (h : inheritanceOf names interface c = .ok inheritance) :
    ∃ basic, basicInheritance names c = .ok basic ∧
      (inheritance = basic ∨
        ∃ parent type, names.reference parent = .ok type ∧ inheritance = basic ++ [type]) := by
  rw [inheritanceOf_eq] at h
  obtain ⟨basic, hbasic, h⟩ := bind_eq_ok.mp h
  refine ⟨basic, hbasic, ?_⟩
  split at h
  next parent _ =>
    split at h
    next => exact .inl (Except.ok.inj h).symm
    next =>
      obtain ⟨type, htype, h⟩ := bind_eq_ok.mp h
      split at h
      next => exact .inl (Except.ok.inj h).symm
      next => exact .inr ⟨parent, type, htype, (Except.ok.inj h).symm⟩
  next => exact .inl (Except.ok.inj h).symm

end ScriptingBindings.Swift
