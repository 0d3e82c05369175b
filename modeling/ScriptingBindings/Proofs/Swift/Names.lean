/-
  ScriptingBindings.Proofs.Swift.Names
  ──────────────────────────────────
  **NAMES FOR A BASENAME.**

  The names of protocols depend on the basename alone, whatever types are
  known.  No name that can be made is empty, so no type is spelled by an empty
  text unless an override says so:

      mapBase overrides names base = .ok r
        →  r.spelling.isTruthy ∨ r.spelling ∈ overrides.map Prod.snd
-/
import ScriptingBindings.Proofs.OrderedMap
import ScriptingBindings.Proofs.Swift.Naming

namespace ScriptingBindings.Swift

/-! ## §1. Names of definitions. -/

theorem identifier_ne_empty {style : Identifier.Style} {name made : String}
    (h : Identifier.identifier style name = .ok made) : made ≠ "" := by
  unfold Identifier.identifier at h
  extract_lets converted at h
  split at h
  next hlegal =>
    rw [← Except.ok.inj h]
    -- The empty text is no legal identifier.
    intro hempty
    rw [String.ofList_eq_empty_iff] at hempty
    rw [hempty] at hlegal
    exact absurd hlegal (by decide)
  next => exact absurd h (by simp)

/-- What can stand behind the identifier of a definition. -/
def nameSuffixes : List String := ["", "Class", "Enum"]

/-- A name for a definition is the basename with an identifier, and with a suffix if it would be
a fixed name without. -/
inductive Names.Forms (n : Names) : String → Prop where
  | mk {name identifier suffix : String}
      (hidentifier : Identifier.identifier .pascal name = .ok identifier)
      (hsuffix : suffix ∈ nameSuffixes) : n.Forms (n.basename ++ identifier ++ suffix)

section Definitions

variable {n : Names} {name made : String}

theorem prefixed_eq_ok : n.prefixed name = .ok made ↔ ∃ identifier,
    Identifier.identifier .pascal name = .ok identifier ∧ made = n.basename ++ identifier := by
  rw [Names.prefixed_eq, mapError_eq_ok, map_eq_ok]
  constructor
  · rintro ⟨suffix, hsuffix, rfl⟩
    obtain ⟨identifier, hidentifier, hrest⟩ := bind_eq_ok.mp hsuffix
    obtain rfl := Except.ok.inj hrest
    exact ⟨identifier, mapError_eq_ok.mp hidentifier, rfl⟩
  · rintro ⟨identifier, hidentifier, rfl⟩
    exact ⟨identifier, bind_eq_ok.mpr ⟨identifier, mapError_eq_ok.mpr hidentifier, rfl⟩, rfl⟩

theorem forms_of_interfaceName (h : n.interfaceName name = .ok made) : n.Forms made := by
  obtain ⟨start, hstart, rfl⟩ := Names.interfaceName_eq_ok.mp h
  obtain ⟨identifier, hidentifier, rfl⟩ := prefixed_eq_ok.mp hstart
  split
  next => exact .mk hidentifier (by decide)
  next =>
    rw [← String.append_empty (s := n.basename ++ identifier)]
    exact .mk hidentifier (by decide)

theorem forms_of_enumerationName (h : n.enumerationName name = .ok made) : n.Forms made := by
  obtain ⟨start, hstart, rfl⟩ := Names.enumerationName_eq_ok.mp h
  obtain ⟨identifier, hidentifier, rfl⟩ := prefixed_eq_ok.mp hstart
  split
  next => exact .mk hidentifier (by decide)
  next =>
    rw [← String.append_empty (s := n.basename ++ identifier)]
    exact .mk hidentifier (by decide)

/-- No name for a definition is empty. -/
theorem Names.Forms.ne_empty (h : n.Forms made) : made ≠ "" := by
  obtain ⟨hidentifier, -⟩ := h
  intro hempty
  have hstart := (String.append_eq_empty_iff.mp hempty).1
  exact identifier_ne_empty hidentifier (String.append_eq_empty_iff.mp hstart).2

end Definitions

/-! ## §2. Types that are known. -/

/-- What holds of a type that is registered and of all known ones still holds of all. -/
theorem Names.forall_types_register {n : Names} {P : String → Prop}
    (h : ∀ entry ∈ n.types, P entry.2) (name : String) {type : String} (htype : P type) :
    ∀ entry ∈ (n.register name type).types, P entry.2 := by
  intro entry hentry
  -- The type may be known under the name and under its lower case.
  rcases OrderedMap.mem_of_mem_putNew hentry with rfl | hentry
  · exact htype
  · rcases OrderedMap.mem_of_mem_putNew hentry with rfl | hentry
    · exact htype
    · exact h entry hentry

/-- A name refers to a known type, else to the protocol of a class of that name. -/
theorem Names.reference_cases {n : Names} {name type : String}
    (h : n.reference name = .ok type) :
    (∃ entry ∈ n.types, entry.2 = type) ∨ n.interfaceName name = .ok type := by
  rw [Names.reference_eq] at h
  split at h
  next known hknown =>
    obtain rfl := Except.ok.inj h
    rcases Option.or_eq_some_iff.mp hknown with hfound | ⟨-, hfound⟩
    · exact .inl ⟨_, OrderedMap.mem_of_get? hfound, rfl⟩
    · exact .inl ⟨_, OrderedMap.mem_of_get? hfound, rfl⟩
  next => exact .inr h

/-! ## §3. Names for a basename. -/

/-- The names made for a basename, whatever types are known; no known type is empty. -/
structure Names.IsFor (n : Names) (basename : String) : Prop where
  base : n.basename = basename
  fixed : n.fixed = some (FixedNames.of basename)
  spelled : ∀ entry ∈ n.types, entry.2 ≠ ""

/-- The name of the protocol of a class; nothing stands for a name that cannot be made. -/
def Names.interfaceOf (n : Names) (c : Dictionary.Class) : String :=
  (n.interfaceName c.name).toOption.getD ""

namespace Names.IsFor

variable {n : Names} {basename : String}

theorem start (basename : String) : (Names.start basename).IsFor basename :=
  ⟨rfl, rfl, fun _ h => absurd h List.not_mem_nil⟩

theorem register (h : n.IsFor basename) (name : String) {type : String} (htype : type ≠ "") :
    (n.register name type).IsFor basename :=
  ⟨h.base, h.fixed, forall_types_register (P := (· ≠ "")) h.spelled name htype⟩

/-- Known types do not change the names of protocols. -/
theorem interfaceName_eq (h : n.IsFor basename) (name : String) :
    n.interfaceName name = (Names.start basename).interfaceName name := by
  rw [Names.interfaceName_eq, Names.interfaceName_eq, Names.prefixed_eq, Names.prefixed_eq]
  unfold Names.isFixed
  rw [h.base, h.fixed]
  rfl

theorem interfaceOf_eq (h : n.IsFor basename) :
    n.interfaceOf = (Names.start basename).interfaceOf := by
  funext c
  unfold Names.interfaceOf
  rw [h.interfaceName_eq]

theorem reference_ne_empty (h : n.IsFor basename) {name type : String}
    (hr : n.reference name = .ok type) : type ≠ "" := by
  rcases reference_cases hr with ⟨entry, hentry, rfl⟩ | hinterface
  · exact h.spelled entry hentry
  · exact (forms_of_interfaceName hinterface).ne_empty

end Names.IsFor

/-! ## §4. Types are spelled out. -/

theorem isTruthy_str {s : String} (h : s ≠ "") : (Json.str s).isTruthy = true := by
  simp [Json.isTruthy, h]

/-- A type is spelled as in the table of types or by an override. -/
theorem spelling?_cases {overrides : OrderedMap Json} {name : String} {v : Json}
    (h : spelling? overrides name = some v) :
    (∃ entry ∈ knownTypes, v = .str entry.2) ∨ v ∈ overrides.map Prod.snd := by
  unfold spelling? at h
  extract_lets key at h
  split at h
  next => exact absurd h (by simp)
  next w _ hget =>
    rw [← Option.some.inj h]
    exact .inr (List.mem_map_of_mem (OrderedMap.mem_of_get? hget))
  next =>
    obtain ⟨s, hs, rfl⟩ := Option.map_eq_some_iff.mp h
    exact .inl ⟨_, OrderedMap.mem_of_lookup hs, rfl⟩

theorem isTruthy_of_spelling? {overrides : OrderedMap Json} {name : String} {v : Json}
    (h : spelling? overrides name = some v) :
    v.isTruthy = true ∨ v ∈ overrides.map Prod.snd := by
  have hall : ∀ entry ∈ knownTypes, entry.2 ≠ "" := by decide
  rcases spelling?_cases h with ⟨entry, hentry, rfl⟩ | hoverride
  · exact .inl (isTruthy_str (hall entry hentry))
  · exact .inr hoverride

/-- A type without decoration is a generated one, or it is found in the overrides or the table. -/
theorem mapBase_cases {overrides : OrderedMap Json} {names : Names} {base : String} {r : TypeRef}
    (h : mapBase overrides names base = .ok r) :
    (∃ name type, names.reference name = .ok type ∧ r = .generated type) ∨
      ∃ name v, spelling? overrides name = some v ∧ r = .plain v := by
  have hgenerated : ∀ name, (names.reference name).map TypeRef.generated = .ok r →
      ∃ name type, names.reference name = .ok type ∧ r = .generated type := by
    intro name hr
    obtain ⟨type, htype, rfl⟩ := map_eq_ok.mp hr
    exact ⟨name, type, htype, rfl⟩
  rw [mapBase_eq] at h
  split at h
  next => exact absurd h (by simp)
  next =>
    extract_lets head at h
    split at h
    next => exact .inl (hgenerated head h)
    next =>
      split at h
      next v hv => exact .inr ⟨head, v, hv, (Except.ok.inj h).symm⟩
      next => exact .inl (hgenerated head h)

/-- **A type is spelled by a value that counts as true**, unless an override spells it. -/
theorem isTruthy_of_mapBase {overrides : OrderedMap Json} {names : Names} {basename base : String}
    {r : TypeRef} (hn : names.IsFor basename) (h : mapBase overrides names base = .ok r) :
    r.spelling.isTruthy = true ∨ r.spelling ∈ overrides.map Prod.snd := by
  rcases mapBase_cases h with ⟨name, type, htype, rfl⟩ | ⟨name, v, hv, rfl⟩
  · -- A generated type has the name of a protocol or of an enumeration.
    exact .inl (isTruthy_str (hn.reference_ne_empty htype))
  · exact isTruthy_of_spelling? hv

end ScriptingBindings.Swift
