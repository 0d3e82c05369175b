/-
  ScriptingBindings.Proofs.Swift.Prefixes
  ──────────────────────────────────
  **THE BASENAME IN FRONT.**

  Every generated type is named by the basename and something after it, which
  is never empty and does not start with a small letter.  The names of classes
  are kept apart from the fixed names by a suffix, and so are those of
  enumerations, except for the one that save options have.
-/
import Mathlib.Data.List.Nodup
import ScriptingBindings.Proofs.Identifier.Casing
import ScriptingBindings.Proofs.Swift.Names

namespace ScriptingBindings.Swift

open Text Identifier

/-! ## §1. What follows the basename. -/

/-- A name that has something after the basename, which does not start with a small letter. -/
def IsPrefixed (basename made : String) : Prop :=
  ∃ rest, made = basename ++ rest ∧ rest ≠ "" ∧ StartsTall rest.toList

namespace IsPrefixed

variable {basename made : String}

theorem append (h : IsPrefixed basename made) (suffix : String) :
    IsPrefixed basename (made ++ suffix) := by
  obtain ⟨rest, rfl, hne, hstart⟩ := h
  refine ⟨rest ++ suffix, String.append_assoc, ?_, ?_⟩
  · exact fun hempty => hne (String.append_eq_empty_iff.mp hempty).1
  · rw [String.toList_append]
    have hne' : rest.toList ≠ [] := fun h => hne (String.toList_eq_nil_iff.mp h)
    exact forall_head?_append_of_ne_nil hstart hne' suffix.toList

theorem ne_basename (h : IsPrefixed basename made) : made ≠ basename := by
  obtain ⟨rest, rfl, hne, -⟩ := h
  intro heq
  have hlength := congrArg String.length heq
  rw [String.length_append] at hlength
  exact hne (String.length_eq_zero_iff.mp (by omega))

/-- What is left without the basename does not start with a small letter. -/
theorem startsTall_withoutBasename (h : IsPrefixed basename made) :
    StartsTall (made.toList.drop basename.length) := by
  obtain ⟨rest, rfl, -, hstart⟩ := h
  rw [String.toList_append, ← String.length_toList, List.drop_left]
  exact hstart

/-- A prefixed name starts with the first character of the basename. -/
theorem head?_eq (h : IsPrefixed basename made) {c : Char} (hc : basename.toList.head? = some c) :
    made.toList.head? = some c := by
  obtain ⟨rest, rfl, -, -⟩ := h
  rw [String.toList_append, List.head?_append, hc]
  rfl

end IsPrefixed

/-! ## §2. Fixed names. -/

/-- What follows the basename in the fixed names. -/
def fixedSuffixes : List String :=
  ["Application", "Object", "ElementArray", "SaveOptions", "GenericMethods",
   "ApplicationProtocol", "ClassNames"]

theorem all_fixedNames (basename : String) :
    (FixedNames.of basename).all = fixedSuffixes.map (basename ++ ·) := rfl

theorem isPrefixed_of_mem_all {basename made : String} (h : made ∈ (FixedNames.of basename).all) :
    IsPrefixed basename made := by
  rw [all_fixedNames] at h
  obtain ⟨rest, hrest, rfl⟩ := List.mem_map.mp h
  have hall : ∀ rest ∈ fixedSuffixes, rest ≠ "" ∧ StartsTall rest.toList := by decide
  exact ⟨rest, rfl, (hall rest hrest).1, (hall rest hrest).2⟩

theorem append_injective (basename : String) : Function.Injective (basename ++ ·) := by
  intro s t h
  exact String.append_right_inj basename |>.mp h

/-- A fixed name with a suffix behind it is no fixed name. -/
theorem append_not_mem_all {basename made suffix : String}
    (hsuffix : suffix = "Class" ∨ suffix = "Enum") (h : made ∈ (FixedNames.of basename).all) :
    made ++ suffix ∉ (FixedNames.of basename).all := by
  rw [all_fixedNames] at h ⊢
  obtain ⟨rest, hrest, rfl⟩ := List.mem_map.mp h
  have hclass : ∀ rest ∈ fixedSuffixes, rest ++ "Class" ∉ fixedSuffixes := by decide
  have henum : ∀ rest ∈ fixedSuffixes, rest ++ "Enum" ∉ fixedSuffixes := by decide
  intro hmem
  rw [String.append_assoc, List.mem_map_of_injective (append_injective basename)] at hmem
  rcases hsuffix with rfl | rfl
  · exact hclass rest hrest hmem
  · exact henum rest hrest hmem

/-! ## §3. Names of definitions. -/

variable {n : Names} {basename name made : String}

/-- A name for a definition is prefixed. -/
theorem Names.Forms.isPrefixed (h : n.Forms made) : IsPrefixed n.basename made := by
  obtain ⟨hidentifier, -⟩ := h
  have hplain : IsPrefixed n.basename (n.basename ++ _) :=
    ⟨_, rfl, identifier_ne_empty hidentifier, startsTall_identifier hidentifier⟩
  exact hplain.append _

theorem Names.IsFor.isFixed_iff (hn : n.IsFor basename) :
    n.isFixed made = true ↔ made ∈ (FixedNames.of basename).all := by
  rw [Names.isFixed, hn.fixed]
  exact List.contains_iff_mem

theorem Names.IsFor.isSaveOptions_iff (hn : n.IsFor basename) :
    n.isSaveOptions made = true ↔ made = (FixedNames.of basename).saveOptions := by
  rw [Names.isSaveOptions, hn.fixed]
  exact beq_iff_eq.trans eq_comm

/-- **The name of a protocol** is prefixed and no fixed name. -/
theorem isPrefixed_interfaceName (hn : n.IsFor basename) (h : n.interfaceName name = .ok made) :
    IsPrefixed basename made ∧ made ∉ (FixedNames.of basename).all := by
  refine ⟨hn.base ▸ (forms_of_interfaceName h).isPrefixed, ?_⟩
  obtain ⟨start, -, rfl⟩ := Names.interfaceName_eq_ok.mp h
  split
  next hfixed => exact append_not_mem_all (.inl rfl) (hn.isFixed_iff.mp hfixed)
  next hfixed => exact fun hmem => hfixed (hn.isFixed_iff.mpr hmem)

/-- **The name of an enumeration** is prefixed; the only fixed name that it can be is that of
save options. -/
theorem isPrefixed_enumerationName (hn : n.IsFor basename)
    (h : n.enumerationName name = .ok made) :
    IsPrefixed basename made ∧
      (made ≠ (FixedNames.of basename).saveOptions → made ∉ (FixedNames.of basename).all) := by
  refine ⟨hn.base ▸ (forms_of_enumerationName h).isPrefixed, ?_⟩
  obtain ⟨start, -, rfl⟩ := Names.enumerationName_eq_ok.mp h
  split
  next hfixed =>
    rw [Bool.and_eq_true] at hfixed
    exact fun _ => append_not_mem_all (.inr rfl) (hn.isFixed_iff.mp hfixed.1)
  next hfixed =>
    intro hsave hmem
    refine hfixed ?_
    rw [Bool.and_eq_true, Bool.not_eq_true', Bool.eq_false_iff]
    exact ⟨hn.isFixed_iff.mpr hmem, mt hn.isSaveOptions_iff.mp hsave⟩

end ScriptingBindings.Swift
