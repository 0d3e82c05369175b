/-
  ScriptingBindings.Proofs.Swift.Protocols
  ──────────────────────────────────
  **THE PROTOCOLS OF A FILE.**

  A file that is generated has the protocols of the first class of each name,
  side by side and in order.  So under the name of any class of the dictionary
  there is exactly one protocol, and it is that of the first class whose
  protocol has this name.
-/
import ScriptingBindings.Proofs.Swift.Contents

namespace ScriptingBindings.Swift

open Dictionary

/-! ## §1. What is written. -/

/-- The protocols of a file: they are declared for classes in order, and their texts stand
side by side among the parts of the file. -/
structure Emits (o : Options) (names : Names) (classes : List Dictionary.Class)
    (ps : List ProtocolDeclaration) (text : String) : Prop where
  declared : List.Forall₂ (fun c p => (declareClass o names c).outcome = .ok p) classes ps
  written : ∃ front texts back,
    List.Forall₂ (fun p t => p.text o.addComments = .ok t) ps texts ∧
      text = joinParts (front ++ texts ++ back)

/-- **A generated file** has the protocols of the first class of each name. -/
theorem generate_eq_ok {o : Options} {d : Dictionary} {basename text : String} {names : Names}
    (h : (generate o d basename).value = (names, .ok text)) :
    names.IsFor basename ∧
      (∀ c ∈ d.classes, names.interfaceName c.name = .ok (names.interfaceOf c)) ∧
      ∃ ps, Emits o names (firstClasses names d.classes) ps text := by
  obtain ⟨p, es, ps, w, hplan, hw, rfl⟩ := contents_of_generate h
  obtain ⟨hfor, hclasses, hnames⟩ := plan_eq_ok hplan
  refine ⟨hfor, hnames, ps, hclasses ▸ hw.protocols, [w.header, w.standard] ++ w.enumerations,
    w.protocols, w.typed ++ w.classNames ++ [w.application, w.bindings] ++ w.aliases,
    hw.protocolTexts, ?_⟩
  simp only [Parts.all, List.append_assoc]

/-! ## §2. The protocol of a name. -/

/-- Under a name there is one protocol, that of the first class whose protocol has this name;
it can be read by the names of the properties of that class. -/
structure IsOnlyProtocol (o : Options) (names : Names) (classes : List Dictionary.Class)
    (ps : List ProtocolDeclaration) (interface : String) (first : Dictionary.Class)
    (p : ProtocolDeclaration) : Prop where
  first_of_name : classes.find? (fun c => names.interfaceOf c == interface) = some first
  only_of_name : ps.filter (fun q => q.name == interface) = [p]
  declared : (declareClass o names first).outcome = .ok p
  reads : ∀ name, Reads p.properties p.identifier name
    ↔ ∃ q ∈ first.properties, readName q = .ok name

variable {o : Options} {names : Names}

/-- The names of protocols are those of their classes. -/
theorem map_name_of_declared {classes : List Dictionary.Class} {ps : List ProtocolDeclaration}
    (h : List.Forall₂ (fun c p => (declareClass o names c).outcome = .ok p) classes ps) :
    ps.map ProtocolDeclaration.name = classes.map names.interfaceOf := by
  induction h with
  | nil => rfl
  | @cons c p classes ps hp _ ih =>
    have hname : names.interfaceOf c = p.name := by
      rw [Names.interfaceOf, (declareClass_eq_ok hp).1]
      rfl
    rw [List.map_cons, List.map_cons, ih, hname]

/-- **Every class has exactly one protocol under its name.** -/
theorem Emits.exists_isOnlyProtocol {classes : List Dictionary.Class}
    {ps : List ProtocolDeclaration} {text : String}
    (h : Emits o names (firstClasses names classes) ps text) {c : Dictionary.Class}
    (hc : c ∈ classes) :
    ∃ first p, p ∈ ps ∧ IsOnlyProtocol o names classes ps (names.interfaceOf c) first p := by
  obtain ⟨first, hmem, hfirst⟩ := exists_mem_firstClasses (n := names) hc
  obtain ⟨p, hp, hdeclared⟩ := exists_right_of_forall₂ h.declared hmem
  have hnodup : (ps.map ProtocolDeclaration.name).Nodup := by
    rw [map_name_of_declared h.declared]
    exact nodup_map_firstOfEach names.interfaceOf [] classes
  -- The first class of the name is found by it, so its protocol has the name, too.
  have hname : p.name = names.interfaceOf c := by
    have hkey := List.find?_some hfirst
    rw [beq_iff_eq] at hkey
    rw [← hkey, Names.interfaceOf, (declareClass_eq_ok hdeclared).1]
    rfl
  refine ⟨first, p, hp, hfirst, ?_, hdeclared, (declareClass_eq_ok hdeclared).2.2.1⟩
  rw [← hname]
  exact filter_key_eq_singleton ProtocolDeclaration.name hnodup hp

end ScriptingBindings.Swift
