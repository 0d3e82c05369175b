/-
  ScriptingBindings.Proofs.Swift.Failures
  ──────────────────────────────────
  **WHY A FILE CANNOT BE GENERATED.**

  The dictionary can be at fault in two ways only: nothing usable is left of
  some name, or the type of some property has no name.  Every step that makes
  a name or maps a type fails in one of these ways, and no step that writes
  text fails at all, so neither does a whole file fail otherwise.
-/
import ScriptingBindings.Proofs.Failure
import ScriptingBindings.Proofs.Swift.Pages
import ScriptingBindings.Proofs.Swift.Plan

namespace ScriptingBindings.Swift

open Dictionary

/-! ## §1. Faults of a dictionary. -/

/-- The failures that some name or one of these properties can be the cause of. -/
inductive IsFaultOf (properties : List Property) : GenerationError → Prop where
  /-- Nothing usable is left of a name. -/
  | name (e : Identifier.InvalidName) : IsFaultOf properties (.invalidName e)
  /-- The type of a property has no name. -/
  | type {p : Property} (hp : p ∈ properties) (hblank : Text.isAllBlank p.type.base.toList = true) :
      IsFaultOf properties (.unsupportedType p.type.base)

variable {o : Options} {names : Names} {ps : List Property}

/-! ## §2. Names. -/

/-- A name is refused only because nothing usable is left of it: reserved words can always be
written between grave accents. -/
theorem failsOnly_sanitize (style : Identifier.Style) (escaped : Bool) (name : String) :
    FailsOnly (fun r => ∃ e, r = Identifier.Refusal.invalid e)
      (sanitizer.sanitize style escaped name) := by
  unfold Identifier.Sanitizer.sanitize
  refine .bind ?_ (fun made => ?_)
  · have hall : FailsOnly (fun _ => True) (Identifier.identifier style name) :=
      fun _ _ => trivial
    exact hall.mapError (fun e _ => ⟨e, rfl⟩)
  · rw [escape_sanitizer]
    cases escaped with
    | false => exact .ok made
    | true => exact .ok (escapeKeyword made)

/-- The refusal of a name is a fault of the dictionary. -/
theorem isFaultOf_ofRefusal {r : Identifier.Refusal}
    (h : ∃ e, r = Identifier.Refusal.invalid e) :
    IsFaultOf ps (GenerationError.ofRefusal r) := by
  obtain ⟨e, rfl⟩ := h
  exact .name e

theorem failsOnly_member (name : String) : FailsOnly (IsFaultOf ps) (Names.member name) := by
  rw [Names.member_eq]
  exact (failsOnly_sanitize .camel true name).mapError (fun _ h => isFaultOf_ofRefusal h)

theorem failsOnly_accessor (type : String) :
    FailsOnly (IsFaultOf ps) (Names.accessor type) := by
  rw [Names.accessor_eq]
  exact failsOnly_member _

theorem failsOnly_prefixed (name : String) :
    FailsOnly (IsFaultOf ps) (names.prefixed name) := by
  rw [Names.prefixed_eq]
  exact ((failsOnly_sanitize .pascal false name).map _).mapError
    (fun _ h => isFaultOf_ofRefusal h)

theorem failsOnly_interfaceName (name : String) :
    FailsOnly (IsFaultOf ps) (names.interfaceName name) := by
  rw [Names.interfaceName_eq]
  exact (failsOnly_prefixed name).map _

theorem failsOnly_enumerationName (name : String) :
    FailsOnly (IsFaultOf ps) (names.enumerationName name) := by
  rw [Names.enumerationName_eq]
  exact (failsOnly_prefixed name).map _

theorem failsOnly_reference (name : String) :
    FailsOnly (IsFaultOf ps) (names.reference name) := by
  rw [Names.reference_eq]
  split
  next known _ => exact .ok known
  next => exact failsOnly_interfaceName name

/-! ## §3. Types. -/

/-- The type of a property is not mapped only for its lack of a name or for that of the
definition that it refers to. -/
theorem failsOnly_mapBase {p : Property} (hp : p ∈ ps) :
    FailsOnly (IsFaultOf ps) (mapBase o.overrides names p.type.base) := by
  rw [mapBase_eq]
  split
  next hblank => exact .error (.type hp hblank)
  next =>
    extract_lets head
    split
    next => exact (failsOnly_reference head).map _
    next =>
      split
      next v _ => exact .ok (TypeRef.plain v)
      next => exact (failsOnly_reference head).map _

theorem failsOnly_mapType {p : Property} (hp : p ∈ ps) :
    FailsOnly (IsFaultOf ps) (mapType o.overrides names p.type) := by
  rw [mapType_eq]
  exact (failsOnly_mapBase hp).map _

/-! ## §4. Enumerations. -/

theorem failsOnly_declareCases (title : String) (seen : List String) (es : List Enumerator) :
    FailsOnly (IsFaultOf ps) (declareCases title seen es).outcome := by
  induction es generalizing seen with
  | nil => exact .ok []
  | cons e es ih =>
    rw [declareCases_cons]
    refine .outcome_bind (.outcome_ofExcept (failsOnly_member e.name)) (fun name => ?_)
    split
    next => exact .outcome_bind (.ok ()) (fun _ => ih seen)
    next => exact .outcome_bind (ih (name :: seen)) (fun more => .ok _)

theorem failsOnly_enumerationText (e : Enumeration) :
    FailsOnly (IsFaultOf ps) (enumerationText o names e).outcome := by
  rw [enumerationText_eq, declareEnumeration_eq]
  refine .outcome_bind ?_ (fun declaration => ?_)
  · refine .outcome_bind (failsOnly_declareCases e.name [] e.enumerators) (fun cases => ?_)
    exact .outcome_bind (.outcome_ofExcept (failsOnly_enumerationName e.name)) (fun name => .ok _)
  · obtain ⟨text, htext⟩ := exists_enumeration_text o.addComments declaration
    rw [htext]
    exact .ok text

/-! ## §5. Classes. -/

theorem failsOnly_addProperty (title : String) (m : Members) {p : Property} (hp : p ∈ ps) :
    FailsOnly (IsFaultOf ps) (m.addProperty o names title p).outcome := by
  rw [addProperty_eq]
  split
  next => exact .outcome_bind (.outcome_ofExcept (failsOnly_mapBase hp)) (fun type => .ok _)
  next =>
    refine .outcome_bind (.outcome_ofExcept (failsOnly_member p.name)) (fun name => ?_)
    split
    next => exact .outcome_bind (.ok ()) (fun _ => .ok m)
    next => exact .outcome_bind (.outcome_ofExcept (failsOnly_mapType hp)) (fun type => .ok _)

theorem failsOnly_declareAccessors (title : String) (taken : List String)
    (es : List Dictionary.Element) :
    FailsOnly (IsFaultOf ps) (declareAccessors o names title taken es).outcome := by
  induction es generalizing taken with
  | nil => exact .ok []
  | cons e es ih =>
    rw [declareAccessors_cons]
    refine .outcome_bind (.outcome_ofExcept (failsOnly_accessor e.type)) (fun name => ?_)
    split
    next => exact .outcome_bind (.ok ()) (fun _ => ih taken)
    next =>
      refine .outcome_bind (.outcome_ofExcept (failsOnly_reference e.type)) (fun type => ?_)
      exact .outcome_bind (ih (name :: taken)) (fun more => .ok _)

theorem failsOnly_declareSetters (taken : List String) {qs : List Property} (hq : qs ⊆ ps) :
    FailsOnly (IsFaultOf ps) (declareSetters o names taken qs) := by
  induction qs generalizing taken with
  | nil => exact .ok []
  | cons p qs ih =>
    have hp : p ∈ ps := hq List.mem_cons_self
    have hrest : qs ⊆ ps := fun q h => hq (List.mem_cons_of_mem p h)
    rw [declareSetters_cons]
    split
    next => exact ih taken hrest
    next =>
      refine .bind ?_ (fun s => ?_)
      · rw [declareSetter_eq]
        refine .bind (failsOnly_member p.name) (fun parameter => ?_)
        exact .bind (failsOnly_mapType hp) (fun type => .ok _)
      · split
        next => exact ih taken hrest
        next => exact .bind (ih (s.name :: taken) hrest) (fun more => .ok _)

/-- What a protocol inherits can be told as soon as some names are fixed. -/
theorem failsOnly_inheritanceOf {f : FixedNames} (hf : names.fixed = some f) (interface : String)
    (c : Dictionary.Class) : FailsOnly (IsFaultOf ps) (inheritanceOf names interface c) := by
  rw [inheritanceOf_eq]
  refine .bind ?_ (fun basic => ?_)
  · unfold basicInheritance
    rw [hf]
    split
    next => exact .ok _
    next => exact .ok _
  · split
    next parent _ =>
      split
      next => exact .ok basic
      next =>
        refine .bind (failsOnly_reference parent) (fun type => ?_)
        split
        next => exact .ok basic
        next => exact .ok _
    next => exact .ok basic

theorem failsOnly_classText {f : FixedNames} (hf : names.fixed = some f) {c : Dictionary.Class}
    (hc : c.properties ⊆ ps) : FailsOnly (IsFaultOf ps) (classText o names c).outcome := by
  rw [classText_eq, declareClass_eq]
  refine .outcome_bind ?_ (fun declaration => ?_)
  · refine .outcome_bind (.outcome_ofExcept (failsOnly_interfaceName c.name)) (fun interface => ?_)
    refine .outcome_bind (.outcome_ofExcept (failsOnly_inheritanceOf hf interface c))
      (fun inheritance => ?_)
    refine .outcome_bind (.outcome_foldlM (fun m p hp => ?_) _) (fun members => ?_)
    · exact failsOnly_addProperty c.name m (hc hp)
    · refine .outcome_bind (failsOnly_declareAccessors c.name members.taken c.elements)
        (fun accessors => ?_)
      exact .outcome_bind (.outcome_ofExcept (failsOnly_declareSetters _ hc)) (fun setters => .ok _)
  · obtain ⟨text, htext⟩ := exists_protocol_text o.addComments declaration
    rw [htext]
    exact .ok text

theorem failsOnly_declareTypedAccessors (c : Dictionary.Class) :
    FailsOnly (IsFaultOf ps) (declareTypedAccessors o names c).outcome := by
  rw [declareTypedAccessors_eq]
  extract_lets own
  refine .outcome_bind (.outcome_ofExcept (.mapM (fun p _ => failsOnly_member p.name)))
    (fun taken => ?_)
  refine .outcome_bind (failsOnly_declareAccessors c.name taken c.elements) (fun accessors => ?_)
  split
  next => exact .ok none
  next =>
    exact .outcome_bind (.outcome_ofExcept (failsOnly_interfaceName c.name)) (fun name => .ok _)

theorem failsOnly_declareClassNames (seen : List String) (classes : List Dictionary.Class) :
    FailsOnly (IsFaultOf ps) (declareClassNames seen classes) := by
  induction classes generalizing seen with
  | nil => exact .ok []
  | cons c classes ih =>
    rw [declareClassNames_cons]
    refine .bind (failsOnly_member c.name) (fun name => ?_)
    split
    next => exact ih seen
    next => exact .bind (ih (name :: seen)) (fun more => .ok _)

/-! ## §6. Plans. -/

theorem failsOnly_chooseClasses (seen : List String) (classes : List Dictionary.Class) :
    FailsOnly (IsFaultOf ps) (chooseClasses names seen classes).value := by
  induction classes generalizing seen with
  | nil => exact .ok []
  | cons c classes ih =>
    rw [chooseClasses_cons]
    split
    next e he => exact .error (failsOnly_interfaceName c.name e he)
    next name _ =>
      split
      next => exact ih seen
      next => exact (ih (name :: seen)).map _

theorem failsOnly_chooseEnumerations (n : Names) (seen : List String) (es : List Enumeration) :
    FailsOnly (IsFaultOf ps) (chooseEnumerations n seen es).value.2 := by
  induction es generalizing n seen with
  | nil => exact .ok []
  | cons e es ih =>
    rw [chooseEnumerations_cons]
    split
    next failure h => exact .error (failsOnly_enumerationName e.name failure h)
    next type _ =>
      dsimp only
      split
      next => exact ih _ seen
      next =>
        split
        next =>
          split
          next => exact ih _ seen
          next => exact ih _ seen
        next => exact (ih _ (type :: seen)).map _

theorem failsOnly_registerAll (n : Names) (p : Plan) :
    FailsOnly (IsFaultOf ps) (n.registerAll p) := by
  rw [registerAll_eq]
  refine .bind (.foldlM (fun n e _ => ?_) n) (fun n => ?_)
  · exact .bind (failsOnly_enumerationName e.name) (fun type => .ok _)
  · refine .bind (.foldlM (fun n c _ => ?_) n) (fun n => .ok _)
    exact .bind (failsOnly_interfaceName c.name) (fun type => .ok _)

theorem failsOnly_plan (d : Dictionary) (basename : String) :
    FailsOnly (IsFaultOf ps) (plan d basename).value.2 := by
  rw [plan_eq]
  dsimp only [Logged.value_bind]
  split
  next e he => exact .error (failsOnly_chooseClasses [] d.classes e he)
  next classes _ =>
    rw [Logged.value_bind]
    split
    next e he => exact .error (failsOnly_chooseEnumerations _ _ d.enumerations e he)
    next enumerations _ =>
      split
      next known _ => exact .ok _
      next e he => exact .error (failsOnly_registerAll _ _ e he)

/-! ## §7. Whole files. -/

theorem failsOnly_typedAccessorsPart (classes : List Dictionary.Class) :
    FailsOnly (IsFaultOf ps) (typedAccessorsPart o names classes).outcome := by
  rw [typedAccessorsPart_eq]
  split
  next =>
    refine .outcome_bind
      (.outcome_mapM (fun c _ => failsOnly_declareTypedAccessors c)) (fun declared => ?_)
    split
    next => exact .ok []
    next =>
      obtain ⟨text, htext⟩ := exists_typedAccessorsText o.addComments (declared.filterMap id)
      rw [htext]
      exact .ok [text]
  next => exact .ok []

theorem failsOnly_classNamesPart (f : FixedNames) (classes : List Dictionary.Class) :
    FailsOnly (IsFaultOf ps) (classNamesPart o f classes) := by
  rw [classNamesPart_eq]
  split
  next =>
    refine .bind (failsOnly_declareClassNames [] classes) (fun entries => ?_)
    obtain ⟨text, htext⟩ := exists_classNamesText o.addComments f entries
    rw [htext]
    exact .ok [text]
  next => exact .ok []

theorem failsOnly_aliasesPart (basename : String) (f : FixedNames) (declared : List String) :
    FailsOnly (IsFaultOf ps) (aliasesPart o basename f declared) := by
  unfold aliasesPart
  split
  next =>
    obtain ⟨text, htext⟩ := exists_aliasesText o basename f declared
    rw [htext]
    exact .ok [text]
  next => exact .ok []

/-- The parts of a file, for a bundle identifier that is absent or a text. -/
theorem failsOnly_parts {basename : String} {p : Plan} {f : FixedNames} {bundle : Json}
    (hf : names.fixed = some f) (hb : literalValue o.bundleIdentifier = .ok bundle)
    (hp : ∀ c ∈ p.classes, c.properties ⊆ ps) :
    FailsOnly (IsFaultOf ps) (parts o names basename p).outcome := by
  rw [parts_eq]
  extract_lets fixed
  obtain ⟨header, hheader⟩ := exists_headerText basename o.imports fixed
  obtain ⟨standard, hstandard⟩ := exists_standardText o.addComments fixed
  obtain ⟨application, happlication⟩ :=
    exists_applicationText o.addComments fixed hb names.applicationFunction
  rw [hheader, hstandard, happlication]
  refine .outcome_bind (.ok header) (fun header => ?_)
  refine .outcome_bind (.ok standard) (fun standard => ?_)
  refine .outcome_bind (.outcome_mapM (fun e _ => failsOnly_enumerationText e)) (fun es => ?_)
  refine .outcome_bind (.outcome_ofExcept (.mapM (fun e _ => failsOnly_enumerationName e.name)))
    (fun enumerationNames => ?_)
  refine .outcome_bind (.outcome_mapM (fun c hc => failsOnly_classText hf (hp c hc)))
    (fun classes => ?_)
  refine .outcome_bind (.outcome_ofExcept (.mapM (fun c _ => failsOnly_interfaceName c.name)))
    (fun protocols => ?_)
  refine .outcome_bind (failsOnly_typedAccessorsPart p.classes) (fun typed => ?_)
  refine .outcome_bind (.outcome_ofExcept (failsOnly_classNamesPart fixed p.classes))
    (fun classNames => ?_)
  refine .outcome_bind (.ok application) (fun application => ?_)
  obtain ⟨bindings, hbindings⟩ := exists_bindingsText protocols fixed
  rw [hbindings]
  refine .outcome_bind (.ok bindings) (fun bindings => ?_)
  refine .outcome_bind (.outcome_ofExcept (failsOnly_aliasesPart basename fixed _))
    (fun aliases => ?_)
  exact .outcome_bind (.ok ()) (fun _ => .ok _)

/-- The properties of all classes of a dictionary. -/
def allProperties (d : Dictionary) : List Property :=
  d.classes.flatMap Dictionary.Class.properties

/-- **A file cannot be generated only for a fault of its dictionary**, given that the bundle
identifier is absent or a text. -/
theorem failsOnly_generate {bundle : Json} (hb : literalValue o.bundleIdentifier = .ok bundle)
    (d : Dictionary) (basename : String) :
    FailsOnly (IsFaultOf (allProperties d)) (generate o d basename).value.2 := by
  rw [generate_eq, Logged.value_bind]
  cases hplan : (plan d basename).value with
  | mk known p =>
    cases p with
    | error e =>
      have he : IsFaultOf (allProperties d) e := failsOnly_plan d basename e (by rw [hplan])
      exact .error he
    | ok p =>
      obtain ⟨hfor, hclasses, -⟩ := plan_eq_ok hplan
      -- The classes of the plan are classes of the dictionary.
      have hp : ∀ c ∈ p.classes, c.properties ⊆ allProperties d := by
        intro c hc q hq
        rw [hclasses] at hc
        exact List.mem_flatMap.mpr ⟨c, (mem_of_mem_firstOfEach known.interfaceOf hc).1, hq⟩
      exact (failsOnly_parts hfor.fixed hb hp).map joinParts

end ScriptingBindings.Swift
