/-
  ScriptingBindings.Proofs.Swift.Descriptions
  ──────────────────────────────────
  **DESCRIPTIONS BECOME REMARKS AND NOTHING ELSE.**

  Which definitions a file declares, their names, their types and every failure
  on the way are found without a look at a description.  The declarations of a
  dictionary without descriptions are those of the dictionary itself with the
  descriptions taken away, and their texts differ by remarks:

      IsRemarked (text without descriptions) (text)
-/
import ScriptingBindings.Proofs.Dictionary.Descriptions
import ScriptingBindings.Proofs.Swift.DeclarationLines
import ScriptingBindings.Swift.Unit

namespace ScriptingBindings.Swift

open Dictionary Template Text

/-! ## §1. Plans. -/

/-- A plan without any description. -/
def Plan.undescribed (p : Plan) : Plan :=
  ⟨p.classes.map Class.undescribed, p.enumerations.map Enumeration.undescribed⟩

theorem chooseClasses_undescribed (n : Names) (seen : List String) (cs : List Dictionary.Class) :
    (chooseClasses n seen (cs.map Class.undescribed)).value
      = (chooseClasses n seen cs).value.map (List.map Class.undescribed) := by
  induction cs generalizing seen with
  | nil => rfl
  | cons c cs ih =>
    rw [List.map_cons, chooseClasses_cons, chooseClasses_cons, Class.name_undescribed]
    cases n.interfaceName c.name with
    | error e => rfl
    | ok name =>
      dsimp only
      split
      next => exact ih seen
      next =>
        simp only [Logged.value_bind, Logged.value_pure, ih]
        cases (chooseClasses n (name :: seen) cs).value <;> rfl

theorem chooseEnumerations_undescribed (n : Names) (seen : List String) (es : List Enumeration) :
    (chooseEnumerations n seen (es.map Enumeration.undescribed)).value
      = ((chooseEnumerations n seen es).value.1,
          (chooseEnumerations n seen es).value.2.map (List.map Enumeration.undescribed)) := by
  induction es generalizing n seen with
  | nil => rfl
  | cons e es ih =>
    rw [List.map_cons, chooseEnumerations_cons, chooseEnumerations_cons,
      Enumeration.name_undescribed, Enumeration.isEmpty_enumerators_undescribed]
    cases n.enumerationName e.name with
    | error failure => rfl
    | ok type =>
      dsimp only
      split
      next => exact ih _ seen
      next =>
        split
        next =>
          split
          next => exact ih _ seen
          next => exact ih _ seen
        next =>
          simp only [Logged.value_bind, Logged.value_pure, ih]
          cases (chooseEnumerations (n.noteSaveOptions e.name type) (type :: seen) es).value.2 <;> rfl

theorem registerAll_undescribed (n : Names) (p : Plan) :
    n.registerAll p.undescribed = n.registerAll p := by
  rw [registerAll_eq, registerAll_eq]
  unfold Plan.undescribed
  simp only [List.foldlM_map, Enumeration.name_undescribed, Class.name_undescribed]

/-- **The plan of a dictionary without descriptions** is its plan without them. -/
theorem plan_undescribed (d : Dictionary) (basename : String) :
    (plan d.undescribed basename).value
      = ((plan d basename).value.1, (plan d basename).value.2.map Plan.undescribed) := by
  rw [plan_eq, plan_eq]
  simp only [Logged.value_bind, classes_undescribed, chooseClasses_undescribed]
  cases (chooseClasses (Names.start basename) [] d.classes).value with
  | error e => rfl
  | ok classes =>
    simp only [Except.map, Logged.value_bind, enumerations_undescribed,
      chooseEnumerations_undescribed]
    cases (chooseEnumerations (Names.start basename) [(FixedNames.of basename).saveOptions]
      d.enumerations).value with
    | mk names enumerations =>
    cases enumerations with
    | error e => rfl
    | ok enumerations =>
      dsimp only [Except.map]
      have hregister := registerAll_undescribed names ⟨classes, enumerations⟩
      unfold Plan.undescribed at hregister
      dsimp only at hregister
      rw [hregister]
      cases names.registerAll ⟨classes, enumerations⟩ <;> rfl

/-! ## §2. Enumerations. -/

/-- A value of an enumeration without its description. -/
def CaseDeclaration.undescribed (c : CaseDeclaration) : CaseDeclaration :=
  { c with description := none }

/-- An enumeration without any description. -/
def EnumerationDeclaration.undescribed (e : EnumerationDeclaration) : EnumerationDeclaration :=
  { e with description := none, cases := e.cases.map CaseDeclaration.undescribed }

theorem declareCases_undescribed (title : String) (seen : List String) (vs : List Enumerator) :
    Alike (fun cs ds => cs = ds.map CaseDeclaration.undescribed)
      (declareCases title seen (vs.map Enumerator.undescribed)).outcome
      (declareCases title seen vs).outcome := by
  induction vs generalizing seen with
  | nil => exact .ok rfl
  | cons v vs ih =>
    rw [List.map_cons, declareCases_cons, declareCases_cons, Enumerator.name_undescribed,
      Run.outcome_bind, Run.outcome_bind]
    refine .bind_left _ fun name => ?_
    split
    next =>
      rw [Run.outcome_bind, Run.outcome_bind]
      exact .bind_left _ fun _ => ih seen
    next =>
      rw [Run.outcome_bind, Run.outcome_bind]
      exact (ih (name :: seen)).bind fun _ _ h => .ok (h ▸ rfl)

theorem declareEnumeration_undescribed (n : Names) (e : Enumeration) :
    Alike (fun p q => p = q.undescribed) (declareEnumeration n e.undescribed).outcome
      (declareEnumeration n e).outcome := by
  rw [declareEnumeration_eq, declareEnumeration_eq]
  simp only [Run.outcome_bind, Run.outcome_ofExcept, Run.outcome_pure]
  exact (declareCases_undescribed e.name [] e.enumerators).bind fun _ _ hcases =>
    .bind_left _ fun _ => .ok (hcases ▸ rfl)

/-- The remarks of a description stand before a line that starts in their column. -/
theorem remarked_append (addComments : Bool) {column : Nat} {front head : String}
    {plain full : List (List Char)} (hfront : StartsAt column front.toList)
    (hline : '\n' ∉ front.toList) (hhead : ∃ back, head = front ++ back)
    (description : Option String) (h : Remarked plain full) :
    Remarked (linesOf head ++ plain)
      (remarkLines addComments column description ++ (linesOf head ++ full)) := by
  obtain ⟨c, more, hc, hstart⟩ := hfront
  obtain ⟨back, rfl⟩ := hhead
  have hfirst : StartsAt column (front.toList ++ (linesOf back).headD []) :=
    ⟨c, more ++ (linesOf back).headD [], hc, by rw [hstart, List.append_assoc, List.cons_append]⟩
  rw [linesOf_append hline, List.cons_append, List.cons_append]
  exact .remarks (fun _ hr => remarkAt_of_mem_remarkLines hr) hfirst
    (.same _ ((Remarked.refl _).append h))

theorem CaseDeclaration.remarked_lines (addComments : Bool) (c : CaseDeclaration) :
    Remarked (c.undescribed.lines addComments) (c.lines addComments) := by
  have hfront : StartsAt levelWidth "    case ".toList := ⟨'c', _, by decide, rfl⟩
  have h := remarked_append addComments hfront (by decide) c.exists_head_eq c.description .nil
  simp only [List.append_nil] at h
  exact h

/-- **The text of an enumeration has its descriptions as remarks.** -/
theorem EnumerationDeclaration.remarked_lines (addComments : Bool) (e : EnumerationDeclaration) :
    Remarked (e.undescribed.lines addComments) (e.lines addComments) := by
  have hfront : StartsAt 0 "@objc public enum ".toList := ⟨'@', _, by decide, rfl⟩
  have hcases := Remarked.flatMap (forall₂_map_left CaseDeclaration.undescribed e.cases)
    fun _ c h => h ▸ c.remarked_lines addComments
  exact (Remarked.refl (titleLines e.title)).append
    (remarked_append addComments hfront (by decide) e.exists_head_eq e.description
      (hcases.append (.refl [closingLine])))

/-- The text of a part without descriptions, and the text with them. -/
def TextsAgree (plain full : String) : Prop :=
  IsRemarked plain.toList full.toList

theorem TextsAgree.refl (text : String) : TextsAgree text text :=
  IsRemarked.refl _

theorem textsAgree_ofLines {plain full : List (List Char)} (h : Remarked plain full)
    (hplain : ∀ l ∈ plain, '\n' ∉ l) (hfull : ∀ l ∈ full, '\n' ∉ l) :
    TextsAgree (ofLines plain) (ofLines full) := by
  have hlines := h.append (.refl [[]])
  rwa [← linesOf_ofLines hplain, ← linesOf_ofLines hfull] at hlines

theorem alike_enumerationText (o : Options) (n : Names) (e : Enumeration) :
    Alike TextsAgree (enumerationText o n e.undescribed).outcome
      (enumerationText o n e).outcome := by
  rw [enumerationText_eq, enumerationText_eq]
  simp only [Run.outcome_bind, Run.outcome_ofExcept, EnumerationDeclaration.text_eq]
  refine (declareEnumeration_undescribed n e).bind fun _ declaration h => .ok (h ▸ ?_)
  exact textsAgree_ofLines (declaration.remarked_lines o.addComments)
    (fun _ => EnumerationDeclaration.not_mem_of_mem_lines)
    (fun _ => EnumerationDeclaration.not_mem_of_mem_lines)

/-! ## §3. Classes. -/

/-- A property without its description. -/
def PropertyDeclaration.undescribed (q : PropertyDeclaration) : PropertyDeclaration :=
  { q with description := none }

/-- Members without any description. -/
def Members.undescribed (m : Members) : Members :=
  { m with properties := m.properties.map PropertyDeclaration.undescribed }

/-- A protocol without any description. -/
def ProtocolDeclaration.undescribed (p : ProtocolDeclaration) : ProtocolDeclaration :=
  { p with description := none, properties := p.properties.map PropertyDeclaration.undescribed }

theorem mapType_undescribed (overrides : OrderedMap Json) (n : Names) (t : ValueType) :
    mapType overrides n t.undescribed = mapType overrides n t := rfl

section Members

variable (o : Options) (n : Names) (title : String)

theorem addProperty_undescribed (m : Members) (p : Property) :
    Alike (fun k l => k = l.undescribed)
      (m.undescribed.addProperty o n title p.undescribed).outcome
      (m.addProperty o n title p).outcome := by
  have htype : p.undescribed.type = p.type.undescribed := rfl
  have hbase : p.type.undescribed.base = p.type.base := rfl
  have htaken : m.undescribed.taken = m.taken := rfl
  rw [addProperty_eq, addProperty_eq, Property.name_undescribed, htype, mapType_undescribed, hbase,
    htaken]
  split
  next =>
    rw [Run.outcome_bind, Run.outcome_bind]
    exact .bind_left _ fun _ => .ok rfl
  next =>
    rw [Run.outcome_bind, Run.outcome_bind]
    refine .bind_left _ fun name => ?_
    split
    next =>
      rw [Run.outcome_bind, Run.outcome_bind]
      exact .bind_left _ fun _ => .ok rfl
    next =>
      rw [Run.outcome_bind, Run.outcome_bind]
      refine .bind_left _ fun type => .ok ?_
      simp [Members.undescribed, PropertyDeclaration.undescribed, Property.undescribed]

theorem declareSetters_undescribed (taken : List String) (ps : List Property) :
    declareSetters o n taken (ps.map Property.undescribed) = declareSetters o n taken ps := by
  have hsetter : ∀ p, declareSetter o n (Property.undescribed p) = declareSetter o n p :=
    fun _ => rfl
  induction ps generalizing taken with
  | nil => rfl
  | cons p ps ih =>
    rw [List.map_cons, declareSetters_cons, declareSetters_cons]
    simp only [Property.isReadOnly_undescribed, hsetter, ih]

/-- **The declaration of a class without descriptions** is its declaration without them. -/
theorem declareClass_undescribed (c : Dictionary.Class) :
    Alike (fun p q => p = q.undescribed) (declareClass o n c.undescribed).outcome
      (declareClass o n c).outcome := by
  have hproperties : c.undescribed.properties = c.properties.map Property.undescribed := rfl
  have helements : c.undescribed.elements = c.elements := rfl
  have hinheritance : ∀ interface,
      inheritanceOf n interface c.undescribed = inheritanceOf n interface c := fun _ => rfl
  rw [declareClass_eq, declareClass_eq]
  simp only [Run.outcome_bind, Run.outcome_ofExcept, Run.outcome_pure, Run.outcome_foldlM,
    hproperties, helements, hinheritance, Class.name_undescribed, declareSetters_undescribed]
  refine .bind_left _ fun interface => .bind_left _ fun inheritance => ?_
  have hmembers : Alike (fun k l : Members => k = l.undescribed)
      ((c.properties.map Property.undescribed).foldlM
        (fun m p => (m.addProperty o n c.name p).outcome) {})
      (c.properties.foldlM (fun m p => (m.addProperty o n c.name p).outcome) {}) := by
    refine Alike.foldlM (forall₂_map_left Property.undescribed c.properties) ?_ rfl
    rintro _ m _ p rfl rfl
    exact addProperty_undescribed o n c.name m p
  refine hmembers.bind fun _ m hm => ?_
  subst hm
  exact .bind_left _ fun accessors => .bind_left _ fun setters => .ok rfl

end Members

theorem PropertyDeclaration.remarked_lines (addComments : Bool) (q : PropertyDeclaration) :
    Remarked (q.undescribed.lines addComments) (q.lines addComments) := by
  have hfront : StartsAt levelWidth "    @objc optional var ".toList := ⟨'@', _, by decide, rfl⟩
  have h := remarked_append addComments hfront (by decide) q.exists_head_eq q.description .nil
  simp only [List.append_nil] at h
  exact h

/-- **The text of a protocol has its descriptions as remarks.** -/
theorem ProtocolDeclaration.remarked_lines (addComments : Bool) (p : ProtocolDeclaration) :
    Remarked (p.undescribed.lines addComments) (p.lines addComments) := by
  have hfront : StartsAt 0 "@objc public protocol ".toList := ⟨'@', _, by decide, rfl⟩
  have hproperties := Remarked.flatMap (forall₂_map_left PropertyDeclaration.undescribed p.properties)
    fun _ q h => h ▸ q.remarked_lines addComments
  exact (Remarked.refl (titleLines p.title)).append
    (remarked_append addComments hfront (by decide) p.exists_head_eq p.description
      (hproperties.append (.refl _)))

theorem alike_classText (o : Options) (n : Names) (c : Dictionary.Class) :
    Alike TextsAgree (classText o n c.undescribed).outcome (classText o n c).outcome := by
  rw [classText_eq, classText_eq]
  simp only [Run.outcome_bind, Run.outcome_ofExcept, ProtocolDeclaration.text_eq]
  refine (declareClass_undescribed o n c).bind fun _ declaration h => .ok (h ▸ ?_)
  exact textsAgree_ofLines (declaration.remarked_lines o.addComments)
    (fun _ => ProtocolDeclaration.not_mem_of_mem_lines)
    (fun _ => ProtocolDeclaration.not_mem_of_mem_lines)

/-! ## §4. Files. -/

section Files

variable (o : Options) (n : Names)

theorem declareTypedAccessors_undescribed (c : Dictionary.Class) :
    declareTypedAccessors o n c.undescribed = declareTypedAccessors o n c := by
  have hproperties : c.undescribed.properties = c.properties.map Property.undescribed := rfl
  have helements : c.undescribed.elements = c.elements := rfl
  rw [declareTypedAccessors_eq, declareTypedAccessors_eq, hproperties, helements,
    Class.name_undescribed, List.filter_map]
  dsimp only
  rw [List.mapM_map]
  simp only [Function.comp_def, Property.name_undescribed]

theorem typedAccessorsPart_undescribed (cs : List Dictionary.Class) :
    typedAccessorsPart o n (cs.map Class.undescribed) = typedAccessorsPart o n cs := by
  have hdeclare : declareTypedAccessors o n ∘ Class.undescribed = declareTypedAccessors o n :=
    funext (declareTypedAccessors_undescribed o n)
  rw [typedAccessorsPart_eq, typedAccessorsPart_eq, List.mapM_map, hdeclare]

theorem declareClassNames_undescribed (seen : List String) (cs : List Dictionary.Class) :
    declareClassNames seen (cs.map Class.undescribed) = declareClassNames seen cs := by
  induction cs generalizing seen with
  | nil => rfl
  | cons c cs ih =>
    rw [List.map_cons, declareClassNames_cons, declareClassNames_cons]
    simp only [Class.name_undescribed, ih]

theorem classNamesPart_undescribed (f : FixedNames) (cs : List Dictionary.Class) :
    classNamesPart o f (cs.map Class.undescribed) = classNamesPart o f cs := by
  rw [classNamesPart_eq, classNamesPart_eq, declareClassNames_undescribed]

theorem forall₂_textsAgree_refl (texts : List String) : List.Forall₂ TextsAgree texts texts :=
  List.forall₂_same.mpr fun text _ => .refl text

/-- **The parts of a file** have the descriptions as remarks. -/
theorem alike_parts (basename : String) (p : Plan) :
    Alike (List.Forall₂ TextsAgree) (parts o n basename p.undescribed).outcome
      (parts o n basename p).outcome := by
  have henumerations := Alike.mapM (forall₂_map_left Enumeration.undescribed p.enumerations)
    fun _ e h => h ▸ alike_enumerationText o n e
  have hclasses := Alike.mapM (forall₂_map_left Class.undescribed p.classes)
    fun _ c h => h ▸ alike_classText o n c
  have htypes : (p.enumerations.map Enumeration.undescribed).mapM (fun e => n.enumerationName e.name)
      = p.enumerations.mapM (fun e => n.enumerationName e.name) := by
    simp only [List.mapM_map, Function.comp_def, Enumeration.name_undescribed]
  have hprotocols : (p.classes.map Class.undescribed).mapM (fun c => n.interfaceName c.name)
      = p.classes.mapM (fun c => n.interfaceName c.name) := by
    simp only [List.mapM_map, Function.comp_def, Class.name_undescribed]
  rw [parts_eq, parts_eq]
  unfold Plan.undescribed
  simp only [Run.outcome_bind, Run.outcome_ofExcept, Run.outcome_mapM, Run.outcome_pure,
    typedAccessorsPart_undescribed, classNamesPart_undescribed, htypes, hprotocols]
  -- Only the texts of enumerations and of classes differ.
  refine .bind_left _ fun header => .bind_left _ fun standard => ?_
  refine henumerations.bind fun _ _ henumerations => .bind_left _ fun _ => ?_
  refine hclasses.bind fun _ _ hclasses => .bind_left _ fun _ => ?_
  refine .bind_left _ fun typed => .bind_left _ fun classNames => .bind_left _ fun _ => ?_
  refine .bind_left _ fun _ => .bind_left _ fun _ => .bind_left _ fun _ => .ok ?_
  have hdeclared := List.rel_append (List.rel_append
    (forall₂_textsAgree_refl [header, standard]) henumerations) hclasses
  exact List.rel_append (List.rel_append (List.rel_append (List.rel_append hdeclared
    (forall₂_textsAgree_refl _)) (forall₂_textsAgree_refl _)) (forall₂_textsAgree_refl _))
    (forall₂_textsAgree_refl _)

end Files

/-- Parts that are put together to a file. -/
theorem textsAgree_joinParts {plain full : List String} (h : List.Forall₂ TextsAgree plain full) :
    TextsAgree (joinParts plain) (joinParts full) := by
  unfold TextsAgree joinParts
  rw [String.toList_ofList, String.toList_ofList]
  induction h with
  | nil => exact .refl _
  | @cons s t plain full hst hrest ih =>
    have hpart : IsRemarked (trimmedPart s) (trimmedPart t) :=
      (IsRemarked.stripOf hst).append (IsRemarked.refl [])
    cases hrest with
    | nil => exact hpart
    | cons hnext hmore => exact hpart.append ih

/-- **The text of a file** has the descriptions as remarks, and nothing else depends on them. -/
theorem alike_generate (o : Options) (d : Dictionary) (basename : String) :
    Alike TextsAgree (generate o d.undescribed basename).value.2
      (generate o d basename).value.2 := by
  rw [generate_eq, generate_eq]
  simp only [Logged.value_bind]
  rw [plan_undescribed]
  cases (plan d basename).value with
  | mk n planned =>
  cases planned with
  | error failure => exact .error failure
  | ok p => exact (alike_parts o n basename p).map fun _ _ h => textsAgree_joinParts h

/-- Whether a file can hold the text does not depend on descriptions. -/
theorem isEncodable_undescribed (o : Options) (d : Dictionary) (basename : String) :
    isEncodable o d.undescribed basename = isEncodable o d basename := by
  have htypes (n : Names) (c : Dictionary.Class) :
      shownTypes o n c.undescribed = shownTypes o n c := by
    unfold shownTypes
    rcases (declareClass_undescribed o n c).ok_or_error with ⟨_, q, hp, hq, rfl⟩ | ⟨e, hp, hq⟩
    · rw [hp, hq]
      simp [ProtocolDeclaration.memberTypes, ProtocolDeclaration.undescribed,
        PropertyDeclaration.undescribed, Function.comp_def]
    · rw [hp, hq]
  unfold isEncodable
  rw [plan_undescribed]
  cases (plan d basename).value with
  | mk n planned =>
  cases planned with
  | error failure => rfl
  | ok p =>
    show (shownValues o n p.undescribed).all _ = (shownValues o n p).all _
    unfold shownValues Plan.undescribed
    rw [List.flatMap_map]
    simp only [htypes]

end ScriptingBindings.Swift
