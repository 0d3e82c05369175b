/-
  ScriptingBindings.Proofs.Swift.Pages
  ──────────────────────────────────
  **EVERY PAGE IS WRITTEN.**

  Each kind of declaration fills a template of its own.  The template fits the
  shapes of the values that the declaration gives, so there always is a text:
  for every declaration and with or without comments.  The only page that can
  be missing is that of an application whose bundle identifier is neither a
  text nor absent.
-/
import ScriptingBindings.Proofs.Template.Shape
import ScriptingBindings.Swift.Page

namespace ScriptingBindings.Swift

open Template

/-! ## §1. Pages. -/

/-- A template that fits the values is filled from them. -/
theorem exists_page (t : Template) (shapes : Shapes) {name : String} {values : Scope}
    (hfind : templateStore.find name = .ok t) (hself : values.has reservedName = false)
    (hfits : nodesFit shapes t = true) (hvalues : HaveShapes shapes values) :
    ∃ text, page name values = .ok text := by
  obtain ⟨text, htext⟩ := exists_fillNodes_of_fit t hvalues hfits
  have hfill : (t.fill values).mapError (fun f => (⟨name, .fault f⟩ : RenderError))
      = .ok text := mapError_eq_ok.mpr htext
  refine ⟨text, ?_⟩
  rw [page, Store.render, hfind, hself, mapError_eq_ok]
  exact hfill

/-! ## §2. Enumerations and classes. -/

/-- The shape of a value of an enumeration. -/
def caseShape : Shape := .record [("name", .any), ("code", .text), ("description", .any)]

theorem hasShape_case (c : CaseDeclaration) : HasShape caseShape c.values := by
  simp [caseShape, CaseDeclaration.values, HasShape, HaveShapes]

/-- **The text of an enumeration.** -/
theorem exists_enumeration_text (addComments : Bool) (e : EnumerationDeclaration) :
    ∃ text, e.text addComments = .ok text :=
  exists_page enumerationTemplate
    [("add_comments", .any),
     ("enum", .record [("sdef_name", .any), ("name", .any), ("description", .any),
       ("cases", .list caseShape)])]
    rfl rfl (by decide) (by simp [HaveShapes, HasShape, hasShape_case])

/-- The shape of a property. -/
def propertyShape : Shape := .record [("name", .any), ("type", .any), ("description", .any)]

theorem hasShape_property (p : PropertyDeclaration) : HasShape propertyShape p.values := by
  simp [propertyShape, PropertyDeclaration.values, HasShape, HaveShapes]

/-- The shape of an accessor. -/
def accessorShape : Shape :=
  .record [("name", .any), ("untyped", .any), ("sdef_type", .any), ("type", .any)]

theorem hasShape_accessor (a : AccessorDeclaration) : HasShape accessorShape a.values := by
  simp [accessorShape, AccessorDeclaration.values, HasShape, HaveShapes]

/-- The shape of a setter. -/
def setterShape : Shape := .record [("name", .any), ("parameter", .any), ("type", .any)]

theorem hasShape_setter (s : SetterDeclaration) : HasShape setterShape s.values := by
  simp [setterShape, SetterDeclaration.values, HasShape, HaveShapes]

/-- **The text of the protocol of a class.** -/
theorem exists_protocol_text (addComments : Bool) (p : ProtocolDeclaration) :
    ∃ text, p.text addComments = .ok text :=
  exists_page protocolTemplate
    [("add_comments", .any),
     ("cls", .record [("sdef_name", .any), ("name", .any), ("description", .any),
       ("inheritance", .list .any), ("properties", .list propertyShape), ("id_method", .any),
       ("elements", .list accessorShape), ("setters", .list setterShape)])]
    rfl rfl (by decide)
    (by simp [HaveShapes, HasShape, textList, hasShape_property, hasShape_accessor,
      hasShape_setter])

/-- The shape of the typed accessors of a class. -/
def typedShape : Shape :=
  .record [("sdef_name", .any), ("protocol", .any), ("accessors", .list accessorShape)]

theorem hasShape_typed (t : TypedAccessors) : HasShape typedShape t.values := by
  simp [typedShape, TypedAccessors.values, HasShape, HaveShapes, hasShape_accessor]

/-- **The text of the typed accessors.** -/
theorem exists_typedAccessorsText (addComments : Bool) (ts : List TypedAccessors) :
    ∃ text, typedAccessorsText addComments ts = .ok text :=
  exists_page typedAccessorsTemplate
    [("add_comments", .any), ("extensions", .list typedShape)]
    rfl rfl (by decide) (by simp [HaveShapes, HasShape, hasShape_typed])

/-! ## §3. Fixed declarations. -/

/-- **The text at the start of a file.** -/
theorem exists_headerText (basename : String) (imports : List Json) (f : FixedNames) :
    ∃ text, headerText basename imports f = .ok text :=
  exists_page headerTemplate
    [("basename", .any), ("imports", .list .any),
     ("aliases", .record [("application", .any), ("object", .any), ("element_array", .any)])]
    rfl rfl (by decide) (by simp [HaveShapes, HasShape])

/-- **The text of the declarations that every file has.** -/
theorem exists_standardText (addComments : Bool) (f : FixedNames) :
    ∃ text, standardText addComments f = .ok text :=
  exists_page standardTemplate
    [("add_comments", .any), ("save_options", .any), ("generic_methods", .any),
     ("save_cases", .list (.record [("name", .any), ("code", .text)]))]
    rfl rfl (by decide) (by simp [HaveShapes, HasShape, saveCases])

/-- **The text of the application**, for a bundle identifier that is absent or a text. -/
theorem exists_applicationText (addComments : Bool) (f : FixedNames) {bundle value : Json}
    (h : literalValue bundle = .ok value) (function : String) :
    ∃ text, applicationText addComments f bundle function = .ok text := by
  rw [applicationText, mapError_eq_ok.mpr h]
  exact exists_page applicationTemplate
    [("add_comments", .any), ("application_protocol", .any),
     ("bundle_identifier", .any), ("application_function", .any)]
    rfl rfl (by decide) (by simp [HaveShapes, HasShape])

/-- **The text of the bindings.** -/
theorem exists_bindingsText (protocols : List String) (f : FixedNames) :
    ∃ text, bindingsText protocols f = .ok text :=
  exists_page bindingsTemplate
    [("class_protocols", .list .any), ("application_protocol", .any),
     ("generic_methods", .any)]
    rfl rfl (by decide) (by simp [HaveShapes, HasShape, textList])

/-! ## §4. Class names and aliases. -/

/-- **The text of the names of all classes.** -/
theorem exists_classNamesText (addComments : Bool) (f : FixedNames)
    (entries : List ClassNameDeclaration) :
    ∃ text, classNamesText addComments f entries = .ok text :=
  exists_page classNamesTemplate
    [("add_comments", .any), ("class_names_enum", .any),
     ("class_names", .list (.record [("name", .any), ("value", .any)]))]
    rfl rfl (by decide) (by simp [HaveShapes, HasShape])

/-- The shape of an alias. -/
def aliasShape : Shape := .record [("name", .any), ("target", .any)]

theorem hasShape_alias (a : AliasDeclaration) : HasShape aliasShape a.values := by
  simp [aliasShape, AliasDeclaration.values, HasShape, HaveShapes]

/-- Aliases make a list, whether or not they are asked for. -/
theorem hasShape_aliases (asked : Bool) (as : List AliasDeclaration) :
    HasShape (.list aliasShape) (.arr (if asked then as.map AliasDeclaration.values else [])) := by
  cases asked with
  | false => simp [HasShape]
  | true => simp [HasShape, hasShape_alias]

/-- **The text of the aliases.** -/
theorem exists_aliasesText (o : Options) (basename : String) (f : FixedNames)
    (declared : List String) : ∃ text, aliasesText o basename f declared = .ok text :=
  exists_page typealiasesTemplate
    [("add_comments", .any), ("basename", .any),
     ("namespace_aliases", .list aliasShape), ("flat_aliases", .list aliasShape)]
    rfl rfl (by decide)
    ⟨rfl, trivial, rfl, trivial, rfl, hasShape_aliases _ _, rfl, hasShape_aliases _ _, trivial⟩

end ScriptingBindings.Swift
