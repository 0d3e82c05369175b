/-
  ScriptingBindings.Proofs.Dictionary.Visibility
  ──────────────────────────────────
  **HIDDEN DEFINITIONS CAN BE LEFT OUT BEFORE OR AFTER READING.**

  Reading without the hidden definitions leaves each of them out where it is
  met, in searches that also go through hidden elements.  The same is read if
  everything is read first and the definitions that were marked are removed
  from the suites afterwards:

      suitesOf false root = (suitesOf true root).map Suite.visible

  So nothing that is read of a definition depends on a hidden one around it,
  below it or beside it.
-/
import ScriptingBindings.Dictionary.Reader

namespace ScriptingBindings.Dictionary

/-! ## §1. Definitions without the hidden ones. -/

/-- The properties that are not hidden. -/
def visibleProperties (ps : List Property) : List Property :=
  ps.filter (fun p => !p.isHidden)

/-- A class without its hidden properties. -/
def Class.visible (c : Class) : Class :=
  { c with properties := visibleProperties c.properties }

/-- An extension without its hidden properties. -/
def Extension.visible (x : Extension) : Extension :=
  { x with properties := visibleProperties x.properties }

/-- A suite without its hidden classes, enumerations and commands, and without the hidden
properties of the classes and extensions that are left. -/
def Suite.visible (s : Suite) : Suite :=
  { s with
    classes := (s.classes.filter (fun c => !c.isHidden)).map Class.visible
    enumerations := s.enumerations.filter (fun e => !e.isHidden)
    commands := s.commands.filter (fun c => !c.isHidden)
    extensions := s.extensions.map Extension.visible }

/-! ## §2. One kind of definitions. -/

/-- Every element is kept where hidden ones are asked for. -/
theorem filter_isKept_true (es : List Markup.Element) : es.filter (isKept true) = es :=
  List.filter_eq_self.mpr fun _ _ => rfl

section Kinds

variable {α : Type} (isHidden : α → Bool) (read : Markup.Element → α)

/-- What is read of the elements that are kept is what is not hidden of all that is read. -/
theorem map_filter_isKept (h : ∀ e, isHidden (read e) = isMarkedHidden e)
    (es : List Markup.Element) :
    (es.filter (isKept false)).map read
      = ((es.filter (isKept true)).map read).filter (fun a => !isHidden a) := by
  rw [filter_isKept_true, List.filter_map]
  congr 2
  funext e
  exact congrArg (!·) (h e).symm

/-- The same where less is read of an element without the hidden definitions inside it. -/
theorem map_filter_isKept_visible {visible : α → α} {readVisible : Markup.Element → α}
    (h : ∀ e, isHidden (read e) = isMarkedHidden e) (hvisible : ∀ e, visible (read e) = readVisible e)
    (es : List Markup.Element) :
    (es.filter (isKept false)).map readVisible
      = (((es.filter (isKept true)).map read).filter (fun a => !isHidden a)).map visible := by
  rw [← map_filter_isKept isHidden read h, List.map_map]
  exact List.map_congr_left fun e _ => (hvisible e).symm

end Kinds

/-! ## §3. Properties, classes and extensions. -/

theorem propertiesBelow_false (e : Markup.Element) :
    propertiesBelow false e = visibleProperties (propertiesBelow true e) :=
  map_filter_isKept Property.isHidden Property.ofElement (fun _ => rfl) (e.allNamed "property")

theorem Class.visible_ofElement (e : Markup.Element) :
    (Class.ofElement true e).visible = Class.ofElement false e := by
  unfold Class.visible Class.ofElement
  rw [propertiesBelow_false]

theorem Class.visible_ofRecordType (e : Markup.Element) :
    (Class.ofRecordType true e).visible = Class.ofRecordType false e := by
  unfold Class.visible Class.ofRecordType
  rw [propertiesBelow_false]

theorem Extension.visible_ofElement (e : Markup.Element) :
    (Extension.ofElement true e).visible = Extension.ofElement false e := by
  unfold Extension.visible Extension.ofElement
  rw [propertiesBelow_false]

/-! ## §4. Suites. -/

/-- A suite that is read without hidden definitions is the visible part of the suite. -/
theorem Suite.ofElement_false (e : Markup.Element) :
    Suite.ofElement false e = (Suite.ofElement true e).visible := by
  have hclasses := map_filter_isKept_visible Class.isHidden (Class.ofElement true) (fun _ => rfl)
    Class.visible_ofElement (e.allNamed "class")
  have hrecords := map_filter_isKept_visible Class.isHidden (Class.ofRecordType true)
    (fun _ => rfl) Class.visible_ofRecordType (e.allNamed "record-type")
  have henumerations := map_filter_isKept Enumeration.isHidden Enumeration.ofElement (fun _ => rfl)
    (e.allNamed "enumeration")
  have hcommands := map_filter_isKept Command.isHidden Command.ofElement (fun _ => rfl)
    (e.childrenNamed "command")
  have hextensions : (e.allNamed "class-extension").map (Extension.ofElement false)
      = ((e.allNamed "class-extension").map (Extension.ofElement true)).map Extension.visible := by
    rw [List.map_map]
    exact List.map_congr_left fun x _ => (Extension.visible_ofElement x).symm
  unfold Suite.visible Suite.ofElement keptBelow
  rw [hclasses, hrecords, henumerations, hcommands, hextensions, List.filter_append,
    List.map_append]

/-- **Leaving out hidden definitions commutes with reading**, for every document. -/
theorem readSuites_false (root : Markup.Element) :
    (readSuites false root).value = (readSuites true root).value.map Suite.visible := by
  show suitesOf false root = (suitesOf true root).map Suite.visible
  unfold suitesOf
  rw [List.map_map]
  exact List.map_congr_left fun e _ => Suite.ofElement_false e

end ScriptingBindings.Dictionary
