/-
  ScriptingBindings.Proofs.Dictionary.Descriptions
  ──────────────────────────────────
  **DICTIONARIES WITHOUT DESCRIPTIONS.**

  Every kind of definition can carry a description, and so can every type.  Two
  dictionaries are equal except for descriptions if they are equal once all of
  these are taken away, in the catalog and in what is included as well:

      d.undescribed = d'.undescribed
-/
import ScriptingBindings.Dictionary.Basic

namespace ScriptingBindings

namespace Dictionary

/-! ## §1. Members. -/

/-- A type without its description. -/
def ValueType.undescribed (t : ValueType) : ValueType :=
  { t with description := none }

/-- A property without its description and that of its type. -/
def Property.undescribed (p : Property) : Property :=
  { p with type := p.type.undescribed, description := none }

@[simp] theorem Property.name_undescribed (p : Property) : p.undescribed.name = p.name := rfl

@[simp] theorem Property.isReadOnly_undescribed (p : Property) :
    p.undescribed.isReadOnly = p.isReadOnly := rfl

/-- A value of an enumeration without its description. -/
def Enumerator.undescribed (v : Enumerator) : Enumerator :=
  { v with description := none }

@[simp] theorem Enumerator.name_undescribed (v : Enumerator) : v.undescribed.name = v.name := rfl

/-- A parameter without its description and that of its type. -/
def Parameter.undescribed (p : Parameter) : Parameter :=
  { p with type := p.type.undescribed, description := none }

/-! ## §2. Definitions. -/

/-- A class without any description. -/
def Class.undescribed (c : Class) : Class :=
  { c with description := none, properties := c.properties.map Property.undescribed }

@[simp] theorem Class.name_undescribed (c : Class) : c.undescribed.name = c.name := rfl

/-- An extension without any description. -/
def Extension.undescribed (x : Extension) : Extension :=
  { x with properties := x.properties.map Property.undescribed }

/-- An enumeration without any description. -/
def Enumeration.undescribed (e : Enumeration) : Enumeration :=
  { e with description := none, enumerators := e.enumerators.map Enumerator.undescribed }

@[simp] theorem Enumeration.name_undescribed (e : Enumeration) :
    e.undescribed.name = e.name := rfl

@[simp] theorem Enumeration.isEmpty_enumerators_undescribed (e : Enumeration) :
    e.undescribed.enumerators.isEmpty = e.enumerators.isEmpty :=
  List.isEmpty_map

/-- A command without any description. -/
def Command.undescribed (c : Command) : Command :=
  { c with
    description := none
    direct := c.direct.map Parameter.undescribed
    parameters := c.parameters.map Parameter.undescribed
    result := c.result.map ValueType.undescribed }

/-- A suite without any description. -/
def Suite.undescribed (s : Suite) : Suite :=
  { s with
    description := none
    classes := s.classes.map Class.undescribed
    enumerations := s.enumerations.map Enumeration.undescribed
    commands := s.commands.map Command.undescribed
    extensions := s.extensions.map Extension.undescribed }

end Dictionary

/-! ## §3. Dictionaries. -/

open Dictionary

mutual

/-- A dictionary without any description. -/
def Dictionary.undescribed : Dictionary → Dictionary
  | ⟨suites, standardClasses, inclusions, usesFallback⟩ =>
    ⟨suites.map Suite.undescribed,
     standardClasses.map (fun entry => (entry.1, entry.2.undescribed)),
     undescribedInclusions inclusions, usesFallback⟩

/-- Included dictionaries without any description. -/
def undescribedInclusions : List (Inclusion Dictionary) → List (Inclusion Dictionary)
  | [] => []
  | ⟨href, basename, content⟩ :: rest =>
    ⟨href, basename, content.undescribed⟩ :: undescribedInclusions rest

end

theorem length_undescribedInclusions (inclusions : List (Inclusion Dictionary)) :
    (undescribedInclusions inclusions).length = inclusions.length := by
  induction inclusions with
  | nil => rfl
  | cons i rest ih =>
    obtain ⟨href, basename, content⟩ := i
    rw [undescribedInclusions, List.length_cons, List.length_cons, ih]

namespace Dictionary

/-! ## §4. What stays. -/

@[simp] theorem suites_undescribed (d : Dictionary) :
    d.undescribed.suites = d.suites.map Suite.undescribed := by
  cases d
  rfl

@[simp] theorem usesFallback_undescribed (d : Dictionary) :
    d.undescribed.usesFallback = d.usesFallback := by
  cases d
  rfl

@[simp] theorem length_inclusions_undescribed (d : Dictionary) :
    d.undescribed.inclusions.length = d.inclusions.length := by
  cases d
  exact length_undescribedInclusions _

@[simp] theorem classes_undescribed (d : Dictionary) :
    d.undescribed.classes = d.classes.map Class.undescribed := by
  rw [classes, classes, suites_undescribed, List.flatMap_map, List.map_flatMap]
  rfl

@[simp] theorem enumerations_undescribed (d : Dictionary) :
    d.undescribed.enumerations = d.enumerations.map Enumeration.undescribed := by
  rw [enumerations, enumerations, suites_undescribed, List.flatMap_map, List.map_flatMap]
  rfl

@[simp] theorem commands_undescribed (d : Dictionary) :
    d.undescribed.commands = d.commands.map Command.undescribed := by
  rw [commands, commands, suites_undescribed, List.flatMap_map, List.map_flatMap]
  rfl

end Dictionary

end ScriptingBindings
