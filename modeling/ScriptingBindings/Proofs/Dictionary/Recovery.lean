/-
  ScriptingBindings.Proofs.Dictionary.Recovery
  ──────────────────────────────────
  **READING RECOVERS WHAT WAS RENDERED.**

  The reader finds almost all definitions by searching everything below an
  element.  In a document such a search finds the children of one kind and
  nothing else: what stands below each kind of element has names of its own
  (`HoldsOnly`), and none of these is searched for further up.  So for suites
  that a document can express

      RendersDocument suites root  →  (readSuites true root).value = suites

  however the elements are mixed and whichever way the types are spelled.
-/
import ScriptingBindings.Proofs.Dictionary.Search
import ScriptingBindings.Proofs.Dictionary.Visibility

namespace ScriptingBindings.Dictionary

/-! ## §1. What a document can express. -/

/-- A type is optional and described as what it belongs to. -/
structure ValueType.IsOf (owner : Option String) (t : ValueType) : Prop where
  optional : t.isOptional = true
  description : t.description = owner

instance (owner : Option String) (t : ValueType) : Decidable (t.IsOf owner) :=
  decidable_of_iff (t.isOptional = true ∧ t.description = owner)
    ⟨fun h => ⟨h.1, h.2⟩, fun h => ⟨h.optional, h.description⟩⟩

/-- The members of a class or of an extension. -/
structure AreExpressible (ps : List Property) (commands : List String) : Prop where
  properties : ∀ p ∈ ps, p.type.IsOf p.description
  commands : ∀ command ∈ commands, command ≠ ""

instance (ps : List Property) (commands : List String) : Decidable (AreExpressible ps commands) :=
  decidable_of_iff ((∀ p ∈ ps, p.type.IsOf p.description) ∧ ∀ command ∈ commands, command ≠ "")
    ⟨fun h => ⟨h.1, h.2⟩, fun h => ⟨h.properties, h.commands⟩⟩

/-- A command.  Its direct parameter is the one without a name; a result has no description
but that of its type. -/
structure Command.IsExpressible (c : Command) : Prop where
  direct : ∀ p ∈ c.direct.toList, p.name = none ∧ p.type.IsOf p.description
  parameters : ∀ p ∈ c.parameters, p.name.isSome = true ∧ p.type.IsOf p.description
  result : ∀ t ∈ c.result.toList, t.isOptional = true

instance (c : Command) : Decidable c.IsExpressible :=
  decidable_of_iff
    ((∀ p ∈ c.direct.toList, p.name = none ∧ p.type.IsOf p.description) ∧
      (∀ p ∈ c.parameters, p.name.isSome = true ∧ p.type.IsOf p.description) ∧
        ∀ t ∈ c.result.toList, t.isOptional = true)
    ⟨fun h => ⟨h.1, h.2.1, h.2.2⟩, fun h => ⟨h.direct, h.parameters, h.result⟩⟩

/-- A suite. -/
structure Suite.IsExpressible (s : Suite) : Prop where
  classes : ∀ c ∈ s.classes, AreExpressible c.properties c.respondsTo
  extensions : ∀ x ∈ s.extensions, AreExpressible x.properties x.respondsTo
  commands : ∀ c ∈ s.commands, c.IsExpressible

instance (s : Suite) : Decidable s.IsExpressible :=
  decidable_of_iff
    ((∀ c ∈ s.classes, AreExpressible c.properties c.respondsTo) ∧
      (∀ x ∈ s.extensions, AreExpressible x.properties x.respondsTo) ∧
        ∀ c ∈ s.commands, c.IsExpressible)
    ⟨fun h => ⟨h.1, h.2.1, h.2.2⟩, fun h => ⟨h.classes, h.extensions, h.commands⟩⟩

/-! ## §2. Types and settings. -/

section Types

variable {base : String} {entries more : Entries} {children types cocoas : List Markup.Element}
  {e : Markup.Element} {t : ValueType}

theorem SpellsType.isKind (h : SpellsType t entries types) : ∀ x ∈ types, IsKind "type" [] x := by
  cases h with
  | flat => exact fun x hx => absurd hx List.not_mem_nil
  | nested he => exact List.forall_mem_singleton.mpr (he.isKind [])

/-- An attribute for the type has a name of its own. -/
theorem SpellsType.nodup_keys (h : SpellsType t entries types) (more : Entries)
    (hkeys : ((more ++ [("type", none)]).map Prod.fst).Nodup) :
    ((more ++ entries).map Prod.fst).Nodup := by
  cases h with
  | flat => simpa using hkeys
  | nested =>
    rw [List.map_append, List.nodup_append] at hkeys
    simpa using hkeys.1

/-- **A type is read in either spelling**, with the description of its owner. -/
theorem ofElement_of_spellsType (h : SpellsType t entries types)
    (he : IsWritten base (more ++ entries) children e) (htypes : e.allNamed "type" = types)
    (hkeys : ((more ++ [("type", none)]).map Prod.fst).Nodup) {description : Option String}
    (hdescription : ("description", description) ∈ more) (ht : t.IsOf description) :
    ValueType.ofElement e = t := by
  have howner : e.value? "description" = t.description := by
    rw [ht.description]
    exact he.value?_eq (h.nodup_keys more hkeys) (List.mem_append_left entries hdescription)
  obtain ⟨base, isList, isOptional, _⟩ := t
  obtain rfl : isOptional = true := ht.optional
  unfold ValueType.ofElement
  rw [firstNamed?_eq_head?, htypes, howner]
  cases h with
  | flat hlist =>
    rw [he.value?_eq (SpellsType.nodup_keys (.flat hlist) more hkeys)
      (List.mem_append_right more List.mem_cons_self)]
    obtain rfl : isList = false := hlist
    rfl
  | nested hx =>
    dsimp only [List.head?_cons]
    rw [hx.value?_eq (by simp) List.mem_cons_self,
      hx.value?_eq (by simp) (List.mem_cons_of_mem _ List.mem_cons_self), flag_beq_yes]
    rfl

theorem RendersCocoa.isKind {value : Option String} (h : RendersCocoa base value cocoas) :
    ∀ x ∈ cocoas, IsKind "cocoa" [] x := by
  cases h with
  | absent => exact fun x hx => absurd hx List.not_mem_nil
  | present he => exact List.forall_mem_singleton.mpr (he.isKind [])

theorem cocoaValue?_of_rendersCocoa {value : Option String} (h : RendersCocoa base value cocoas)
    (hcocoas : e.allNamed "cocoa" = cocoas) : cocoaValue? e base = value := by
  rw [cocoaValue?, firstNamed?_eq_head?, hcocoas]
  cases h with
  | absent => rfl
  | present he => exact he.value?_eq (List.nodup_singleton _) List.mem_cons_self

end Types

/-! ## §3. Members. -/

section Members

variable {e : Markup.Element} {children : List Markup.Element}

/-- A property has an element for its type and one for its settings. -/
theorem sorted_of_property {t : ValueType} {value : Option String} {base : String}
    {entries more : Entries} {types cocoas : List Markup.Element}
    (ht : SpellsType t more types) (hc : RendersCocoa "key" value cocoas)
    (hw : Interleaves [types, cocoas] children) (he : IsWritten base entries children e) :
    Sorted [("type", types), ("cocoa", cocoas)] [] e := by
  refine ⟨?_, he.children_eq ▸ hw⟩
  simpa using ⟨ht.isKind, hc.isKind⟩

theorem RendersProperty.isKind {p : Property} (h : RendersProperty p e) :
    IsKind "property" ["type", "cocoa"] e := by
  obtain ⟨ht, hc, hw, he⟩ := h
  exact ⟨he.name_eq, (sorted_of_property ht hc hw he).holdsOnly⟩

theorem ofElement_of_rendersProperty {p : Property} (hp : p.type.IsOf p.description)
    (h : RendersProperty p e) : Property.ofElement e = p := by
  obtain ⟨ht, hc, hw, he⟩ := h
  have hs := sorted_of_property ht hc hw he
  have htypes := hs.allNamed_eq (by simp) List.mem_cons_self List.not_mem_nil
  have hcocoas := hs.allNamed_eq (by simp) (List.mem_cons_of_mem _ List.mem_cons_self)
    List.not_mem_nil
  have hkeys := ht.nodup_keys p.entries (by simp [Property.entries])
  have htype : ValueType.ofElement e = p.type :=
    ofElement_of_spellsType ht he htypes (by simp [Property.entries]) (by simp [Property.entries]) hp
  obtain ⟨name, code, type, description, access, cocoaKey, isHidden⟩ := p
  unfold Property.entries at he hkeys
  simp only [Property.ofElement, Property.mk.injEq]
  exact ⟨he.value_eq hkeys (by simp), he.value_eq hkeys (by simp), htype,
    he.value?_eq hkeys (by simp), he.value?_eq hkeys (by simp),
    cocoaValue?_of_rendersCocoa hc hcocoas, he.isMarkedHidden_eq hkeys (by simp)⟩

theorem ofElement_of_rendersElement {x : Element} (h : RendersElement x e) :
    Element.ofElement e = x := by
  unfold Element.ofElement
  rw [h.value_eq (by simp) List.mem_cons_self,
    h.value?_eq (by simp) (List.mem_cons_of_mem _ List.mem_cons_self)]

theorem value_of_rendersResponse {command : String} (h : RendersResponse command e) :
    e.value "command" = command :=
  h.value_eq (List.nodup_singleton _) List.mem_cons_self

variable {ps : List Property} {xs : List Element} {commands : List String}

/-- The members of a class or of an extension are sorted by their kinds. -/
theorem exists_sorted_of_rendersMembers (h : RendersMembers ps xs commands e.children) :
    ∃ properties elements responses,
      List.Forall₂ RendersProperty ps properties ∧ List.Forall₂ RendersElement xs elements ∧
        List.Forall₂ RendersResponse commands responses ∧
          Sorted [("property", properties), ("element", elements), ("responds-to", responses)]
            ["type", "cocoa"] e := by
  obtain ⟨hp, hx, hr, hw⟩ := h
  refine ⟨_, _, _, hp, hx, hr, ?_, hw⟩
  have hproperties := forall_mem_of_forall₂ hp fun _ _ h => h.isKind
  have helements := forall_mem_of_forall₂ hx fun _ _ h => h.isKind ["type", "cocoa"]
  have hresponses := forall_mem_of_forall₂ hr fun _ _ h => h.isKind ["type", "cocoa"]
  simpa using ⟨hproperties, helements, hresponses⟩

/-- The names of members and of what stands inside them. -/
def memberNames : List String := ["property", "element", "responds-to", "type", "cocoa"]

theorem holdsOnly_of_rendersMembers (h : RendersMembers ps xs commands e.children) :
    HoldsOnly memberNames e := by
  obtain ⟨_, _, _, -, -, -, hs⟩ := exists_sorted_of_rendersMembers h
  exact hs.holdsOnly

/-- **The members of a class or of an extension are read.** -/
theorem members_of_rendersMembers (hm : AreExpressible ps commands)
    (h : RendersMembers ps xs commands e.children) :
    propertiesBelow true e = ps ∧ elementsBelow e = xs ∧ respondsToBelow e = commands := by
  obtain ⟨properties, elements, responses, hp, hx, hr, hs⟩ := exists_sorted_of_rendersMembers h
  have hproperties : e.allNamed "property" = properties :=
    hs.allNamed_eq (by simp) (by simp) (by simp)
  have helements : e.allNamed "element" = elements :=
    hs.allNamed_eq (by simp) (by simp) (by simp)
  have hresponses : e.allNamed "responds-to" = responses :=
    hs.allNamed_eq (by simp) (by simp) (by simp)
  unfold propertiesBelow elementsBelow respondsToBelow
  rw [hproperties, helements, hresponses, filter_isKept_true]
  refine ⟨?_, ?_, ?_⟩
  · exact map_eq_of_forall₂_of_mem hp fun p hp e he =>
      ofElement_of_rendersProperty (hm.properties p hp) he
  · exact map_eq_of_forall₂_of_mem hx fun _ _ e he => ofElement_of_rendersElement he
  · rw [map_eq_of_forall₂_of_mem hr fun _ _ e he => value_of_rendersResponse he,
      List.filter_eq_self]
    intro command hcommand
    simpa using hm.commands command hcommand

end Members

/-! ## §4. Definitions. -/

section Definitions

variable {e : Markup.Element}

theorem RendersClass.isKind {c : Class} (h : RendersClass c e) :
    IsKind "class" memberNames e := by
  obtain ⟨hm, he⟩ := h
  exact ⟨he.name_eq, holdsOnly_of_rendersMembers (he.children_eq ▸ hm)⟩

theorem ofElement_of_rendersClass {c : Class} (hc : AreExpressible c.properties c.respondsTo)
    (h : RendersClass c e) : Class.ofElement true e = c := by
  obtain ⟨hm, he⟩ := h
  obtain ⟨hproperties, helements, hresponses⟩ :=
    members_of_rendersMembers hc (he.children_eq ▸ hm)
  simp only [Class.ofElement, hproperties, helements, hresponses]
  rw [he.value_eq (by simp) (by simp : ("name", some c.name) ∈ _),
    he.value_eq (by simp) (by simp : ("code", some c.code) ∈ _),
    he.value?_eq (by simp) (by simp : ("plural", c.pluralName) ∈ _),
    he.value?_eq (by simp) (by simp : ("description", c.description) ∈ _),
    he.value?_eq (by simp) (by simp : ("inherits", c.inherits) ∈ _),
    he.isMarkedHidden_eq (by simp) (by simp : ("hidden", flag c.isHidden) ∈ _)]

theorem RendersExtension.isKind {x : Extension} (h : RendersExtension x e) :
    IsKind "class-extension" memberNames e := by
  obtain ⟨hm, he⟩ := h
  exact ⟨he.name_eq, holdsOnly_of_rendersMembers (he.children_eq ▸ hm)⟩

theorem ofElement_of_rendersExtension {x : Extension}
    (hx : AreExpressible x.properties x.respondsTo) (h : RendersExtension x e) :
    Extension.ofElement true e = x := by
  obtain ⟨hm, he⟩ := h
  obtain ⟨hproperties, helements, hresponses⟩ :=
    members_of_rendersMembers hx (he.children_eq ▸ hm)
  simp only [Extension.ofElement, hproperties, helements, hresponses]
  rw [he.value_eq (by simp) (by simp : ("extends", some x.target) ∈ _)]

/-- A value of an enumeration holds nothing but settings. -/
theorem sorted_of_enumerator {v : Enumerator} {entries : Entries} {cocoas : List Markup.Element}
    (hc : RendersCocoa "string-value" v.stringValue cocoas)
    (he : IsWritten "enumerator" entries cocoas e) : Sorted [("cocoa", cocoas)] [] e := by
  refine ⟨?_, ?_⟩
  · simpa using hc.isKind
  · simpa [he.children_eq] using Interleaves.flatten [cocoas]

theorem RendersEnumerator.isKind {v : Enumerator} (h : RendersEnumerator v e) :
    IsKind "enumerator" ["cocoa"] e := by
  obtain ⟨hc, he⟩ := h
  exact ⟨he.name_eq, (sorted_of_enumerator hc he).holdsOnly⟩

theorem ofElement_of_rendersEnumerator {v : Enumerator} (h : RendersEnumerator v e) :
    Enumerator.ofElement e = v := by
  obtain ⟨hc, he⟩ := h
  have hcocoas := (sorted_of_enumerator hc he).allNamed_eq (by simp) List.mem_cons_self
    List.not_mem_nil
  unfold Enumerator.ofElement
  rw [he.value_eq (by simp) (by simp : ("name", some v.name) ∈ _),
    he.value_eq (by simp) (by simp : ("code", some v.code) ∈ _),
    he.value?_eq (by simp) (by simp : ("description", v.description) ∈ _),
    cocoaValue?_of_rendersCocoa hc hcocoas]

/-- An enumeration holds its values. -/
theorem sorted_of_enumeration {vs : List Enumerator} {entries : Entries}
    {values : List Markup.Element} (hv : List.Forall₂ RendersEnumerator vs values)
    (he : IsWritten "enumeration" entries values e) :
    Sorted [("enumerator", values)] ["cocoa"] e := by
  refine ⟨?_, ?_⟩
  · simpa using forall_mem_of_forall₂ hv fun _ _ h => h.isKind
  · simpa [he.children_eq] using Interleaves.flatten [values]

theorem RendersEnumeration.isKind {x : Enumeration} (h : RendersEnumeration x e) :
    IsKind "enumeration" ["enumerator", "cocoa"] e := by
  obtain ⟨hv, he⟩ := h
  exact ⟨he.name_eq, (sorted_of_enumeration hv he).holdsOnly⟩

theorem ofElement_of_rendersEnumeration {x : Enumeration} (h : RendersEnumeration x e) :
    Enumeration.ofElement e = x := by
  obtain ⟨hv, he⟩ := h
  have hvalues := (sorted_of_enumeration hv he).allNamed_eq (by simp) List.mem_cons_self (by simp)
  unfold Enumeration.ofElement
  rw [hvalues, map_eq_of_forall₂_of_mem hv fun _ _ e he => ofElement_of_rendersEnumerator he,
    he.value_eq (by simp) (by simp : ("name", some x.name) ∈ _),
    he.value_eq (by simp) (by simp : ("code", some x.code) ∈ _),
    he.value?_eq (by simp) (by simp : ("description", x.description) ∈ _),
    he.isMarkedHidden_eq (by simp) (by simp : ("hidden", flag x.isHidden) ∈ _)]

/-! ## §5. Commands. -/

/-- An element whose type is spelled out holds nothing else. -/
theorem sorted_of_typed {t : ValueType} {base : String} {entries more : Entries}
    {types : List Markup.Element} (ht : SpellsType t more types)
    (he : IsWritten base entries types e) : Sorted [("type", types)] [] e := by
  refine ⟨?_, ?_⟩
  · simpa using ht.isKind
  · simpa [he.children_eq] using Interleaves.flatten [types]

theorem RendersParameter.isKind {base : String} {p : Parameter} (h : RendersParameter base p e) :
    IsKind base ["type"] e := by
  obtain ⟨ht, he⟩ := h
  exact ⟨he.name_eq, (sorted_of_typed ht he).holdsOnly⟩

theorem ofElement_of_rendersParameter {base : String} {p : Parameter} {named : Bool}
    (hnamed : p.name.isSome = named) (hp : p.type.IsOf p.description)
    (h : RendersParameter base p e) : Parameter.ofElement named e = p := by
  obtain ⟨ht, he⟩ := h
  have htypes := (sorted_of_typed ht he).allNamed_eq (by simp) List.mem_cons_self List.not_mem_nil
  have hkeys := ht.nodup_keys p.entries (by simp [Parameter.entries])
  have htype : ValueType.ofElement e = p.type :=
    ofElement_of_spellsType ht he htypes (by simp [Parameter.entries])
      (by simp [Parameter.entries]) hp
  obtain ⟨name, code, type, description, isOptional⟩ := p
  unfold Parameter.entries at he hkeys
  have hname : (if named then some (e.value "name") else none) = name := by
    subst hnamed
    cases name with
    | none => rfl
    | some name => exact congrArg some (he.value_eq hkeys (by simp))
  simp only [Parameter.ofElement, Parameter.mk.injEq]
  refine ⟨hname, he.value_eq hkeys (by simp), htype, he.value?_eq hkeys (by simp), ?_⟩
  rw [he.value?_eq hkeys (by simp : ("optional", flag isOptional) ∈ _), flag_beq_yes]

theorem RendersResult.isKind {t : ValueType} (h : RendersResult t e) :
    IsKind "result" ["type"] e := by
  obtain ⟨ht, he⟩ := h
  exact ⟨he.name_eq, (sorted_of_typed ht he).holdsOnly⟩

theorem ofElement_of_rendersResult {t : ValueType} (hoptional : t.isOptional = true)
    (h : RendersResult t e) : ValueType.ofElement e = t := by
  obtain ⟨ht, he⟩ := h
  have htypes := (sorted_of_typed ht he).allNamed_eq (by simp) List.mem_cons_self List.not_mem_nil
  exact ofElement_of_spellsType ht he htypes (by simp) List.mem_cons_self ⟨hoptional, rfl⟩

/-- At most one element comes of at most one item. -/
theorem head?_map_of_forall₂ {α : Type} {R : α → Markup.Element → Prop} {a : Option α}
    {es : List Markup.Element} (h : List.Forall₂ R a.toList es) {read : Markup.Element → α}
    (hread : ∀ x ∈ a.toList, ∀ e, R x e → read e = x) : es.head?.map read = a := by
  rw [← List.head?_map, map_eq_of_forall₂_of_mem h hread]
  cases a <;> rfl

/-- The names of what stands inside a command. -/
def commandNames : List String := ["direct-parameter", "parameter", "result", "type"]

/-- A command holds its parameters and its result. -/
theorem sorted_of_command {c : Command} {entries : Entries}
    {direct parameters result children : List Markup.Element}
    (hd : List.Forall₂ (RendersParameter "direct-parameter") c.direct.toList direct)
    (hp : List.Forall₂ (RendersParameter "parameter") c.parameters parameters)
    (hr : List.Forall₂ RendersResult c.result.toList result)
    (hw : Interleaves [direct, parameters, result] children)
    (he : IsWritten "command" entries children e) :
    Sorted [("direct-parameter", direct), ("parameter", parameters), ("result", result)]
      ["type"] e := by
  refine ⟨?_, he.children_eq ▸ hw⟩
  have hdirect := forall_mem_of_forall₂ hd fun _ _ h => h.isKind
  have hparameters := forall_mem_of_forall₂ hp fun _ _ h => h.isKind
  have hresult := forall_mem_of_forall₂ hr fun _ _ h => h.isKind
  simpa using ⟨hdirect, hparameters, hresult⟩

theorem RendersCommand.isKind {c : Command} (h : RendersCommand c e) :
    IsKind "command" commandNames e := by
  obtain ⟨hd, hp, hr, hw, he⟩ := h
  exact ⟨he.name_eq, (sorted_of_command hd hp hr hw he).holdsOnly⟩

theorem ofElement_of_rendersCommand {c : Command} (hc : c.IsExpressible)
    (h : RendersCommand c e) : Command.ofElement e = c := by
  obtain @⟨direct, parameters, result, _, _, hd, hp, hr, hw, he⟩ := h
  have hs := sorted_of_command hd hp hr hw he
  have hdirect : e.allNamed "direct-parameter" = direct :=
    hs.allNamed_eq (by simp) (by simp) (by simp)
  have hparameters : e.allNamed "parameter" = parameters :=
    hs.allNamed_eq (by simp) (by simp) (by simp)
  have hresult : e.allNamed "result" = result :=
    hs.allNamed_eq (by simp) (by simp) (by simp)
  unfold Command.ofElement
  rw [firstNamed?_eq_head?, firstNamed?_eq_head?, hdirect, hparameters, hresult,
    head?_map_of_forall₂ hd fun p hp e he => ofElement_of_rendersParameter
      (by rw [(hc.direct p hp).1]; rfl) (hc.direct p hp).2 he,
    map_eq_of_forall₂_of_mem hp fun p hp e he => ofElement_of_rendersParameter
      (hc.parameters p hp).1 (hc.parameters p hp).2 he,
    head?_map_of_forall₂ hr fun t ht e he => ofElement_of_rendersResult (hc.result t ht) he,
    he.value_eq (by simp) (by simp : ("name", some c.name) ∈ _),
    he.value_eq (by simp) (by simp : ("code", some c.code) ∈ _),
    he.value?_eq (by simp) (by simp : ("description", c.description) ∈ _),
    he.isMarkedHidden_eq (by simp) (by simp : ("hidden", flag c.isHidden) ∈ _)]

end Definitions

/-! ## §6. Suites and documents. -/

/-- The names of what stands inside the definitions of a suite. -/
def definitionNames : List String := memberNames ++ ["enumerator"] ++ commandNames

/-- The names of definitions and of what stands inside them. -/
def suiteNames : List String :=
  ["class", "class-extension", "enumeration", "command"] ++ definitionNames

section Suites

variable {s : Suite} {e : Markup.Element}

/-- The definitions of a suite are sorted by their kinds. -/
theorem sorted_of_suite {entries : Entries}
    {classes extensions enumerations commands children : List Markup.Element}
    (hc : List.Forall₂ RendersClass s.classes classes)
    (hx : List.Forall₂ RendersExtension s.extensions extensions)
    (hn : List.Forall₂ RendersEnumeration s.enumerations enumerations)
    (hm : List.Forall₂ RendersCommand s.commands commands)
    (hw : Interleaves [classes, extensions, enumerations, commands] children)
    (he : IsWritten "suite" entries children e) :
    Sorted [("class", classes), ("class-extension", extensions), ("enumeration", enumerations),
      ("command", commands)] definitionNames e := by
  refine ⟨?_, he.children_eq ▸ hw⟩
  have hclasses := forall_mem_of_forall₂ hc fun _ _ h =>
    h.isKind.mono (by decide : memberNames ⊆ definitionNames)
  have hextensions := forall_mem_of_forall₂ hx fun _ _ h =>
    h.isKind.mono (by decide : memberNames ⊆ definitionNames)
  have henumerations := forall_mem_of_forall₂ hn fun _ _ h =>
    h.isKind.mono (by decide : ["enumerator", "cocoa"] ⊆ definitionNames)
  have hcommands := forall_mem_of_forall₂ hm fun _ _ h =>
    h.isKind.mono (by decide : commandNames ⊆ definitionNames)
  simpa using ⟨hclasses, hextensions, henumerations, hcommands⟩

theorem RendersSuite.name_eq (h : RendersSuite s e) : e.name = .plain "suite" := by
  obtain ⟨-, -, -, -, -, he⟩ := h
  exact he.name_eq

/-- No suite stands inside another one. -/
theorem RendersSuite.allNamed_suite (h : RendersSuite s e) : e.allNamed "suite" = [] := by
  obtain ⟨hc, hx, hn, hm, hw, he⟩ := h
  have hall : HoldsOnly suiteNames e := (sorted_of_suite hc hx hn hm hw he).holdsOnly
  exact hall.allNamed_eq_nil (by decide)

theorem ofElement_of_rendersSuite (hs : s.IsExpressible) (h : RendersSuite s e) :
    Suite.ofElement true e = s := by
  obtain @⟨classes, extensions, enumerations, commands, _, _, hc, hx, hn, hm, hw, he⟩ := h
  have hsorted := sorted_of_suite hc hx hn hm hw he
  have hclasses : e.allNamed "class" = classes :=
    hsorted.allNamed_eq (by simp) (by simp) (by decide)
  have hextensions : e.allNamed "class-extension" = extensions :=
    hsorted.allNamed_eq (by simp) (by simp) (by decide)
  have henumerations : e.allNamed "enumeration" = enumerations :=
    hsorted.allNamed_eq (by simp) (by simp) (by decide)
  have hcommands : e.childrenNamed "command" = commands :=
    hsorted.childrenNamed_eq (by simp) (by simp)
  -- Classes are never rendered as record types.
  have hall : HoldsOnly suiteNames e := hsorted.holdsOnly
  have hrecords : e.allNamed "record-type" = [] := hall.allNamed_eq_nil (by decide)
  unfold Suite.ofElement keptBelow
  simp only [filter_isKept_true, hclasses, hextensions, henumerations, hcommands, hrecords,
    List.map_nil, List.append_nil]
  rw [map_eq_of_forall₂_of_mem hc fun c hc e he => ofElement_of_rendersClass (hs.classes c hc) he,
    map_eq_of_forall₂_of_mem hx fun x hx e he =>
      ofElement_of_rendersExtension (hs.extensions x hx) he,
    map_eq_of_forall₂_of_mem hn fun _ _ e he => ofElement_of_rendersEnumeration he,
    map_eq_of_forall₂_of_mem hm fun c hc e he =>
      ofElement_of_rendersCommand (hs.commands c hc) he,
    he.value_eq (by simp) (by simp : ("name", some s.name) ∈ _),
    he.value_eq (by simp) (by simp : ("code", some s.code) ∈ _),
    he.value?_eq (by simp) (by simp : ("description", s.description) ∈ _)]

end Suites

/-- **Reading recovers the suites of every document**, and every list of suites has documents. -/
theorem readSuites_of_rendersDocument (suites : List Suite) (hs : ∀ s ∈ suites, s.IsExpressible) :
    (∃ root, RendersDocument suites root) ∧
      ∀ root, RendersDocument suites root → (readSuites true root).value = suites := by
  refine ⟨exists_rendersDocument suites, fun root h => ?_⟩
  have hnames : ∀ e ∈ root.children, e.name = .plain "suite" :=
    forall_mem_of_forall₂ h fun _ _ h => h.name_eq
  have hfound : root.allNamed "suite" = root.children := by
    cases root with
    | mk name attributes children =>
      have hbelow : ∀ e ∈ children, e.allNamed "suite" = [] :=
        forall_mem_of_forall₂ h fun _ _ h => h.allNamed_suite
      refine (filter_listDescendants hbelow).trans (List.filter_eq_self.mpr fun e he => ?_)
      rw [isNamed_eq (hnames e he), decide_eq_true_eq]
  show suitesOf true root = suites
  unfold suitesOf
  rw [hfound]
  exact map_eq_of_forall₂_of_mem h fun s hmem e he => ofElement_of_rendersSuite (hs s hmem) he

/-- A suite with definitions of every kind. -/
def radioSuite : Suite where
  name := "Radio Suite"
  classes :=
    [{ name := "station"
       properties :=
         [{ name := "name", type := { base := "text", description := some "The name." }
            description := some "The name.", access := some "r" },
          { name := "genres", type := { base := "text", isList := true }
            cocoaKey := some "genreNames", isHidden := true }]
       elements := [{ type := "track" }]
       respondsTo := ["tune"] }]
  extensions := [{ target := "application", elements := [{ type := "station" }] }]
  enumerations :=
    [{ name := "band"
       enumerators := [{ name := "short wave", code := "kBsw", stringValue := some "SW" }] }]
  commands :=
    [{ name := "tune", code := "RadiTune"
       direct := some { type := { base := "station" } }
       parameters := [{ name := some "to", type := { base := "real" }, isOptional := true }]
       result := some { base := "station" } }]

/-- A document for it in which the kinds are mixed and both spellings of types stand. -/
def radioDocument : Markup.Element :=
  let written (base : String) (attributes : List (String × String))
      (children : List Markup.Element) : Markup.Element :=
    .mk (.plain base) (attributes.map fun a => ⟨.plain a.1, a.2⟩) children
  written "dictionary" []
    [written "suite" [("name", "Radio Suite"), ("code", "")]
      [written "enumeration" [("name", "band"), ("code", "")]
        [written "enumerator" [("name", "short wave"), ("code", "kBsw")]
          [written "cocoa" [("string-value", "SW")] []]],
       written "command" [("name", "tune"), ("code", "RadiTune")]
        [written "parameter" [("name", "to"), ("code", ""), ("optional", "yes"), ("type", "real")] [],
         written "direct-parameter" [("code", ""), ("type", "station")] [],
         written "result" [] [written "type" [("type", "station")] []]],
       written "class" [("name", "station"), ("code", "")]
        [written "responds-to" [("command", "tune")] [],
         written "property"
          [("name", "name"), ("code", ""), ("description", "The name."), ("access", "r"),
           ("type", "text")] [],
         written "element" [("type", "track")] [],
         written "property" [("name", "genres"), ("code", ""), ("hidden", "yes")]
          [written "cocoa" [("key", "genreNames")] [],
           written "type" [("list", "yes"), ("type", "text")] []]],
       written "class-extension" [("extends", "application")]
        [written "element" [("type", "station")] []]]]

theorem rendersDocument_radioDocument : RendersDocument [radioSuite] radioDocument := by
  refine .cons (.mk (.cons ?station .nil) (.cons ?application .nil) (.cons ?band .nil)
    (.cons ?tune .nil)
    (.next (k := 2) rfl (.next (k := 3) rfl (.next (k := 0) rfl (.next (k := 1) rfl
      (.done (by simp)))))) (.mk (.refl _))) .nil
  case station =>
    refine .mk (.mk (.cons ?name (.cons ?genres .nil)) (.cons (.mk (.refl _)) .nil)
      (.cons (.mk (.refl _)) .nil)
      (.next (k := 2) rfl (.next (k := 0) rfl (.next (k := 1) rfl (.next (k := 0) rfl
        (.done (by simp))))))) (.mk (.refl _))
    case name => exact .mk (.flat rfl) .absent (.done (by simp)) (.mk (.refl _))
    case genres =>
      exact .mk (.nested (.mk (.swap ..))) (.present (.mk (.refl _)))
        (.next (k := 1) rfl (.next (k := 0) rfl (.done (by simp)))) (.mk (.refl _))
  case application =>
    exact .mk (.mk .nil (.cons (.mk (.refl _)) .nil) .nil
      (.next (k := 1) rfl (.done (by simp)))) (.mk (.refl _))
  case band =>
    exact .mk (.cons (.mk (.present (.mk (.refl _))) (.mk (.refl _))) .nil) (.mk (.refl _))
  case tune =>
    refine .mk (.cons ?direct .nil) (.cons ?frequency .nil) (.cons ?result .nil)
      (.next (k := 1) rfl (.next (k := 0) rfl (.next (k := 2) rfl (.done (by simp)))))
      (.mk (.refl _))
    case direct => exact .mk (.flat rfl) (.mk (.refl _))
    case frequency => exact .mk (.flat rfl) (.mk (.refl _))
    case result => exact .mk (.nested (.mk (.refl _))) (.mk (.refl _))

theorem readSuites_of_rendersDocument_radio :
    (∀ s ∈ [radioSuite], s.IsExpressible) ∧ RendersDocument [radioSuite] radioDocument ∧
      (readSuites true radioDocument).value = [radioSuite] := by
  have hs : ∀ s ∈ [radioSuite], s.IsExpressible := by decide
  exact ⟨hs, rendersDocument_radioDocument,
    (readSuites_of_rendersDocument [radioSuite] hs).2 _ rendersDocument_radioDocument⟩

end ScriptingBindings.Dictionary
