/-
  ScriptingBindings.Proofs.Dictionary.Rendering
  ──────────────────────────────────
  **SUITES AS DOCUMENTS.**

  The format of documents, said without the reader.  A document has one element
  for each suite, a suite one for each definition, a definition one for each
  member.  What is absent has no attribute, and attributes stand in any order.
  Two things are left to whoever writes a document:

  * elements of different kinds can be mixed, as long as those of one kind keep
    their order,
  * the type of a property, a parameter or a result is an element of its own or,
    unless it is a list, an attribute.

  A relation for each kind of definition says which elements render it.  Every
  list of suites has a document:

      ∃ root, RendersDocument suites root
-/
import Mathlib.Data.List.Forall2
import ScriptingBindings.Dictionary.Basic
import ScriptingBindings.Markup.Basic

namespace ScriptingBindings.Dictionary

open Markup (Name Attribute)

/-! ## §1. Lists woven into one. -/

/-- A list is woven from others: each step takes the first item of any one of them. -/
inductive Interleaves {α : Type} : List (List α) → List α → Prop where
  /-- Nothing is left of any list. -/
  | done {ls : List (List α)} (h : ∀ l ∈ ls, l = []) : Interleaves ls []
  /-- One list gives its first item. -/
  | next {ls : List (List α)} {k : Nat} {a : α} {rest as : List α}
      (hk : ls[k]? = some (a :: rest)) (h : Interleaves (ls.set k rest) as) :
      Interleaves ls (a :: as)

namespace Interleaves

variable {α : Type} {ls : List (List α)} {as : List α}

theorem nil_cons (h : Interleaves ls as) : Interleaves ([] :: ls) as := by
  induction h with
  | done h => exact .done (List.forall_mem_cons.mpr ⟨rfl, h⟩)
  | next hk _ ih =>
    -- The same list is one place further on.
    exact .next (by rwa [List.getElem?_cons_succ]) (by rwa [List.set_cons_succ])

/-- Lists can be woven one after the other. -/
theorem flatten (ls : List (List α)) : Interleaves ls ls.flatten := by
  induction ls with
  | nil => exact .done fun l hl => absurd hl List.not_mem_nil
  | cons l ls ih =>
    induction l with
    | nil => exact nil_cons ih
    | cons a l ih => exact .next List.getElem?_cons_zero ih

/-- What holds of the items of all lists holds of what is woven from them. -/
theorem forall_mem {P : α → Prop} (h : Interleaves ls as) (hls : ∀ l ∈ ls, ∀ a ∈ l, P a) :
    ∀ a ∈ as, P a := by
  induction h with
  | done => exact fun a ha => absurd ha List.not_mem_nil
  | @next ls k a rest as hk _ ih =>
    have hfirst := List.forall_mem_cons.mp (hls _ (List.mem_of_getElem? hk))
    refine List.forall_mem_cons.mpr ⟨hfirst.1, ih fun l hl => ?_⟩
    rcases List.mem_or_eq_of_mem_set hl with hl | rfl
    · exact hls l hl
    · exact hfirst.2

/-- Where only one of the lists has items of some kind, these are in the order of that list. -/
theorem filter_eq {p : α → Bool} {i : Nat} (h : Interleaves ls as) {l : List α}
    (hi : ls[i]? = some l) (hother : ∀ j m, j ≠ i → ls[j]? = some m → ∀ a ∈ m, p a = false) :
    as.filter p = l.filter p := by
  induction h generalizing l with
  | done h =>
    rw [h l (List.mem_of_getElem? hi)]
  | @next ls k a rest as hk _ ih =>
    obtain ⟨hlength, -⟩ := List.getElem?_eq_some_iff.mp hk
    -- The lists that give no item stay as they are.
    have hrest : ∀ j m, j ≠ i → (ls.set k rest)[j]? = some m → ∀ b ∈ m, p b = false := by
      intro j m hj hm b hb
      rw [List.getElem?_set] at hm
      split at hm
      next hkj =>
        subst hkj
        rw [Option.some.injEq] at hm
        exact hother k _ hj hk b (List.mem_cons_of_mem a (hm ▸ hb))
      next => exact hother j m hj hm b hb
    by_cases hki : k = i
    · subst hki
      rw [hk, Option.some.injEq] at hi
      rw [← hi, List.filter_cons, List.filter_cons, ih (List.getElem?_set_self hlength) hrest]
    · have ha : p a = false := hother k _ hki hk a List.mem_cons_self
      rw [List.filter_cons, if_neg (by simp [ha])]
      exact ih (by rwa [List.getElem?_set_ne hki]) hrest

end Interleaves

/-! ## §2. Elements and attributes. -/

/-- Attributes by name; one without a value is left out. -/
abbrev Entries := List (String × Option String)

/-- The attributes for some entries. -/
def attributesOf (entries : Entries) : List Attribute :=
  entries.filterMap fun entry => entry.2.map fun value => ⟨Name.plain entry.1, value⟩

/-- An attribute that says yes, or none. -/
def flag (b : Bool) : Option String :=
  if b then some "yes" else none

/-- An element of a name with these attributes, in any order, and with these children. -/
inductive IsWritten (base : String) (entries : Entries) (children : List Markup.Element) :
    Markup.Element → Prop where
  | mk {attributes : List Attribute} (h : attributes.Perm (attributesOf entries)) :
      IsWritten base entries children (.mk (.plain base) attributes children)

theorem exists_isWritten (base : String) (entries : Entries) (children : List Markup.Element) :
    ∃ e, IsWritten base entries children e :=
  ⟨_, .mk (List.Perm.refl _)⟩

/-! ## §3. Members. -/

/-- A type as the entry of an attribute or as an element. -/
inductive SpellsType (t : ValueType) : Entries → List Markup.Element → Prop where
  /-- As an attribute, which cannot say that the type is a list. -/
  | flat (h : t.isList = false) : SpellsType t [("type", some t.base)] []
  /-- As an element of its own. -/
  | nested {e : Markup.Element}
      (he : IsWritten "type" [("type", some t.base), ("list", flag t.isList)] [] e) :
      SpellsType t [] [e]

/-- Settings of the application's own under one name, if there are any. -/
inductive RendersCocoa (base : String) : Option String → List Markup.Element → Prop where
  | absent : RendersCocoa base none []
  | present {value : String} {e : Markup.Element}
      (he : IsWritten "cocoa" [(base, some value)] [] e) : RendersCocoa base (some value) [e]

/-- The attributes of a property, its type aside. -/
def Property.entries (p : Property) : Entries :=
  [("name", some p.name), ("code", some p.code), ("description", p.description),
   ("access", p.access), ("hidden", flag p.isHidden)]

/-- A property. -/
inductive RendersProperty (p : Property) : Markup.Element → Prop where
  | mk {entries : Entries} {types cocoas children : List Markup.Element} {e : Markup.Element}
      (ht : SpellsType p.type entries types) (hc : RendersCocoa "key" p.cocoaKey cocoas)
      (hw : Interleaves [types, cocoas] children)
      (he : IsWritten "property" (p.entries ++ entries) children e) : RendersProperty p e

/-- A kind of contained objects. -/
def RendersElement (x : Element) (e : Markup.Element) : Prop :=
  IsWritten "element" [("type", some x.type), ("key", x.cocoaKey)] [] e

/-- A command that is responded to. -/
def RendersResponse (command : String) (e : Markup.Element) : Prop :=
  IsWritten "responds-to" [("command", some command)] [] e

/-- The members of a class or of an extension. -/
inductive RendersMembers (ps : List Property) (xs : List Element) (commands : List String) :
    List Markup.Element → Prop where
  | mk {properties elements responses children : List Markup.Element}
      (hp : List.Forall₂ RendersProperty ps properties)
      (hx : List.Forall₂ RendersElement xs elements)
      (hr : List.Forall₂ RendersResponse commands responses)
      (hw : Interleaves [properties, elements, responses] children) :
      RendersMembers ps xs commands children

/-! ## §4. Definitions. -/

/-- A class. -/
inductive RendersClass (c : Class) : Markup.Element → Prop where
  | mk {children : List Markup.Element} {e : Markup.Element}
      (hm : RendersMembers c.properties c.elements c.respondsTo children)
      (he : IsWritten "class"
        [("name", some c.name), ("code", some c.code), ("plural", c.pluralName),
         ("description", c.description), ("inherits", c.inherits), ("hidden", flag c.isHidden)]
        children e) :
      RendersClass c e

/-- An extension of a class. -/
inductive RendersExtension (x : Extension) : Markup.Element → Prop where
  | mk {children : List Markup.Element} {e : Markup.Element}
      (hm : RendersMembers x.properties x.elements x.respondsTo children)
      (he : IsWritten "class-extension" [("extends", some x.target)] children e) :
      RendersExtension x e

/-- One value of an enumeration. -/
inductive RendersEnumerator (v : Enumerator) : Markup.Element → Prop where
  | mk {cocoas : List Markup.Element} {e : Markup.Element}
      (hc : RendersCocoa "string-value" v.stringValue cocoas)
      (he : IsWritten "enumerator"
        [("name", some v.name), ("code", some v.code), ("description", v.description)] cocoas e) :
      RendersEnumerator v e

/-- An enumeration. -/
inductive RendersEnumeration (x : Enumeration) : Markup.Element → Prop where
  | mk {values : List Markup.Element} {e : Markup.Element}
      (hv : List.Forall₂ RendersEnumerator x.enumerators values)
      (he : IsWritten "enumeration"
        [("name", some x.name), ("code", some x.code), ("description", x.description),
         ("hidden", flag x.isHidden)] values e) :
      RendersEnumeration x e

/-- The attributes of a parameter, its type aside. -/
def Parameter.entries (p : Parameter) : Entries :=
  [("name", p.name), ("code", some p.code), ("description", p.description),
   ("optional", flag p.isOptional)]

/-- A parameter in an element of some name. -/
inductive RendersParameter (base : String) (p : Parameter) : Markup.Element → Prop where
  | mk {entries : Entries} {types : List Markup.Element} {e : Markup.Element}
      (ht : SpellsType p.type entries types)
      (he : IsWritten base (p.entries ++ entries) types e) : RendersParameter base p e

/-- The result of a command. -/
inductive RendersResult (t : ValueType) : Markup.Element → Prop where
  | mk {entries : Entries} {types : List Markup.Element} {e : Markup.Element}
      (ht : SpellsType t entries types)
      (he : IsWritten "result" ([("description", t.description)] ++ entries) types e) :
      RendersResult t e

/-- A command. -/
inductive RendersCommand (c : Command) : Markup.Element → Prop where
  | mk {direct parameters result children : List Markup.Element} {e : Markup.Element}
      (hd : List.Forall₂ (RendersParameter "direct-parameter") c.direct.toList direct)
      (hp : List.Forall₂ (RendersParameter "parameter") c.parameters parameters)
      (hr : List.Forall₂ RendersResult c.result.toList result)
      (hw : Interleaves [direct, parameters, result] children)
      (he : IsWritten "command"
        [("name", some c.name), ("code", some c.code), ("description", c.description),
         ("hidden", flag c.isHidden)] children e) :
      RendersCommand c e

/-! ## §5. Suites and documents. -/

/-- A suite. -/
inductive RendersSuite (s : Suite) : Markup.Element → Prop where
  | mk {classes extensions enumerations commands children : List Markup.Element}
      {e : Markup.Element}
      (hc : List.Forall₂ RendersClass s.classes classes)
      (hx : List.Forall₂ RendersExtension s.extensions extensions)
      (hn : List.Forall₂ RendersEnumeration s.enumerations enumerations)
      (hm : List.Forall₂ RendersCommand s.commands commands)
      (hw : Interleaves [classes, extensions, enumerations, commands] children)
      (he : IsWritten "suite"
        [("name", some s.name), ("code", some s.code), ("description", s.description)]
        children e) :
      RendersSuite s e

/-- A document has an element for each suite under its root. -/
def RendersDocument (suites : List Suite) (root : Markup.Element) : Prop :=
  List.Forall₂ RendersSuite suites root.children

/-! ## §6. Everything can be rendered. -/

/-- Where each item has an element there is a list of elements. -/
theorem exists_forall₂ {α : Type} {R : α → Markup.Element → Prop} (h : ∀ a, ∃ e, R a e)
    (as : List α) : ∃ es, List.Forall₂ R as es := by
  choose f hf using h
  exact ⟨as.map f, by rw [List.forall₂_map_right_iff, List.forall₂_same]; exact fun a _ => hf a⟩

theorem exists_spellsType (t : ValueType) : ∃ entries types, SpellsType t entries types := by
  obtain ⟨e, he⟩ := exists_isWritten "type" [("type", some t.base), ("list", flag t.isList)] []
  exact ⟨[], [e], .nested he⟩

theorem exists_rendersCocoa (base : String) (value : Option String) :
    ∃ cocoas, RendersCocoa base value cocoas := by
  cases value with
  | none => exact ⟨[], .absent⟩
  | some value =>
    obtain ⟨e, he⟩ := exists_isWritten "cocoa" [(base, some value)] []
    exact ⟨[e], .present he⟩

theorem exists_rendersProperty (p : Property) : ∃ e, RendersProperty p e := by
  obtain ⟨entries, types, ht⟩ := exists_spellsType p.type
  obtain ⟨cocoas, hc⟩ := exists_rendersCocoa "key" p.cocoaKey
  obtain ⟨e, he⟩ := exists_isWritten "property" _ [types, cocoas].flatten
  exact ⟨e, .mk ht hc (.flatten _) he⟩

theorem exists_rendersMembers (ps : List Property) (xs : List Element) (commands : List String) :
    ∃ children, RendersMembers ps xs commands children := by
  obtain ⟨properties, hp⟩ := exists_forall₂ exists_rendersProperty ps
  obtain ⟨elements, hx⟩ := exists_forall₂ (fun x => exists_isWritten "element" _ []) xs
  obtain ⟨responses, hr⟩ := exists_forall₂ (fun r => exists_isWritten "responds-to" _ []) commands
  exact ⟨_, .mk hp hx hr (.flatten _)⟩

theorem exists_rendersClass (c : Class) : ∃ e, RendersClass c e := by
  obtain ⟨children, hm⟩ := exists_rendersMembers c.properties c.elements c.respondsTo
  obtain ⟨e, he⟩ := exists_isWritten "class" _ children
  exact ⟨e, .mk hm he⟩

theorem exists_rendersExtension (x : Extension) : ∃ e, RendersExtension x e := by
  obtain ⟨children, hm⟩ := exists_rendersMembers x.properties x.elements x.respondsTo
  obtain ⟨e, he⟩ := exists_isWritten "class-extension" _ children
  exact ⟨e, .mk hm he⟩

theorem exists_rendersEnumerator (v : Enumerator) : ∃ e, RendersEnumerator v e := by
  obtain ⟨cocoas, hc⟩ := exists_rendersCocoa "string-value" v.stringValue
  obtain ⟨e, he⟩ := exists_isWritten "enumerator" _ cocoas
  exact ⟨e, .mk hc he⟩

theorem exists_rendersEnumeration (x : Enumeration) : ∃ e, RendersEnumeration x e := by
  obtain ⟨values, hv⟩ := exists_forall₂ exists_rendersEnumerator x.enumerators
  obtain ⟨e, he⟩ := exists_isWritten "enumeration" _ values
  exact ⟨e, .mk hv he⟩

theorem exists_rendersParameter (base : String) (p : Parameter) :
    ∃ e, RendersParameter base p e := by
  obtain ⟨entries, types, ht⟩ := exists_spellsType p.type
  obtain ⟨e, he⟩ := exists_isWritten base _ types
  exact ⟨e, .mk ht he⟩

theorem exists_rendersResult (t : ValueType) : ∃ e, RendersResult t e := by
  obtain ⟨entries, types, ht⟩ := exists_spellsType t
  obtain ⟨e, he⟩ := exists_isWritten "result" _ types
  exact ⟨e, .mk ht he⟩

theorem exists_rendersCommand (c : Command) : ∃ e, RendersCommand c e := by
  obtain ⟨direct, hd⟩ := exists_forall₂ (exists_rendersParameter "direct-parameter") c.direct.toList
  obtain ⟨parameters, hp⟩ := exists_forall₂ (exists_rendersParameter "parameter") c.parameters
  obtain ⟨result, hr⟩ := exists_forall₂ exists_rendersResult c.result.toList
  obtain ⟨e, he⟩ := exists_isWritten "command" _ [direct, parameters, result].flatten
  exact ⟨e, .mk hd hp hr (.flatten _) he⟩

theorem exists_rendersSuite (s : Suite) : ∃ e, RendersSuite s e := by
  obtain ⟨classes, hc⟩ := exists_forall₂ exists_rendersClass s.classes
  obtain ⟨extensions, hx⟩ := exists_forall₂ exists_rendersExtension s.extensions
  obtain ⟨enumerations, hn⟩ := exists_forall₂ exists_rendersEnumeration s.enumerations
  obtain ⟨commands, hm⟩ := exists_forall₂ exists_rendersCommand s.commands
  obtain ⟨e, he⟩ := exists_isWritten "suite" _ [classes, extensions, enumerations, commands].flatten
  exact ⟨e, .mk hc hx hn hm (.flatten _) he⟩

/-- **Every list of suites has a document.** -/
theorem exists_rendersDocument (suites : List Suite) : ∃ root, RendersDocument suites root := by
  obtain ⟨es, hes⟩ := exists_forall₂ exists_rendersSuite suites
  exact ⟨.mk (.plain "dictionary") [] es, hes⟩

end ScriptingBindings.Dictionary
