/-
  ScriptingBindings.Proofs.Dictionary.Search
  ──────────────────────────────────
  **WHAT SEARCHES FIND.**

  The reader searches everything below an element for the elements of a name.
  Where the children of an element are of a few kinds, each with a name of its
  own, and what stands inside them has other names, such a search finds the
  children of one kind, in order, however the kinds are mixed:

      Sorted kinds inner e  →  (base, xs) ∈ kinds  →  base ∉ inner  →  e.allNamed base = xs

  An attribute of an element has the value that was written for it.
-/
import Mathlib.Data.List.Nodup
import ScriptingBindings.Dictionary.Reader
import ScriptingBindings.Proofs.Dictionary.Rendering

namespace ScriptingBindings.Dictionary

open Markup (Name Attribute)

/-! ## §1. Attributes. -/

theorem mem_attributesOf_iff {entries : Entries} {base value : String} :
    ⟨Name.plain base, value⟩ ∈ attributesOf entries ↔ (base, some value) ∈ entries := by
  unfold attributesOf
  simp only [List.mem_filterMap, Option.map_eq_some_iff, Attribute.mk.injEq, Name.plain,
    Name.mk.injEq, true_and, Prod.exists]
  constructor
  · rintro ⟨_, _, hmem, _, rfl, rfl, rfl⟩
    exact hmem
  · exact fun hmem => ⟨_, _, hmem, _, rfl, rfl, rfl⟩

section Written

variable {base : String} {entries : Entries} {children : List Markup.Element} {e : Markup.Element}

theorem IsWritten.name_eq (h : IsWritten base entries children e) : e.name = .plain base := by
  cases h
  rfl

theorem IsWritten.children_eq (h : IsWritten base entries children e) : e.children = children := by
  cases h
  rfl

/-- An attribute of an element has the value of its entry, if it has one. -/
theorem IsWritten.value?_eq (h : IsWritten base entries children e)
    (hkeys : (entries.map Prod.fst).Nodup) {key : String} {value : Option String}
    (hmem : (key, value) ∈ entries) : e.value? key = value := by
  obtain @⟨attributes, hperm⟩ := h
  have hwritten : ∀ w, ⟨Name.plain key, w⟩ ∈ attributes ↔ (key, some w) ∈ entries := fun w =>
    hperm.mem_iff.trans mem_attributesOf_iff
  unfold Markup.Element.value?
  cases hfind : List.find? (fun a : Attribute => decide (a.name = Name.plain key)) attributes with
  | none =>
    -- An entry with a value would have been found.
    cases value with
    | none => exact congrArg (Option.map Attribute.value) hfind
    | some w =>
      exact absurd (List.find?_eq_none.mp hfind _ ((hwritten w).mpr hmem)) (by simp)
  | some a =>
    obtain ⟨name, w⟩ := a
    have hname : name = Name.plain key := by simpa using List.find?_some hfind
    subst hname
    have hentry := (hwritten w).mp (List.mem_of_find?_eq_some hfind)
    have hsame := List.inj_on_of_nodup_map hkeys hentry hmem rfl
    exact (congrArg (Option.map Attribute.value) hfind).trans (congrArg Prod.snd hsame)

theorem IsWritten.value_eq (h : IsWritten base entries children e)
    (hkeys : (entries.map Prod.fst).Nodup) {key value : String}
    (hmem : (key, some value) ∈ entries) : e.value key = value := by
  rw [Markup.Element.value, h.value?_eq hkeys hmem, Option.getD_some]

end Written

/-- A flag is read as it was written. -/
theorem flag_beq_yes (b : Bool) : (flag b == some "yes") = b := by
  cases b <;> rfl

theorem IsWritten.isMarkedHidden_eq {base : String} {entries : Entries}
    {children : List Markup.Element} {e : Markup.Element} (h : IsWritten base entries children e)
    (hkeys : (entries.map Prod.fst).Nodup) {b : Bool} (hmem : ("hidden", flag b) ∈ entries) :
    isMarkedHidden e = b := by
  rw [isMarkedHidden, h.value?_eq hkeys hmem, flag_beq_yes]

/-! ## §2. Searches. -/

/-- Every element below an element has one of some names. -/
def HoldsOnly (bases : List String) (e : Markup.Element) : Prop :=
  ∀ x ∈ e.descendants, ∃ base ∈ bases, x.name = .plain base

theorem HoldsOnly.mono {bases more : List String} {e : Markup.Element} (h : HoldsOnly bases e)
    (hsub : bases ⊆ more) : HoldsOnly more e := fun x hx =>
  (h x hx).imp fun _ hbase => ⟨hsub hbase.1, hbase.2⟩

theorem isNamed_eq {e : Markup.Element} {base : String} (h : e.name = .plain base)
    (other : String) : e.isNamed other = decide (base = other) := by
  rw [Markup.Element.isNamed, h]
  simp [Name.plain]

/-- A search for another name finds nothing. -/
theorem HoldsOnly.allNamed_eq_nil {bases : List String} {e : Markup.Element}
    (h : HoldsOnly bases e) {base : String} (hbase : base ∉ bases) : e.allNamed base = [] := by
  rw [Markup.Element.allNamed, List.filter_eq_nil_iff]
  intro x hx
  obtain ⟨other, hother, hname⟩ := h x hx
  rw [isNamed_eq hname]
  simpa using ne_of_mem_of_not_mem hother hbase

theorem firstNamed?_eq_head? (e : Markup.Element) (base : String) :
    e.firstNamed? base = (e.allNamed base).head? :=
  List.head?_filter.symm

theorem mem_listDescendants {x : Markup.Element} {es : List Markup.Element} :
    x ∈ Markup.Element.listDescendants es ↔ ∃ e ∈ es, x = e ∨ x ∈ e.descendants := by
  induction es with
  | nil => simp [Markup.Element.listDescendants]
  | cons e es ih =>
    rw [Markup.Element.listDescendants, List.mem_cons, List.mem_append, ih, List.exists_mem_cons_iff,
      or_assoc]

/-- A search below elements that hold nothing of the kind finds those of them that are. -/
theorem filter_listDescendants {base : String} {es : List Markup.Element}
    (h : ∀ e ∈ es, e.allNamed base = []) :
    (Markup.Element.listDescendants es).filter (Markup.Element.isNamed base)
      = es.filter (Markup.Element.isNamed base) := by
  induction es with
  | nil => rfl
  | cons e es ih =>
    obtain ⟨he, hes⟩ := List.forall_mem_cons.mp h
    rw [Markup.Element.allNamed] at he
    rw [Markup.Element.listDescendants, List.filter_cons, List.filter_cons, List.filter_append, he,
      List.nil_append, ih hes]

/-! ## §3. Kinds of children. -/

/-- An element of one name that holds only elements of the inner names. -/
structure IsKind (base : String) (inner : List String) (e : Markup.Element) : Prop where
  name : e.name = .plain base
  below : HoldsOnly inner e

theorem IsKind.mono {base : String} {inner more : List String} {e : Markup.Element}
    (h : IsKind base inner e) (hsub : inner ⊆ more) : IsKind base more e :=
  ⟨h.name, h.below.mono hsub⟩

/-- An element without children is of the kind of its name. -/
theorem IsWritten.isKind {base : String} {entries : Entries} {e : Markup.Element}
    (h : IsWritten base entries [] e) (inner : List String) : IsKind base inner e := by
  cases h
  exact ⟨rfl, fun x hx => absurd hx List.not_mem_nil⟩

/-- The children of an element, each list of them being of a kind of its own, are mixed. -/
structure Sorted (kinds : List (String × List Markup.Element)) (inner : List String)
    (e : Markup.Element) : Prop where
  ofKind : ∀ kind ∈ kinds, ∀ x ∈ kind.2, IsKind kind.1 inner x
  woven : Interleaves (kinds.map Prod.snd) e.children

namespace Sorted

variable {kinds : List (String × List Markup.Element)} {inner : List String} {e : Markup.Element}

theorem forall_children {P : Markup.Element → Prop} (h : Sorted kinds inner e)
    (hkinds : ∀ kind ∈ kinds, ∀ x ∈ kind.2, P x) : ∀ x ∈ e.children, P x := by
  refine h.woven.forall_mem fun l hl => ?_
  obtain ⟨kind, hkind, rfl⟩ := List.mem_map.mp hl
  exact hkinds kind hkind

variable {base : String} {xs : List Markup.Element}

/-- The children of one name are those of one kind, in order. -/
theorem childrenNamed_eq (h : Sorted kinds inner e) (hkinds : (kinds.map Prod.fst).Nodup)
    (hkind : (base, xs) ∈ kinds) : e.childrenNamed base = xs := by
  obtain ⟨i, hi⟩ := List.mem_iff_getElem?.mp hkind
  have hfilter : e.children.filter (Markup.Element.isNamed base)
      = xs.filter (Markup.Element.isNamed base) := by
    refine h.woven.filter_eq (List.getElem?_map .. ▸ congrArg (Option.map Prod.snd) hi) ?_
    intro j m hj hm x hx
    rw [List.getElem?_map, Option.map_eq_some_iff] at hm
    obtain ⟨other, hother, rfl⟩ := hm
    rw [isNamed_eq (h.ofKind other (List.mem_of_getElem? hother) x hx).name, decide_eq_false_iff_not]
    -- Another kind has another name.
    intro hname
    have hsame := List.inj_on_of_nodup_map hkinds (List.mem_of_getElem? hother) hkind hname
    subst hsame
    obtain ⟨hlength, -⟩ := List.getElem?_eq_some_iff.mp hother
    exact hj ((List.getElem?_inj hlength hkinds.of_map).mp (hother.trans hi.symm))
  rw [Markup.Element.childrenNamed, hfilter, List.filter_eq_self]
  exact fun x hx => by rw [isNamed_eq (h.ofKind (base, xs) hkind x hx).name, decide_eq_true_eq]

/-- **A search finds the children of one kind**, if it is not for one of the inner names. -/
theorem allNamed_eq (h : Sorted kinds inner e) (hkinds : (kinds.map Prod.fst).Nodup)
    (hkind : (base, xs) ∈ kinds) (hinner : base ∉ inner) : e.allNamed base = xs := by
  have hbelow : ∀ x ∈ e.children, x.allNamed base = [] :=
    h.forall_children fun k hk x hx => (h.ofKind k hk x hx).below.allNamed_eq_nil hinner
  rw [← h.childrenNamed_eq hkinds hkind]
  cases e
  exact filter_listDescendants hbelow

/-- Below the element stand the names of its children and the inner ones. -/
theorem holdsOnly (h : Sorted kinds inner e) : HoldsOnly (kinds.map Prod.fst ++ inner) e := by
  have hall : ∀ x ∈ e.children, (∃ base ∈ kinds.map Prod.fst, x.name = .plain base) ∧
      HoldsOnly inner x :=
    h.forall_children fun k hk x hx =>
      ⟨⟨k.1, List.mem_map_of_mem hk, (h.ofKind k hk x hx).name⟩, (h.ofKind k hk x hx).below⟩
  intro y hy
  cases e
  obtain ⟨x, hx, rfl | hyx⟩ := mem_listDescendants.mp hy
  · obtain ⟨base, hbase, hname⟩ := (hall y hx).1
    exact ⟨base, List.mem_append_left inner hbase, hname⟩
  · obtain ⟨base, hbase, hname⟩ := (hall x hx).2 y hyx
    exact ⟨base, List.mem_append_right _ hbase, hname⟩

end Sorted

/-! ## §4. Lists of elements. -/

section Lists

variable {α : Type} {R : α → Markup.Element → Prop} {as : List α} {es : List Markup.Element}

theorem map_eq_of_forall₂_of_mem (h : List.Forall₂ R as es) {read : Markup.Element → α}
    (hread : ∀ a ∈ as, ∀ e, R a e → read e = a) : es.map read = as := by
  induction h with
  | nil => rfl
  | @cons a e as es hae _ ih =>
    obtain ⟨ha, has⟩ := List.forall_mem_cons.mp hread
    rw [List.map_cons, ha e hae, ih has]

theorem forall_mem_of_forall₂ (h : List.Forall₂ R as es) {P : Markup.Element → Prop}
    (hP : ∀ a e, R a e → P e) : ∀ e ∈ es, P e := by
  induction h with
  | nil => exact fun e he => absurd he List.not_mem_nil
  | cons hae _ ih => exact List.forall_mem_cons.mpr ⟨hP _ _ hae, ih⟩

end Lists

end ScriptingBindings.Dictionary
