/-
  ScriptingBindings.Proofs.Swift.Plan
  ──────────────────────────────────
  **WHAT A FILE DECLARES.**

  The protocols of a file belong to the first class of each name of a
  protocol, taken over all suites:

      chooseClasses n [] classes = firstClasses n classes

  These names depend on the basename alone.  What becomes known while the
  declarations are chosen, the types of enumerations and of classes, changes
  none of them.
-/
import ScriptingBindings.Proofs.FirstOfEach
import ScriptingBindings.Proofs.Swift.Names
import ScriptingBindings.Swift.Unit

namespace ScriptingBindings.Swift

open Dictionary

/-! ## §1. Names while a file is planned. -/

/-- A type that is named after a definition, or that stands for an empty enumeration. -/
inductive Names.Makes (n : Names) : String → Prop where
  | enumeration {name type : String} (h : n.enumerationName name = .ok type) : n.Makes type
  | interface {name type : String} (h : n.interfaceName name = .ok type) : n.Makes type
  | empty : n.Makes emptyEnumerationType

/-- What names can come to: they know more types that they make themselves, and more empty
enumerations. -/
inductive Names.Learns (n : Names) : Names → Prop where
  | refl : n.Learns n
  | type {m : Names} (h : n.Learns m) (name : String) {type : String} (made : m.Makes type) :
      n.Learns (m.register name type)
  | empties {m : Names} (h : n.Learns m) (empties : List String) :
      n.Learns { m with empties := empties }

namespace Names.Learns

variable {a n : Names}

theorem noteSaveOptions (h : a.Learns n) {name type : String}
    (htype : n.enumerationName name = .ok type) : a.Learns (n.noteSaveOptions name type) := by
  unfold Names.noteSaveOptions
  split
  next => exact h.type name (.enumeration htype)
  next => exact h

theorem chooseEnumerations (h : a.Learns n) (seen : List String) (es : List Enumeration) :
    a.Learns (chooseEnumerations n seen es).value.1 := by
  -- Every branch goes on with names that know more types; the seen types do not matter.
  induction es generalizing n seen with
  | nil => exact h
  | cons e es ih =>
    rw [chooseEnumerations_cons]
    split
    next => exact h
    next type htype =>
      have hnoted : a.Learns (n.noteSaveOptions e.name type) := h.noteSaveOptions htype
      dsimp only
      split
      next => exact ih hnoted seen
      next =>
        split
        next =>
          split
          next => exact ih hnoted seen
          next => exact ih (hnoted.empties _) seen
        next => exact ih hnoted (type :: seen)

theorem registerEmpties (h : a.Learns n) (empties : List String) :
    a.Learns (empties.foldl (fun n name => n.register name emptyEnumerationType) n) := by
  induction empties generalizing n with
  | nil => exact h
  | cons name empties ih => exact ih (h.type name .empty)

theorem registerAll (h : a.Learns n) {p : Plan} {known : Names}
    (hk : n.registerAll p = .ok known) : a.Learns known := by
  rw [registerAll_eq] at hk
  obtain ⟨afterEnumerations, he, hk⟩ := bind_eq_ok.mp hk
  obtain ⟨afterClasses, hc, hk⟩ := bind_eq_ok.mp hk
  -- Enumerations, classes and empty enumerations become known in this order.
  have he : a.Learns afterEnumerations := by
    refine foldlM_invariant a.Learns ?_ h he
    intro m e m' hm hm'
    obtain ⟨type, htype, hr⟩ := bind_eq_ok.mp hm'
    exact Except.ok.inj hr ▸ hm.type e.name (.enumeration htype)
  have hc : a.Learns afterClasses := by
    refine foldlM_invariant a.Learns ?_ he hc
    intro m c m' hm hm'
    obtain ⟨type, htype, hr⟩ := bind_eq_ok.mp hm'
    exact Except.ok.inj hr ▸ hm.type c.name (.interface htype)
  rw [← Except.ok.inj hk]
  exact hc.registerEmpties afterClasses.empties

end Names.Learns

/-- **What becomes known while a file is planned**, whether or not there is a plan. -/
theorem learns_plan (d : Dictionary) (basename : String) :
    (Names.start basename).Learns (plan d basename).value.1 := by
  rw [plan_eq, Logged.value_bind]
  cases (chooseClasses (Names.start basename) [] d.classes).value with
  | error e => exact .refl
  | ok classes =>
    dsimp only
    rw [Logged.value_bind]
    have hchosen := Names.Learns.refl.chooseEnumerations (n := Names.start basename)
      [(FixedNames.of basename).saveOptions] d.enumerations
    generalize (chooseEnumerations (Names.start basename)
      [(FixedNames.of basename).saveOptions] d.enumerations).value = chosen at hchosen ⊢
    obtain ⟨learned, enumerations⟩ := chosen
    cases enumerations with
    | error e => exact hchosen
    | ok enumerations =>
      dsimp only
      cases hr : learned.registerAll ⟨classes, enumerations⟩ with
      | error e => exact hchosen
      | ok known => exact hchosen.registerAll hr

theorem makes_ne_empty {n : Names} {type : String} (h : n.Makes type) : type ≠ "" := by
  cases h with
  | enumeration h => exact (forms_of_enumerationName h).ne_empty
  | interface h => exact (forms_of_interfaceName h).ne_empty
  | empty => decide

/-- Names stay those for a basename. -/
theorem Names.IsFor.of_learns {n m : Names} {basename : String} (h : n.IsFor basename)
    (hm : n.Learns m) : m.IsFor basename := by
  induction hm with
  | refl => exact h
  | type _ name made ih => exact ih.register name (makes_ne_empty made)
  | empties _ empties ih => exact ⟨ih.base, ih.fixed, ih.spelled⟩

/-! ## §2. The first class of each name. -/

/-- The first class of each name of a protocol. -/
def firstClasses (n : Names) (classes : List Dictionary.Class) : List Dictionary.Class :=
  firstOfEach n.interfaceOf [] classes

/-- **The classes that are declared**: the first of each name, if all names can be made. -/
theorem chooseClasses_eq_ok {n : Names} {seen : List String}
    {classes chosen : List Dictionary.Class} :
    (chooseClasses n seen classes).value = .ok chosen ↔
      (∀ c ∈ classes, n.interfaceName c.name = .ok (n.interfaceOf c)) ∧
        chosen = firstOfEach n.interfaceOf seen classes := by
  induction classes generalizing seen chosen with
  | nil =>
    show Except.ok [] = Except.ok chosen ↔ _
    simp [eq_comm]
  | cons c classes ih =>
    rw [List.forall_mem_cons, chooseClasses_cons]
    cases hname : n.interfaceName c.name with
    | error e => simp
    | ok name =>
      have hkey : n.interfaceOf c = name := by
        rw [Names.interfaceOf, hname]
        rfl
      dsimp only
      by_cases hs : name ∈ seen
      · rw [if_pos (by simpa using hs), firstOfEach_cons_of_mem n.interfaceOf (hkey ▸ hs),
          Logged.value_bind, ih, hkey]
        simp
      · rw [if_neg (by simpa using hs), firstOfEach_cons_of_not_mem n.interfaceOf (hkey ▸ hs),
          Logged.value_bind, Logged.value_pure, map_eq_ok]
        simp only [ih, hkey]
        constructor
        · rintro ⟨more, ⟨hall, rfl⟩, rfl⟩
          exact ⟨⟨trivial, hall⟩, rfl⟩
        · rintro ⟨⟨-, hall⟩, hchosen⟩
          exact ⟨_, ⟨hall, rfl⟩, hchosen.symm⟩

section Chosen

variable {n : Names} {classes : List Dictionary.Class}

/-- Each class has a declared one of its name: the first of that name. -/
theorem exists_mem_firstClasses {c : Dictionary.Class} (h : c ∈ classes) :
    ∃ first ∈ firstClasses n classes,
      classes.find? (fun k => n.interfaceOf k == n.interfaceOf c) = some first := by
  have hsome : (classes.find? (fun k => n.interfaceOf k == n.interfaceOf c)).isSome = true := by
    rw [List.find?_isSome]
    exact ⟨c, h, by simp⟩
  obtain ⟨first, hfirst⟩ := Option.isSome_iff_exists.mp hsome
  refine ⟨first, ?_, hfirst⟩
  rw [← find?_firstOfEach n.interfaceOf (by simp : n.interfaceOf c ∉ [])] at hfirst
  exact List.mem_of_find?_eq_some hfirst

end Chosen

/-! ## §3. Plans. -/

/-- What a plan is made of: the classes and the enumerations that were chosen, and the names
that are known after them. -/
theorem choices_of_plan {d : Dictionary} {basename : String} {names : Names} {p : Plan}
    (h : (plan d basename).value = (names, .ok p)) :
    (chooseClasses (Names.start basename) [] d.classes).value = .ok p.classes ∧
      ∃ learned, (chooseEnumerations (Names.start basename)
          [(FixedNames.of basename).saveOptions] d.enumerations).value
            = (learned, .ok p.enumerations) ∧
        learned.registerAll p = .ok names := by
  rw [plan_eq, Logged.value_bind] at h
  cases hc : (chooseClasses (Names.start basename) [] d.classes).value with
  | error e =>
    rw [hc] at h
    simp at h
  | ok classes =>
    rw [hc] at h
    dsimp only at h
    rw [Logged.value_bind] at h
    generalize (chooseEnumerations (Names.start basename)
      [(FixedNames.of basename).saveOptions] d.enumerations).value = chosen at h ⊢
    obtain ⟨learned, enumerations⟩ := chosen
    cases enumerations with
    | error e => simp at h
    | ok enumerations =>
      dsimp only at h
      cases hr : learned.registerAll ⟨classes, enumerations⟩ with
      | error e =>
        rw [hr] at h
        simp at h
      | ok known =>
        rw [hr] at h
        injection h with hk hp
        injection hp with hp
        subst hk hp
        exact ⟨rfl, learned, rfl, hr⟩

/-- **A plan** takes the first class of each name, and its names are for the basename. -/
theorem plan_eq_ok {d : Dictionary} {basename : String} {names : Names} {p : Plan}
    (h : (plan d basename).value = (names, .ok p)) :
    names.IsFor basename ∧ p.classes = firstClasses names d.classes ∧
      ∀ c ∈ d.classes, names.interfaceName c.name = .ok (names.interfaceOf c) := by
  obtain ⟨hc, -⟩ := choices_of_plan h
  obtain ⟨hnames, hclasses⟩ := chooseClasses_eq_ok.mp hc
  -- The classes were chosen by the names at the start, which the known types keep.
  have hplanned := learns_plan d basename
  rw [h] at hplanned
  have hfor : names.IsFor basename := (Names.IsFor.start basename).of_learns hplanned
  refine ⟨hfor, ?_, fun c hc => ?_⟩
  · rw [firstClasses, hfor.interfaceOf_eq]
    exact hclasses
  · rw [hfor.interfaceName_eq, hfor.interfaceOf_eq]
    exact hnames c hc

end ScriptingBindings.Swift
