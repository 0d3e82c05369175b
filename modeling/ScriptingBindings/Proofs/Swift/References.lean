/-
  ScriptingBindings.Proofs.Swift.References
  ──────────────────────────────────
  **WHAT A NAME REFERS TO.**

  While a file is planned its definitions become known in a fixed order: the
  enumerations that stand for the save options, the declared enumerations, the
  declared classes, and last the enumerations without values.  Each of them
  claims its own name, as it is written and in lower case, and the first to
  claim a name has it.  So a reference is settled by a search through the
  definitions:

      names.reference name = the type of the first that claims `name`,
                             else of the first that claims `lower name`,
                             else the protocol of a class of that name
-/
import ScriptingBindings.Proofs.Swift.Enumerations
import ScriptingBindings.Proofs.Swift.Prefixes

namespace ScriptingBindings.Swift

open Dictionary Text

/-! ## §1. Claims. -/

/-- A definition as others refer to it: its name and the type that stands for it. -/
structure Designation where
  name : String
  type : String
  deriving Repr, DecidableEq

/-- A definition claims its name as it is written and in lower case. -/
def Designation.claims (r : Designation) (key : String) : Bool :=
  r.name == key || lower r.name == key

theorem Designation.claims_self (r : Designation) : r.claims r.name = true := by
  simp [Designation.claims]

/-- The type of the first definition that claims a name. -/
def claimed? (rs : List Designation) (key : String) : Option String :=
  (rs.find? (·.claims key)).map Designation.type

@[simp] theorem claimed?_nil (key : String) : claimed? [] key = none := rfl

theorem claimed?_cons (r : Designation) (rs : List Designation) (key : String) :
    claimed? (r :: rs) key
      = (if r.claims key then some r.type else none).or (claimed? rs key) := by
  unfold claimed?
  rw [List.find?_cons]
  cases r.claims key <;> rfl

theorem claimed?_append (rs rs' : List Designation) (key : String) :
    claimed? (rs ++ rs') key = (claimed? rs key).or (claimed? rs' key) := by
  unfold claimed?
  rw [List.find?_append, Option.map_or]

/-- A definition claims its own name, unless another one has claimed it before. -/
theorem exists_find?_claims {rs : List Designation} {r : Designation} (h : r ∈ rs) :
    ∃ first, rs.find? (·.claims r.name) = some first := by
  rw [← Option.isSome_iff_exists, List.find?_isSome]
  exact ⟨r, h, r.claims_self⟩

/-- The definition that a name refers to: the first to claim the name, else its lower case
spelling. -/
def referent? (rs : List Designation) (name : String) : Option Designation :=
  (rs.find? (·.claims name)).or (rs.find? (·.claims (lower name)))

theorem referent?_of_find? {rs : List Designation} {name : String} {r : Designation}
    (h : rs.find? (·.claims name) = some r) : referent? rs name = some r := by
  rw [referent?, h, Option.some_or]

theorem exists_referent? {rs : List Designation} {r : Designation} (h : r ∈ rs) :
    ∃ first, referent? rs r.name = some first := by
  obtain ⟨first, hfirst⟩ := exists_find?_claims h
  exact ⟨first, referent?_of_find? hfirst⟩

theorem mem_of_referent? {rs : List Designation} {name : String} {r : Designation}
    (h : referent? rs name = some r) : r ∈ rs := by
  rcases Option.or_eq_some_iff.mp h with hfind | ⟨-, hfind⟩
  · exact List.mem_of_find?_eq_some hfind
  · exact List.mem_of_find?_eq_some hfind

/-- Make definitions known one after the other. -/
def Names.registerEach (n : Names) (rs : List Designation) : Names :=
  rs.foldl (fun n r => n.register r.name r.type) n

theorem get?_register (n : Names) (r : Designation) (key : String) :
    (n.register r.name r.type).types.get? key
      = (n.types.get? key).or (if r.claims key then some r.type else none) := by
  unfold Names.register Designation.claims
  dsimp only
  rw [OrderedMap.get?_putNew, OrderedMap.get?_putNew, Option.or_assoc]
  congr 1
  by_cases hname : r.name = key <;> by_cases hlower : lower r.name = key <;> simp [hname, hlower]

/-- **The first to claim a name has it**, unless it was taken before. -/
theorem get?_registerEach (n : Names) (rs : List Designation) (key : String) :
    (n.registerEach rs).types.get? key = (n.types.get? key).or (claimed? rs key) := by
  induction rs generalizing n with
  | nil => simp [Names.registerEach]
  | cons r rs ih =>
    show ((n.register r.name r.type).registerEach rs).types.get? key = _
    rw [ih, get?_register, claimed?_cons, Option.or_assoc]

theorem registerEach_append (n : Names) (rs rs' : List Designation) :
    n.registerEach (rs ++ rs') = (n.registerEach rs).registerEach rs' :=
  List.foldl_append

theorem empties_registerEach (n : Names) (rs : List Designation) :
    (n.registerEach rs).empties = n.empties := by
  induction rs generalizing n with
  | nil => rfl
  | cons r rs ih => exact ih (n.register r.name r.type)

/-! ## §2. Definitions with a type. -/

/-- An enumeration as others refer to it. -/
def Names.designateEnumeration (n : Names) (e : Enumeration) : Designation :=
  ⟨e.name, n.enumerationOf e⟩

/-- A class as others refer to it. -/
def Names.designateClass (n : Names) (c : Dictionary.Class) : Designation :=
  ⟨c.name, n.interfaceOf c⟩

@[simp] theorem Names.type_designateEnumeration (n : Names) (e : Enumeration) :
    (n.designateEnumeration e).type = n.enumerationOf e := by
  rw [Names.designateEnumeration]

@[simp] theorem Names.type_designateClass (n : Names) (c : Dictionary.Class) :
    (n.designateClass c).type = n.interfaceOf c := by
  rw [Names.designateClass]

/-- An enumeration without values as others refer to it. -/
def designateEmpty (name : String) : Designation :=
  ⟨name, emptyEnumerationType⟩

/-- The enumerations that stand for the fixed save options. -/
def Names.savers (n : Names) (es : List Enumeration) : List Designation :=
  (es.filter (fun e => n.isSaveOptions (n.enumerationOf e))).map n.designateEnumeration

/-- The names of the enumerations that are passed over because they have no values.  One whose
type was seen before is passed over as a duplicate instead. -/
def Names.emptyNames (n : Names) (seen : List String) : List Enumeration → List String
  | [] => []
  | e :: es =>
    if n.enumerationOf e ∈ seen then n.emptyNames seen es
    else if e.enumerators.isEmpty then e.name :: n.emptyNames seen es
    else n.emptyNames (n.enumerationOf e :: seen) es

theorem exists_enumeration_of_mem_emptyNames {n : Names} {seen : List String}
    {es : List Enumeration} {name : String} (h : name ∈ n.emptyNames seen es) :
    ∃ e ∈ es, e.name = name ∧ e.enumerators = [] := by
  induction es generalizing seen with
  | nil => exact absurd h List.not_mem_nil
  | cons e es ih =>
    have hrest : ∀ seen', name ∈ n.emptyNames seen' es →
        ∃ e' ∈ e :: es, e'.name = name ∧ e'.enumerators = [] := by
      intro seen' hmem
      obtain ⟨e', he', hname⟩ := ih hmem
      exact ⟨e', List.mem_cons_of_mem e he', hname⟩
    unfold Names.emptyNames at h
    split at h
    next => exact hrest _ h
    next =>
      split at h
      next hempty =>
        rcases List.mem_cons.mp h with heq | h
        · exact ⟨e, List.mem_cons_self, heq.symm, List.isEmpty_iff.mp hempty⟩
        · exact hrest _ h
      next => exact hrest _ h

/-- Every enumeration is passed over for a type that was seen, noted as one without values, or
has the type of one with values. -/
theorem enumerationOf_cases {n : Names} (seen : List String) {es : List Enumeration}
    {e : Enumeration} (he : e ∈ es) :
    n.enumerationOf e ∈ seen ∨ e.name ∈ n.emptyNames seen es ∨
      n.enumerationOf e ∈ (valued es).map n.enumerationOf := by
  induction es generalizing seen with
  | nil => exact absurd he List.not_mem_nil
  | cons e' es ih =>
    unfold Names.emptyNames
    by_cases hempty : e'.enumerators.isEmpty = true
    · rw [valued_cons_of_isEmpty hempty, if_pos hempty]
      split
      next hseen =>
        rcases List.mem_cons.mp he with rfl | he
        · exact .inl hseen
        · exact ih seen he
      next =>
        rcases List.mem_cons.mp he with rfl | he
        · exact .inr (.inl List.mem_cons_self)
        · exact (ih seen he).imp id (.imp (List.mem_cons_of_mem _) id)
    · rw [valued_cons hempty, if_neg hempty, List.map_cons, List.mem_cons]
      split
      next =>
        rcases List.mem_cons.mp he with rfl | he
        · exact .inr (.inr (.inl rfl))
        · exact (ih seen he).imp id (.imp id .inr)
      next =>
        rcases List.mem_cons.mp he with rfl | he
        · exact .inr (.inr (.inl rfl))
        · -- The type of the one that is chosen is seen from here on.
          rcases ih (n.enumerationOf e' :: seen) he with hseen | hrest
          · exact (List.mem_cons.mp hseen).symm.imp id (fun heq => .inr (.inl heq))
          · exact .inr (hrest.imp id .inr)

/-- The definitions that a file declares, enumerations first. -/
def Plan.designations (p : Plan) (n : Names) : List Designation :=
  p.enumerations.map n.designateEnumeration ++ p.classes.map n.designateClass

/-- The definitions of a dictionary that have a type of their own in a file, in the order in
which they become known. -/
def Plan.typed (p : Plan) (n : Names) (d : Dictionary) : List Designation :=
  n.savers d.enumerations ++ p.designations n

/-- The definitions of a dictionary that become known, in order. -/
def Plan.known (p : Plan) (n : Names) (d : Dictionary) (basename : String) : List Designation :=
  p.typed n d ++
    (n.emptyNames [(FixedNames.of basename).saveOptions] d.enumerations).map designateEmpty

/-- All enumerations without values have the same type. -/
theorem claimed?_map_designateEmpty (names : List String) (key : String) :
    claimed? (names.map designateEmpty) key
      = if names.any (fun name => (designateEmpty name).claims key)
        then some emptyEnumerationType else none := by
  induction names with
  | nil => rfl
  | cons name names ih =>
    rw [List.map_cons, claimed?_cons, ih, List.any_cons]
    cases (designateEmpty name).claims key <;> rfl

/-- So it only matters which names they have. -/
theorem claimed?_map_designateEmpty_congr {names names' : List String}
    (h : ∀ name, name ∈ names ↔ name ∈ names') (key : String) :
    claimed? (names.map designateEmpty) key = claimed? (names'.map designateEmpty) key := by
  have hany : names.any (fun name => (designateEmpty name).claims key)
      = names'.any (fun name => (designateEmpty name).claims key) := by
    rw [Bool.eq_iff_iff, List.any_eq_true, List.any_eq_true]
    simp only [h]
  rw [claimed?_map_designateEmpty, claimed?_map_designateEmpty, hany]

/-! ## §3. The definitions of a file. -/

namespace Names.IsFor

variable {n : Names} {basename : String}

theorem isSaveOptions_eq (h : n.IsFor basename) :
    n.isSaveOptions = (Names.start basename).isSaveOptions := by
  funext name
  unfold Names.isSaveOptions
  rw [h.fixed]
  rfl

/-- The type that is made for an enumeration is the one that it has at the start. -/
theorem enumerationOf_start (h : n.IsFor basename) {e : Enumeration} {type : String}
    (htype : n.enumerationName e.name = .ok type) :
    (Names.start basename).enumerationOf e = type := by
  rw [Names.enumerationOf, ← h.enumerationName_eq, htype]
  rfl

/-- The protocol that is made for a class is the one that it has at the start. -/
theorem interfaceOf_start (h : n.IsFor basename) {c : Dictionary.Class} {type : String}
    (htype : n.interfaceName c.name = .ok type) : (Names.start basename).interfaceOf c = type := by
  rw [Names.interfaceOf, ← h.interfaceName_eq, htype]
  rfl

theorem savers_eq (h : n.IsFor basename) : n.savers = (Names.start basename).savers := by
  funext es
  unfold Names.savers Names.designateEnumeration
  rw [h.isSaveOptions_eq, h.enumerationOf_eq]

theorem designations_eq (h : n.IsFor basename) (p : Plan) :
    p.designations n = p.designations (Names.start basename) := by
  unfold Plan.designations Names.designateEnumeration Names.designateClass
  rw [h.enumerationOf_eq, h.interfaceOf_eq]

theorem emptyNames_eq (h : n.IsFor basename) (seen : List String) (es : List Enumeration) :
    n.emptyNames seen es = (Names.start basename).emptyNames seen es := by
  induction es generalizing seen with
  | nil => rfl
  | cons e es ih => simp only [Names.emptyNames, h.enumerationOf_eq, ih]

/-- **The definitions that become known** depend on nothing that a file has learned. -/
theorem known_eq (h : n.IsFor basename) (p : Plan) (d : Dictionary) :
    p.known n d basename = p.known (Names.start basename) d basename := by
  rw [Plan.known, Plan.typed, h.savers_eq, h.designations_eq, h.emptyNames_eq]
  rfl

end Names.IsFor

@[simp] theorem Names.empties_noteSaveOptions (n : Names) (name type : String) :
    (n.noteSaveOptions name type).empties = n.empties := by
  unfold Names.noteSaveOptions
  split <;> rfl

/-! ## §4. What is known after planning. -/

section Choosing

variable {n : Names} {basename : String} {seen : List String}

/-- How the first enumeration is dealt with: it is passed over, noted as one without values, or
chosen. -/
theorem chooseEnumerations_cons_eq_ok {e : Enumeration} {es chosen : List Enumeration}
    {learned : Names} (h : (chooseEnumerations n seen (e :: es)).value = (learned, .ok chosen)) :
    ∃ type, n.enumerationName e.name = .ok type ∧
      ((type ∈ seen ∧ (chooseEnumerations (n.noteSaveOptions e.name type) seen es).value
          = (learned, .ok chosen)) ∨
        (type ∉ seen ∧ e.enumerators.isEmpty = true ∧ ∃ empties,
          (∀ name, name ∈ empties ↔ name = e.name ∨ name ∈ n.empties) ∧
          (chooseEnumerations { n.noteSaveOptions e.name type with empties := empties } seen es).value
            = (learned, .ok chosen)) ∨
        (type ∉ seen ∧ e.enumerators.isEmpty = false ∧ ∃ rest, chosen = e :: rest ∧
          (chooseEnumerations (n.noteSaveOptions e.name type) (type :: seen) es).value
            = (learned, .ok rest))) := by
  rw [chooseEnumerations_cons] at h
  split at h
  next => exact absurd (congrArg Prod.snd h) (by simp)
  next type hname =>
    refine ⟨type, hname, ?_⟩
    split at h
    next hs => exact .inl ⟨by simpa using hs, h⟩
    next hs =>
      have hs : type ∉ seen := by simpa using hs
      split at h
      next he =>
        refine .inr (.inl ⟨hs, he, ?_⟩)
        dsimp only at h
        split at h
        next hknown =>
          -- A name that is noted already is not noted again.
          refine ⟨(n.noteSaveOptions e.name type).empties, fun name => ?_, h⟩
          rw [Names.empties_noteSaveOptions]
          rw [Names.empties_noteSaveOptions, List.contains_iff_mem] at hknown
          exact ⟨.inr, fun hname => hname.elim (fun heq => heq ▸ hknown) id⟩
        next =>
          refine ⟨_, fun name => ?_, h⟩
          rw [Names.empties_noteSaveOptions, List.mem_append, List.mem_singleton]
          exact or_comm
      next he =>
        refine .inr (.inr ⟨hs, by simpa using he, ?_⟩)
        rw [Logged.value_bind] at h
        obtain ⟨hlearned, hchosen⟩ := Prod.mk.inj h
        obtain ⟨rest, hrest, rfl⟩ := map_eq_ok.mp hchosen
        exact ⟨rest, rfl, Prod.ext hlearned hrest⟩

theorem savers_cons (n : Names) (e : Enumeration) (es : List Enumeration) :
    n.savers (e :: es)
      = (if n.isSaveOptions (n.enumerationOf e) then [n.designateEnumeration e] else [])
        ++ n.savers es := by
  unfold Names.savers
  rw [List.filter_cons]
  split <;> rfl

theorem designateEnumeration_eq {n : Names} {e : Enumeration} {type : String}
    (h : n.enumerationOf e = type) : n.designateEnumeration e = ⟨e.name, type⟩ := by
  rw [Names.designateEnumeration, h]

theorem designateClass_eq {n : Names} {c : Dictionary.Class} {type : String}
    (h : n.interfaceOf c = type) : n.designateClass c = ⟨c.name, type⟩ := by
  rw [Names.designateClass, h]

/-- An enumeration that stands for the save options becomes known, any other does not. -/
theorem get?_noteSaveOptions {e : Enumeration} {type : String} (hn : n.IsFor basename)
    (hname : (Names.start basename).enumerationOf e = type) (key : String) :
    (n.noteSaveOptions e.name type).types.get? key
      = (n.types.get? key).or (claimed?
          (if (Names.start basename).isSaveOptions type
            then [(Names.start basename).designateEnumeration e] else []) key) := by
  unfold Names.noteSaveOptions
  rw [hn.isSaveOptions_eq]
  split
  next =>
    rw [claimed?_cons, claimed?_nil, Option.or_none, designateEnumeration_eq hname]
    exact get?_register n ⟨e.name, type⟩ key
  next => rw [claimed?_nil, Option.or_none]

/-- **What becomes known while enumerations are chosen**: those that stand for the save options,
and the names of those without values. -/
theorem learned_of_chooseEnumerations {es chosen : List Enumeration} {learned : Names}
    (hn : n.IsFor basename)
    (h : (chooseEnumerations n seen es).value = (learned, .ok chosen)) :
    (∀ key, learned.types.get? key
        = (n.types.get? key).or (claimed? ((Names.start basename).savers es) key)) ∧
      ∀ name, name ∈ learned.empties ↔
        name ∈ n.empties ∨ name ∈ (Names.start basename).emptyNames seen es := by
  -- The names learn on the way and the seen types grow, so both are free.
  induction es generalizing n seen chosen with
  | nil =>
    obtain ⟨rfl, -⟩ := Prod.mk.inj h
    exact ⟨fun key => by simp [Names.savers], fun name => by simp [Names.emptyNames]⟩
  | cons e es ih =>
    obtain ⟨type, htype, hcases⟩ := chooseEnumerations_cons_eq_ok h
    have hnoted : (n.noteSaveOptions e.name type).IsFor basename :=
      hn.of_learns (Names.Learns.refl.noteSaveOptions htype)
    have hempties := Names.empties_noteSaveOptions n e.name type
    have hname := hn.enumerationOf_start htype
    have hget : ∀ key, (n.types.get? key).or
        (claimed? ((Names.start basename).savers (e :: es)) key)
          = ((n.noteSaveOptions e.name type).types.get? key).or
              (claimed? ((Names.start basename).savers es) key) := by
      intro key
      rw [savers_cons, claimed?_append, get?_noteSaveOptions hn hname, hname, Option.or_assoc]
    simp only [hget]
    rcases hcases with ⟨hs, h⟩ | ⟨hs, he, empties, hmem, h⟩ | ⟨hs, he, rest, -, h⟩
    · rw [Names.emptyNames, hname, if_pos hs]
      obtain ⟨htypes, hnames⟩ := ih hnoted h
      exact ⟨htypes, hempties ▸ hnames⟩
    · rw [Names.emptyNames, hname, if_neg hs, if_pos he]
      have hnext : Names.IsFor { n.noteSaveOptions e.name type with empties := empties } basename :=
        ⟨hnoted.base, hnoted.fixed, hnoted.spelled⟩
      obtain ⟨htypes, hnames⟩ := ih hnext h
      refine ⟨htypes, fun name => ?_⟩
      rw [hnames, hmem, List.mem_cons, or_comm (a := name = e.name), or_assoc]
    · rw [Names.emptyNames, hname, if_neg hs, if_neg (by simp [he])]
      obtain ⟨htypes, hnames⟩ := ih hnoted h
      exact ⟨htypes, hempties ▸ hnames⟩

end Choosing

/-- A step that makes a definition known for each item makes all of them known. -/
theorem eq_registerEach_of_foldlM {α ε : Type} {n m : Names} {basename : String}
    {f : Names → α → Except ε Names} (designate : α → Designation) {as : List α}
    (hstep : ∀ k a k', k.IsFor basename → f k a = .ok k' →
      k'.IsFor basename ∧ k' = k.register (designate a).name (designate a).type)
    (hn : n.IsFor basename) (h : as.foldlM f n = .ok m) :
    m.IsFor basename ∧ m = n.registerEach (as.map designate) := by
  induction as generalizing n with
  | nil => exact ⟨Except.ok.inj h ▸ hn, (Except.ok.inj h).symm⟩
  | cons a as ih =>
    rw [List.foldlM_cons] at h
    obtain ⟨next, hnext, hrest⟩ := bind_eq_ok.mp h
    obtain ⟨hfor, rfl⟩ := hstep n a next hn hnext
    exact ih hfor hrest

/-- **What becomes known last**: the declared definitions, then the enumerations without
values. -/
theorem registerAll_eq_ok {n known : Names} {basename : String} {p : Plan} (hn : n.IsFor basename)
    (h : n.registerAll p = .ok known) :
    known = n.registerEach
      (p.designations (Names.start basename) ++ n.empties.map designateEmpty) := by
  rw [registerAll_eq] at h
  obtain ⟨afterEnumerations, he, h⟩ := bind_eq_ok.mp h
  obtain ⟨afterClasses, hc, h⟩ := bind_eq_ok.mp h
  obtain ⟨hfor, rfl⟩ := eq_registerEach_of_foldlM
    (Names.start basename).designateEnumeration (fun k e k' hk hstep => by
      obtain ⟨type, htype, hr⟩ := bind_eq_ok.mp hstep
      rw [← Except.ok.inj hr, designateEnumeration_eq (hk.enumerationOf_start htype)]
      exact ⟨hk.register e.name (forms_of_enumerationName htype).ne_empty, rfl⟩) hn he
  obtain ⟨-, rfl⟩ := eq_registerEach_of_foldlM
    (Names.start basename).designateClass (fun k c k' hk hstep => by
      obtain ⟨type, htype, hr⟩ := bind_eq_ok.mp hstep
      rw [← Except.ok.inj hr, designateClass_eq (hk.interfaceOf_start htype)]
      exact ⟨hk.register c.name (forms_of_interfaceName htype).ne_empty, rfl⟩) hfor hc
  -- Making definitions known changes no list of empty enumerations.
  rw [← registerEach_append] at h
  have hempties := empties_registerEach n (p.designations (Names.start basename))
  rw [Plan.designations] at hempties ⊢
  rw [← Except.ok.inj h, hempties, registerEach_append _ _ (n.empties.map designateEmpty)]
  exact (List.foldl_map (f := designateEmpty) (g := fun n r => Names.register n r.name r.type)).symm

section Planned

variable {d : Dictionary} {basename : String} {names : Names} {p : Plan}

/-- **The type under a name** is that of the first definition that claims it. -/
theorem get?_types_of_plan (h : (plan d basename).value = (names, .ok p)) (key : String) :
    names.types.get? key = claimed? (p.known names d basename) key := by
  obtain ⟨-, learned, hl, hr⟩ := choices_of_plan h
  have hfor : names.IsFor basename := (plan_eq_ok h).1
  have hstart := Names.IsFor.start basename
  obtain ⟨htypes, hempties⟩ := learned_of_chooseEnumerations hstart hl
  have hlearned : learned.IsFor basename := by
    have hlearns := Names.Learns.refl.chooseEnumerations (n := Names.start basename)
      [(FixedNames.of basename).saveOptions] d.enumerations
    rw [hl] at hlearns
    exact hstart.of_learns hlearns
  have hmem : ∀ name, name ∈ learned.empties ↔
      name ∈ (Names.start basename).emptyNames [(FixedNames.of basename).saveOptions]
        d.enumerations := by
    intro name
    rw [hempties name]
    exact or_iff_right List.not_mem_nil
  have hget := get?_registerEach learned
    (p.designations (Names.start basename) ++ learned.empties.map designateEmpty) key
  rw [← registerAll_eq_ok hlearned hr, htypes, claimed?_append,
    claimed?_map_designateEmpty_congr hmem] at hget
  -- The names made for definitions are those at the start.
  rw [hget, hfor.known_eq, Plan.known, Plan.typed, claimed?_append, claimed?_append,
    Option.or_assoc, Option.or_assoc]
  rfl

/-- **What a name refers to**, as a type. -/
theorem reference_eq (h : (plan d basename).value = (names, .ok p)) (name : String) :
    names.reference name
      = match referent? (p.known names d basename) name with
        | some r => .ok r.type
        | none => names.interfaceName name := by
  rw [Names.reference_eq, get?_types_of_plan h, get?_types_of_plan h, claimed?, claimed?,
    ← Option.map_or, ← referent?]
  cases referent? (p.known names d basename) name <;> rfl

end Planned

end ScriptingBindings.Swift
