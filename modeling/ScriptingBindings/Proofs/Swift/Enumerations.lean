/-
  ScriptingBindings.Proofs.Swift.Enumerations
  ──────────────────────────────────
  **THE ENUMERATIONS OF A FILE.**

  Of the enumerations that have values the first of each name is declared, and
  none that has the name of the fixed save options:

      p.enumerations = firstOfEach names.enumerationOf [save options] (valued es)

  As with classes, what becomes known on the way changes none of the names.
-/
import ScriptingBindings.Proofs.Swift.Plan

namespace ScriptingBindings.Swift

open Dictionary

/-- The name of an enumeration; nothing stands for a name that cannot be made. -/
def Names.enumerationOf (n : Names) (e : Enumeration) : String :=
  (n.enumerationName e.name).toOption.getD ""

/-- The enumerations that have values. -/
def valued (es : List Enumeration) : List Enumeration :=
  es.filter (fun e => !e.enumerators.isEmpty)

theorem valued_cons {e : Enumeration} (h : ¬ e.enumerators.isEmpty = true)
    (es : List Enumeration) : valued (e :: es) = e :: valued es := by
  rw [valued, List.filter_cons, if_pos (by simpa using h)]
  rfl

theorem valued_cons_of_isEmpty {e : Enumeration} (h : e.enumerators.isEmpty = true)
    (es : List Enumeration) : valued (e :: es) = valued es := by
  rw [valued, List.filter_cons, if_neg (by simp [h])]
  rfl

section Names

variable {n : Names} {basename : String}

/-- Known types do not change the names of enumerations. -/
theorem Names.IsFor.enumerationName_eq (h : n.IsFor basename) (name : String) :
    n.enumerationName name = (Names.start basename).enumerationName name := by
  rw [Names.enumerationName_eq, Names.enumerationName_eq, Names.prefixed_eq, Names.prefixed_eq]
  unfold Names.isFixed Names.isSaveOptions
  rw [h.base, h.fixed]
  rfl

theorem Names.IsFor.enumerationOf_eq (h : n.IsFor basename) :
    n.enumerationOf = (Names.start basename).enumerationOf := by
  funext e
  unfold Names.enumerationOf
  rw [h.enumerationName_eq]

end Names

section Step

variable {n : Names} {basename type : String} {seen : List String} {e : Enumeration}

/-- An enumeration whose name was seen, or that has no values, is passed over. -/
theorem chooseEnumerations_cons_of_skipped (hn : n.IsFor basename)
    (hname : n.enumerationName e.name = .ok type)
    (hskip : type ∈ seen ∨ e.enumerators.isEmpty = true) (es : List Enumeration) :
    ∃ next : Names, next.IsFor basename ∧
      (chooseEnumerations n seen (e :: es)).value.2 = (chooseEnumerations next seen es).value.2 := by
  have hnoted : (n.noteSaveOptions e.name type).IsFor basename :=
    hn.of_learns (Names.Learns.refl.noteSaveOptions hname)
  rw [chooseEnumerations_cons]
  simp only [hname]
  by_cases hs : type ∈ seen
  · rw [if_pos (by simpa using hs), Logged.value_bind]
    exact ⟨_, hnoted, rfl⟩
  · rw [if_neg (by simpa using hs), if_pos (hskip.resolve_left hs)]
    split
    next => exact ⟨_, hnoted, rfl⟩
    next =>
      -- That it has no values is noted, which changes neither the base nor the fixed names.
      rw [Logged.value_bind]
      refine ⟨_, ?_, rfl⟩
      exact ⟨hnoted.base, hnoted.fixed, hnoted.spelled⟩

/-- An enumeration with values whose name is new is chosen. -/
theorem chooseEnumerations_cons_of_chosen (hn : n.IsFor basename)
    (hname : n.enumerationName e.name = .ok type) (hs : type ∉ seen)
    (he : ¬ e.enumerators.isEmpty = true) (es : List Enumeration) :
    ∃ next : Names, next.IsFor basename ∧
      (chooseEnumerations n seen (e :: es)).value.2
        = (chooseEnumerations next (type :: seen) es).value.2.map (e :: ·) := by
  refine ⟨n.noteSaveOptions e.name type,
    hn.of_learns (Names.Learns.refl.noteSaveOptions hname), ?_⟩
  rw [chooseEnumerations_cons]
  simp only [hname]
  rw [if_neg (by simpa using hs), if_neg he, Logged.value_bind]
  rfl

end Step

/-- **The enumerations that are declared**: of those with values the first of each name, if all
names can be made. -/
theorem chooseEnumerations_eq_ok {n : Names} {basename : String} (hn : n.IsFor basename)
    {seen : List String} {es chosen : List Enumeration} :
    (chooseEnumerations n seen es).value.2 = .ok chosen ↔
      (∀ e ∈ es, (Names.start basename).enumerationName e.name
          = .ok ((Names.start basename).enumerationOf e)) ∧
        chosen = firstOfEach (Names.start basename).enumerationOf seen (valued es) := by
  -- The names learn of types on the way, so they are free; the seen names grow.
  induction es generalizing n seen chosen with
  | nil =>
    show Except.ok [] = Except.ok chosen ↔ _
    simp [valued, eq_comm]
  | cons e es ih =>
    rw [List.forall_mem_cons]
    cases hname : (Names.start basename).enumerationName e.name with
    | error failure =>
      rw [chooseEnumerations_cons]
      rw [hn.enumerationName_eq, hname]
      simp
    | ok type =>
      have hmade : n.enumerationName e.name = .ok type := by rw [hn.enumerationName_eq, hname]
      have hkey : (Names.start basename).enumerationOf e = type := by
        rw [Names.enumerationOf, hname]
        rfl
      by_cases he : e.enumerators.isEmpty = true
      · obtain ⟨next, hnext, hstep⟩ := chooseEnumerations_cons_of_skipped hn hmade
          (.inr he : type ∈ seen ∨ _) es
        rw [hstep, ih hnext, valued_cons_of_isEmpty he]
        simp [hkey]
      · rw [valued_cons he]
        by_cases hs : type ∈ seen
        · obtain ⟨next, hnext, hstep⟩ := chooseEnumerations_cons_of_skipped hn hmade (.inl hs) es
          rw [hstep, ih hnext, firstOfEach_cons_of_mem _ (hkey ▸ hs)]
          simp [hkey]
        · obtain ⟨next, hnext, hstep⟩ := chooseEnumerations_cons_of_chosen hn hmade hs he es
          rw [hstep, firstOfEach_cons_of_not_mem _ (hkey ▸ hs), hkey, map_eq_ok]
          simp only [ih hnext]
          constructor
          · rintro ⟨more, ⟨hall, rfl⟩, rfl⟩
            exact ⟨⟨trivial, hall⟩, rfl⟩
          · rintro ⟨⟨-, hall⟩, rfl⟩
            exact ⟨_, ⟨hall, rfl⟩, rfl⟩

/-- **The enumerations of a plan** are the first of each name that have values; the fixed save
options are none of them. -/
theorem enumerations_of_plan {d : Dictionary} {basename : String} {names : Names} {p : Plan}
    (h : (plan d basename).value = (names, .ok p)) :
    p.enumerations = firstOfEach names.enumerationOf [(FixedNames.of basename).saveOptions]
        (valued d.enumerations) ∧
      ∀ e ∈ d.enumerations, names.enumerationName e.name = .ok (names.enumerationOf e) := by
  obtain ⟨-, learned, hl, -⟩ := choices_of_plan h
  have hfor : names.IsFor basename := (plan_eq_ok h).1
  have hchosen : (chooseEnumerations (Names.start basename)
      [(FixedNames.of basename).saveOptions] d.enumerations).value.2 = .ok p.enumerations := by
    rw [hl]
  obtain ⟨hnames, henumerations⟩ :=
    (chooseEnumerations_eq_ok (Names.IsFor.start basename)).mp hchosen
  rw [hfor.enumerationOf_eq]
  refine ⟨henumerations, fun e he => ?_⟩
  rw [hfor.enumerationName_eq]
  exact hnames e he

end ScriptingBindings.Swift
