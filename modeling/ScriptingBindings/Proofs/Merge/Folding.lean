/-
  ScriptingBindings.Proofs.Merge.Folding
  ──────────────────────────────────
  **FOLDING EXTENSIONS INTO CLASSES.**

  While the extensions of a suite are folded in, its list of classes grows and
  is searched at the same time.  It only grows at its end, and only by names
  that it does not have in any letter case, so the first match of a target
  never moves.  Two closed forms follow:

    * `map_name_folded` — the names are a union of the class names with the
      targets, where names count as equal in any letter case.
    * `getElem?_folded` — the class at a place is the class that was there,
      or none, with those extensions in order whose targets are found there.
-/
import ScriptingBindings.Proofs.Catalog.Keyed
import ScriptingBindings.Proofs.Merge.Union

namespace ScriptingBindings.Merge

open Dictionary

variable {c : Catalog} {classes : List Dictionary.Class}

/-! ## §1. Finding classes. -/

theorem findClass?_eq (classes : List Dictionary.Class) (name : String) :
    findClass? classes name
      = (classes.map Dictionary.Class.name).findIdx?
          (fun n => Text.lower n == Text.lower name) := by
  rw [List.findIdx?_map]
  rfl

/-- Classes are found by their names alone. -/
theorem findClass?_congr {others : List Dictionary.Class} (name : String)
    (h : classes.map Dictionary.Class.name = others.map Dictionary.Class.name) :
    findClass? classes name = findClass? others name := by
  rw [findClass?_eq, findClass?_eq, h]

/-- A match is a place of the list. -/
theorem lt_length_of_findClass? {name : String} {i : Nat} (h : findClass? classes name = some i) :
    i < classes.length := by
  simp only [findClass?, List.findIdx?_eq_some_iff_getElem] at h
  exact h.choose

/-- What is added at the end changes no match. -/
theorem findClass?_append_of_some {name : String} {i : Nat} (more : List Dictionary.Class)
    (h : findClass? classes name = some i) : findClass? (classes ++ more) name = some i := by
  simp only [findClass?] at h ⊢
  rw [List.findIdx?_append, h]
  rfl

/-! ## §2. One extension. -/

/-- The class of an extension that no class of its suite matches: the standard class of
exactly that name with the extension's members, or a class of these members alone. -/
def created (c : Catalog) (e : Extension) : Dictionary.Class :=
  match c.classes.get? e.target with
  | some standard => extend standard e false
  | none => ofExtension e

/-- What stands at a place after an extension that belongs there. -/
def grow (c : Catalog) : Option Dictionary.Class → Extension → Dictionary.Class
  | some cls, e => extend cls e
  | none, e => created c e

theorem name_created (hc : c.classes.Keyed Dictionary.Class.name) (e : Extension) :
    (created c e).name = e.target := by
  unfold created
  split
  next standard h =>
    show standard.name = e.target
    exact hc.name_of_get? h
  next => rfl

/-- **What one extension does**: it extends the class that it matches or adds one. -/
theorem value_foldExtension (c : Catalog) (classes : List Dictionary.Class) (e : Extension) :
    (foldExtension c classes e).value
      = match findClass? classes e.target with
        | some i => classes.modify i (fun cls => extend cls e)
        | none => classes ++ [created c e] := by
  unfold foldExtension created
  cases findClass? classes e.target with
  | some i => rfl
  | none => cases c.classes.get? e.target <;> rfl

theorem map_name_modify (i : Nat) (e : Extension) :
    (classes.modify i (fun cls => extend cls e)).map Dictionary.Class.name
      = classes.map Dictionary.Class.name := by
  apply List.ext_getElem?
  intro j
  simp only [List.getElem?_map, List.getElem?_modify]
  cases classes[j]? with
  | none => rfl
  | some cls => by_cases h : i = j <;> simp [h, extend]

/-- The names after one extension. -/
theorem map_name_foldExtension (hc : c.classes.Keyed Dictionary.Class.name) (e : Extension) :
    (foldExtension c classes e).value.map Dictionary.Class.name
      = unionBy Text.lower (classes.map Dictionary.Class.name) [e.target] := by
  rw [value_foldExtension, unionBy_cons, unionBy_nil]
  cases h : findClass? classes e.target with
  | some i =>
    have hany : (classes.map Dictionary.Class.name).any
        (fun n => Text.lower n == Text.lower e.target) = true := by
      rw [findClass?_eq] at h
      rw [← List.findIdx?_isSome]
      exact Option.isSome_iff_exists.mpr ⟨i, h⟩
    rw [if_pos hany, map_name_modify]
  | none =>
    have hany : ¬ (classes.map Dictionary.Class.name).any
        (fun n => Text.lower n == Text.lower e.target) = true := by
      rw [findClass?_eq] at h
      rw [← List.findIdx?_isSome, h]
      simp
    rw [if_neg hany, List.map_append, List.map_cons, List.map_nil, name_created hc]

/-- After an extension, its target is found where the extension went, and nothing else has
changed. -/
theorem getElem?_foldExtension (hc : c.classes.Keyed Dictionary.Class.name)
    (classes : List Dictionary.Class) (e : Extension) :
    ∃ j, findClass? (foldExtension c classes e).value e.target = some j ∧
      ∀ i, (foldExtension c classes e).value[i]?
        = if j = i then some (grow c classes[i]? e) else classes[i]? := by
  cases h : findClass? classes e.target with
  | some j =>
    -- The class that matches stays in its place under its name.
    have hj : j < classes.length := lt_length_of_findClass? h
    refine ⟨j, ?_, ?_⟩
    · rw [value_foldExtension, h, findClass?_congr e.target (map_name_modify j e), h]
    · intro i
      rw [value_foldExtension, h, List.getElem?_modify]
      by_cases hi : j = i
      · subst hi
        simp [List.getElem?_eq_getElem hj, grow]
      · simp [hi]
  | none =>
    -- The class that is added stands after all others and has the target for its name.
    refine ⟨classes.length, ?_, ?_⟩
    · rw [value_foldExtension, h]
      simp only [findClass?] at h ⊢
      rw [List.findIdx?_append, h]
      simp [List.findIdx?_cons, name_created hc]
    · intro i
      rw [value_foldExtension, h]
      rcases Nat.lt_trichotomy i classes.length with hi | hi | hi
      · rw [if_neg (by omega), List.getElem?_append_left hi]
      · subst hi
        rw [if_pos rfl, List.getElem?_append_right (Nat.le_refl _), Nat.sub_self,
          List.getElem?_eq_none (Nat.le_refl _)]
        rfl
      · rw [if_neg (by omega), List.getElem?_eq_none (by simp; omega),
          List.getElem?_eq_none (by omega)]

/-! ## §3. All extensions. -/

/-- Classes with all extensions folded in. -/
def folded (c : Catalog) (classes : List Dictionary.Class) (es : List Extension) :
    List Dictionary.Class :=
  es.foldl (fun classes e => (foldExtension c classes e).value) classes

theorem folded_cons (classes : List Dictionary.Class) (e : Extension) (es : List Extension) :
    folded c classes (e :: es) = folded c (foldExtension c classes e).value es := rfl

/-- **The names after all extensions.** -/
theorem map_name_folded (hc : c.classes.Keyed Dictionary.Class.name) (es : List Extension) :
    (folded c classes es).map Dictionary.Class.name
      = unionBy Text.lower (classes.map Dictionary.Class.name) (es.map Extension.target) := by
  induction es generalizing classes with
  | nil => rfl
  | cons e es ih =>
    rw [folded_cons, ih, map_name_foldExtension hc, ← unionBy_append]
    rfl

/-- A match stays where it is. -/
theorem findClass?_folded_of_some (hc : c.classes.Keyed Dictionary.Class.name)
    (es : List Extension) {name : String} {i : Nat} (h : findClass? classes name = some i) :
    findClass? (folded c classes es) name = some i := by
  rw [findClass?_eq] at h ⊢
  rw [map_name_folded hc, unionBy_eq_append, List.findIdx?_append, h]
  rfl

/-- Every target is found in the end. -/
theorem exists_findClass?_folded (hc : c.classes.Keyed Dictionary.Class.name)
    (classes : List Dictionary.Class) {es : List Extension} {e : Extension} (he : e ∈ es) :
    ∃ i, findClass? (folded c classes es) e.target = some i := by
  induction es generalizing classes with
  | nil => exact absurd he (by simp)
  | cons first es ih =>
    rcases List.mem_cons.mp he with rfl | he
    · obtain ⟨j, hj, -⟩ := getElem?_foldExtension hc classes e
      exact ⟨j, findClass?_folded_of_some hc es hj⟩
    · exact ih (foldExtension c classes first).value he

/-- What stands at a place after the extensions that belong there. -/
def grown (c : Catalog) : Option Dictionary.Class → List Extension → Option Dictionary.Class :=
  List.foldl (fun start e => some (grow c start e))

/-- **The classes after all extensions**: each place has what was there, with those
extensions in order whose targets are found there. -/
theorem getElem?_folded (hc : c.classes.Keyed Dictionary.Class.name) (es : List Extension)
    (i : Nat) :
    (folded c classes es)[i]?
      = grown c classes[i]?
          (es.filter (fun e => findClass? (folded c classes es) e.target == some i)) := by
  induction es generalizing classes with
  | nil => rfl
  | cons e es ih =>
    obtain ⟨j, hj, hat⟩ := getElem?_foldExtension hc classes e
    -- Where the first extension went is where its target is found in the end.
    have hfound : findClass? (folded c classes (e :: es)) e.target = some j :=
      findClass?_folded_of_some hc es hj
    rw [List.filter_cons, hfound]
    by_cases hi : j = i
    · subst hi
      rw [if_pos (by simp), folded_cons, ih, hat, if_pos rfl]
      rfl
    · rw [if_neg (by simpa using hi), folded_cons, ih, hat, if_neg hi]

end ScriptingBindings.Merge
