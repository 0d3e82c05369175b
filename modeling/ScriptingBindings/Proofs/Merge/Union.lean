/-
  ScriptingBindings.Proofs.Merge.Union
  ──────────────────────────────────
  **UNIONS BY KEY, IN CLOSED FORM.**

  A union keeps its base as it stands, duplicates included, and appends the
  first item of each key that the base lacks:

      unionBy key base extra = base ++ firstOfEach key (base.map key) extra

  Main results:
    * `unionBy_append` — unions nest: a union with two lists in turn is the
      union with their concatenation.
    * `unionBy_absorb` — a union absorbs its own base, which is why merging a
      class with its standard class a second time changes nothing.
    * `find?_unionBy` — of two items of one key the earlier one counts, and
      no key is lost or invented.
-/
import ScriptingBindings.Merge
import ScriptingBindings.Proofs.FirstOfEach

namespace ScriptingBindings.Merge

section Unions

variable {α : Type} (key : α → String)

/-! ## §1. The closed form. -/

@[simp] theorem unionBy_nil (base : List α) : unionBy key base [] = base := rfl

theorem unionBy_cons (base extra : List α) (a : α) :
    unionBy key base (a :: extra)
      = unionBy key (if base.any (fun b => key b == key a) then base else base ++ [a]) extra := rfl

/-- Unions nest. -/
theorem unionBy_append (base first second : List α) :
    unionBy key base (first ++ second) = unionBy key (unionBy key base first) second :=
  List.foldl_append

theorem any_key_iff (base : List α) (k : String) :
    base.any (fun b => key b == k) = true ↔ k ∈ base.map key := by
  simp only [List.any_eq_true, beq_iff_eq, List.mem_map]

/-- **The closed form of a union.** -/
theorem unionBy_eq_append (base extra : List α) :
    unionBy key base extra = base ++ firstOfEach key (base.map key) extra := by
  -- The base is free in the induction: it grows by the items that are appended.
  induction extra generalizing base with
  | nil => simp
  | cons a extra ih =>
    rw [unionBy_cons]
    by_cases h : key a ∈ base.map key
    · rw [if_pos ((any_key_iff key base (key a)).mpr h), ih, firstOfEach_cons_of_mem key h]
    · have hseen : ∀ k, k ∈ (base ++ [a]).map key ↔ k ∈ key a :: base.map key := by
        intro k
        rw [List.map_append, List.mem_append, List.mem_cons, or_comm]
        simp
      rw [if_neg (mt (any_key_iff key base (key a)).mp h), ih, firstOfEach_cons_of_not_mem key h,
        firstOfEach_congr key hseen, List.append_assoc]
      rfl

/-! ## §2. Which keys a union has. -/

/-- Of several items of one key the earliest counts. -/
theorem find?_unionBy (base extra : List α) (k : String) :
    (unionBy key base extra).find? (fun a => key a == k)
      = (base ++ extra).find? (fun a => key a == k) := by
  rw [unionBy_eq_append, List.find?_append, List.find?_append]
  by_cases hk : k ∈ base.map key
  · -- The base already decides about this key.
    have hsome : (base.find? (fun a => key a == k)).isSome = true := by
      rw [List.isSome_find?]
      exact (any_key_iff key base k).mpr hk
    obtain ⟨a, ha⟩ := Option.isSome_iff_exists.mp hsome
    rw [ha]
    rfl
  · rw [find?_firstOfEach key hk]

/-! ## §3. What a union absorbs. -/

theorem unionBy_self (base : List α) : unionBy key base base = base := by
  rw [unionBy_eq_append, firstOfEach_of_forall_mem key (fun a => List.mem_map_of_mem),
    List.append_nil]

theorem unionBy_firstOfEach (base extra : List α) :
    unionBy key base (firstOfEach key (base.map key) extra) = unionBy key base extra := by
  rw [unionBy_eq_append, unionBy_eq_append, firstOfEach_firstOfEach]

/-- A union absorbs its own base. -/
theorem unionBy_absorb (base extra : List α) :
    unionBy key base (unionBy key base extra) = unionBy key base extra := by
  have h : unionBy key base (base ++ firstOfEach key (base.map key) extra)
      = unionBy key base extra := by
    rw [unionBy_append, unionBy_self, unionBy_firstOfEach]
  rwa [← unionBy_eq_append] at h

end Unions

/-! ## §4. Commands. -/

/-- Commands are united by keeping each at its first place. -/
theorem unionCommands_eq_eraseDups (base extra : List String) :
    unionCommands base extra = (base ++ extra).eraseDups := by
  show unionBy id [] (base ++ extra) = _
  rw [unionBy_eq_append, List.nil_append, List.map_nil, firstOfEach_of_nil]
  rfl

theorem unionCommands_append (base first second : List String) :
    unionCommands (unionCommands base first) second = unionCommands base (first ++ second) := by
  show unionBy id [] (unionBy id [] (base ++ first) ++ second)
      = unionBy id [] (base ++ (first ++ second))
  rw [unionBy_append, unionBy_absorb, ← unionBy_append, List.append_assoc]

theorem unionCommands_absorb (base extra : List String) :
    unionCommands base (unionCommands base extra) = unionCommands base extra := by
  simp only [unionCommands, unionBy_append]
  rw [unionBy_absorb]

end ScriptingBindings.Merge
