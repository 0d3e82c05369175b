/-
  ScriptingBindings.Proofs.FirstOfEach
  ──────────────────────────────────
  **THE FIRST ITEM OF EACH KEY.**

  Wherever names may come twice the first one counts: members that are merged
  into a class, classes and enumerations that a file declares, cases, members
  and aliases.  Each of these loops keeps the keys that it has seen:

      firstOfEach key seen (a :: as)
        = firstOfEach key seen as                      if key a ∈ seen
        = a :: firstOfEach key (key a :: seen) as      otherwise

  Said without a loop: an item is kept where no item before it has its key.
-/
import Mathlib.Data.List.Infix

namespace ScriptingBindings

variable {α : Type} (key : α → String)

/-- The first item of each key that was not seen before. -/
def firstOfEach (seen : List String) (as : List α) : List α :=
  (as.filter (fun a => !seen.contains (key a))).eraseDupsBy (fun a b => key a == key b)

/-! ## §1. Step by step. -/

@[simp] theorem firstOfEach_nil (seen : List String) : firstOfEach key seen [] = [] := rfl

theorem firstOfEach_cons_of_mem {seen : List String} {a : α} (h : key a ∈ seen) (as : List α) :
    firstOfEach key seen (a :: as) = firstOfEach key seen as := by
  have hc : seen.contains (key a) = true := by simpa using h
  simp only [firstOfEach, List.filter_cons, hc, Bool.not_true, Bool.false_eq_true, if_false]

theorem firstOfEach_cons_of_not_mem {seen : List String} {a : α} (h : key a ∉ seen)
    (as : List α) :
    firstOfEach key seen (a :: as) = a :: firstOfEach key (key a :: seen) as := by
  have hc : seen.contains (key a) = false := by simpa using h
  simp only [firstOfEach, List.filter_cons, hc, Bool.not_false, if_true, List.eraseDupsBy_cons,
    List.filter_filter]
  have hp : ∀ b : α, (decide ((key b == key a) = false) && !seen.contains (key b))
      = !(key a :: seen).contains (key b) := by
    intro b
    rw [List.contains_cons, Bool.not_or]
    cases key b == key a <;> rfl
  rw [List.filter_congr (fun b _ => hp b)]

/-- Only which keys were seen matters. -/
theorem firstOfEach_congr {seen seen' : List String} (h : ∀ k, k ∈ seen ↔ k ∈ seen')
    (as : List α) : firstOfEach key seen as = firstOfEach key seen' as := by
  have hc : ∀ a : α, (!seen.contains (key a)) = !seen'.contains (key a) := by
    intro a
    congr 1
    rw [Bool.eq_iff_iff, List.contains_iff_mem, List.contains_iff_mem]
    exact h (key a)
  unfold firstOfEach
  rw [List.filter_congr (fun a _ => hc a)]

/-- What is kept is kept again. -/
theorem firstOfEach_firstOfEach (seen : List String) (as : List α) :
    firstOfEach key seen (firstOfEach key seen as) = firstOfEach key seen as := by
  -- The seen keys are free in the induction, as every item that is kept adds its own.
  induction as generalizing seen with
  | nil => rfl
  | cons a as ih =>
    by_cases ha : key a ∈ seen
    · rw [firstOfEach_cons_of_mem key ha, ih]
    · rw [firstOfEach_cons_of_not_mem key ha, firstOfEach_cons_of_not_mem key ha, ih]

/-- Nothing is left of items that were all seen. -/
theorem firstOfEach_of_forall_mem {seen : List String} {as : List α}
    (h : ∀ a ∈ as, key a ∈ seen) : firstOfEach key seen as = [] := by
  have hnone : as.filter (fun a => !seen.contains (key a)) = [] := by
    rw [List.filter_eq_nil_iff]
    intro a ha
    simpa using h a ha
  rw [firstOfEach, hnone]
  rfl

theorem firstOfEach_of_nil (as : List α) :
    firstOfEach key [] as = as.eraseDupsBy (fun a b => key a == key b) := by
  have hall : as.filter (fun a => !([] : List String).contains (key a)) = as :=
    List.filter_eq_self.mpr (fun _ _ => rfl)
  rw [firstOfEach, hall]

/-! ## §2. What is kept. -/

theorem mem_of_mem_firstOfEach {seen : List String} {as : List α} {a : α}
    (h : a ∈ firstOfEach key seen as) : a ∈ as ∧ key a ∉ seen := by
  induction as generalizing seen with
  | nil => exact absurd h (by simp)
  | cons b as ih =>
    by_cases hb : key b ∈ seen
    · rw [firstOfEach_cons_of_mem key hb] at h
      exact ⟨List.mem_cons_of_mem b (ih h).1, (ih h).2⟩
    · rw [firstOfEach_cons_of_not_mem key hb] at h
      rcases List.mem_cons.mp h with rfl | h
      · exact ⟨List.mem_cons_self, hb⟩
      · exact ⟨List.mem_cons_of_mem b (ih h).1,
          fun hs => (ih h).2 (List.mem_cons_of_mem (key b) hs)⟩

/-- Every key that was not seen is kept. -/
theorem mem_map_firstOfEach {seen : List String} {as : List α} {k : String} :
    k ∈ (firstOfEach key seen as).map key ↔ k ∈ as.map key ∧ k ∉ seen := by
  induction as generalizing seen with
  | nil => simp
  | cons a as ih =>
    rw [List.map_cons, List.mem_cons]
    by_cases ha : key a ∈ seen
    · rw [firstOfEach_cons_of_mem key ha, ih]
      constructor
      · exact fun ⟨hk, hs⟩ => ⟨.inr hk, hs⟩
      · rintro ⟨rfl | hk, hs⟩
        · exact absurd ha hs
        · exact ⟨hk, hs⟩
    · rw [firstOfEach_cons_of_not_mem key ha, List.map_cons, List.mem_cons, ih, List.mem_cons,
        not_or]
      constructor
      · rintro (rfl | ⟨hk, -, hs⟩)
        · exact ⟨.inl rfl, ha⟩
        · exact ⟨.inr hk, hs⟩
      · rintro ⟨rfl | hk, hs⟩
        · exact .inl rfl
        · by_cases hka : k = key a
          · exact .inl hka
          · exact .inr ⟨hk, hka, hs⟩

/-- No key comes twice. -/
theorem nodup_map_firstOfEach (seen : List String) (as : List α) :
    ((firstOfEach key seen as).map key).Nodup := by
  induction as generalizing seen with
  | nil => exact List.nodup_nil
  | cons a as ih =>
    by_cases ha : key a ∈ seen
    · rw [firstOfEach_cons_of_mem key ha]
      exact ih seen
    · rw [firstOfEach_cons_of_not_mem key ha, List.map_cons]
      refine List.nodup_cons.mpr ⟨?_, ih (key a :: seen)⟩
      intro hmem
      obtain ⟨b, hb, hkey⟩ := List.mem_map.mp hmem
      exact (mem_of_mem_firstOfEach key hb).2 (hkey ▸ List.mem_cons_self)

/-- Items of different keys are all kept. -/
theorem firstOfEach_of_nodup {seen : List String} {as : List α} (hd : (as.map key).Nodup)
    (hseen : ∀ a ∈ as, key a ∉ seen) : firstOfEach key seen as = as := by
  induction as generalizing seen with
  | nil => rfl
  | cons a as ih =>
    obtain ⟨ha, hd⟩ := List.nodup_cons.mp hd
    obtain ⟨hnew, hseen⟩ := List.forall_mem_cons.mp hseen
    rw [firstOfEach_cons_of_not_mem key hnew, ih hd]
    intro b hb hmem
    rcases List.mem_cons.mp hmem with hkey | hmem
    · exact ha (hkey ▸ List.mem_map_of_mem hb)
    · exact hseen b hb hmem

/-- All items are kept exactly if no key comes twice. -/
theorem firstOfEach_eq_self_iff {as : List α} :
    firstOfEach key [] as = as ↔ (as.map key).Nodup := by
  constructor
  · intro h
    rw [← h]
    exact nodup_map_firstOfEach key [] as
  · intro hd
    exact firstOfEach_of_nodup key hd (fun _ _ => List.not_mem_nil)

/-- Where no key comes twice, an item is the only one of its key. -/
theorem filter_key_eq_singleton {as : List α} (hd : (as.map key).Nodup) {a : α} (ha : a ∈ as) :
    as.filter (fun b => key b == key a) = [a] := by
  induction as with
  | nil => exact absurd ha (by simp)
  | cons b as ih =>
    obtain ⟨hb, hd⟩ := List.nodup_cons.mp hd
    rcases List.mem_cons.mp ha with rfl | ha
    · have hnone : as.filter (fun b => key b == key a) = [] := by
        rw [List.filter_eq_nil_iff]
        intro b hmem hkey
        exact hb (eq_of_beq hkey ▸ List.mem_map_of_mem hmem)
      rw [List.filter_cons, if_pos (by simp), hnone]
    · have hne : ¬ (key b == key a) = true := by
        intro hkey
        exact hb (eq_of_beq hkey ▸ List.mem_map_of_mem ha)
      rw [List.filter_cons, if_neg hne]
      exact ih hd ha

/-- The item that is kept for a key is the first one of that key. -/
theorem find?_firstOfEach {seen : List String} {k : String} (hk : k ∉ seen) (as : List α) :
    (firstOfEach key seen as).find? (fun a => key a == k) = as.find? (fun a => key a == k) := by
  induction as generalizing seen with
  | nil => rfl
  | cons a as ih =>
    by_cases ha : key a ∈ seen
    · -- An item that is left out is not the one that is looked for.
      have hne : (key a == k) = false := by
        rw [beq_eq_false_iff_ne]
        exact fun he => hk (he ▸ ha)
      rw [firstOfEach_cons_of_mem key ha, List.find?_cons, hne]
      exact ih hk
    · rw [firstOfEach_cons_of_not_mem key ha, List.find?_cons, List.find?_cons]
      by_cases hak : key a = k
      · simp [hak]
      · have hne : (key a == k) = false := by rwa [beq_eq_false_iff_ne]
        rw [hne]
        refine ih (fun hmem => ?_)
        rcases List.mem_cons.mp hmem with he | hs
        · exact hak he.symm
        · exact hk hs

/-- An item is kept if it is the first of its key and the key was not seen. -/
theorem mem_firstOfEach_iff {seen : List String} {as : List α} {a : α} :
    a ∈ firstOfEach key seen as ↔
      key a ∉ seen ∧ as.find? (fun b => key b == key a) = some a := by
  constructor
  · intro h
    have hseen := (mem_of_mem_firstOfEach key h).2
    refine ⟨hseen, ?_⟩
    rw [← find?_firstOfEach key hseen, ← List.head?_filter,
      filter_key_eq_singleton key (nodup_map_firstOfEach key seen as) h]
    rfl
  · rintro ⟨hseen, hfirst⟩
    rw [← find?_firstOfEach key hseen] at hfirst
    exact List.mem_of_find?_eq_some hfirst

/-- An item is kept if none before it has its key. -/
theorem mem_firstOfEach_of_first {seen : List String} {as bs : List α} {a : α} (hseen : key a ∉ seen)
    (hfirst : ∀ b ∈ as, key b ≠ key a) : a ∈ firstOfEach key seen (as ++ a :: bs) := by
  refine (mem_firstOfEach_iff key).mpr ⟨hseen, List.find?_eq_some_iff_append.mpr ?_⟩
  exact ⟨beq_self_eq_true _, as, bs, rfl, fun b hb => by simpa using hfirst b hb⟩

/-- What is kept for a key stands where the key comes first. -/
theorem mem_of_mem_firstOfEach_append {seen : List String} {as bs : List α} {a b : α}
    (h : a ∈ firstOfEach key seen (as ++ bs)) (hb : b ∈ as) (hkey : key b = key a) : a ∈ as := by
  obtain ⟨-, hfind⟩ := (mem_firstOfEach_iff key).mp h
  obtain ⟨c, hc⟩ : ∃ c, as.find? (fun c => key c == key a) = some c :=
    Option.isSome_iff_exists.mp (List.find?_isSome.mpr ⟨b, hb, beq_iff_eq.mpr hkey⟩)
  rw [List.find?_append, hc, Option.some_or, Option.some.injEq] at hfind
  exact hfind ▸ List.mem_of_find?_eq_some hc

/-! ## §3. Items and those before them. -/

section Before

variable (passes : α → Bool) (seen : List String)

/-- Each item with the items before it. -/
def withBefore (as : List α) : List (List α × α) :=
  as.inits.zip as

theorem withBefore_cons (a : α) (as : List α) :
    withBefore (a :: as) = ([], a) :: (withBefore as).map fun x => (a :: x.1, x.2) := by
  rw [withBefore, List.inits_cons, List.zip_cons_cons, List.zip_map_left]
  rfl

/-- An item passes, its key was not seen, and no item before it that passes has its key. -/
def IsFirst (before : List α) (a : α) : Prop :=
  passes a = true ∧ key a ∉ seen ∧ ∀ b ∈ before, passes b = true → key b ≠ key a

instance (before : List α) (a : α) : Decidable (IsFirst key passes seen before a) :=
  inferInstanceAs (Decidable (_ ∧ _ ∧ _))

/-- The first item before others passes for a key that was seen. -/
theorem isFirst_cons (a : α) (before : List α) (b : α) :
    IsFirst key passes seen (a :: before) b ↔
      IsFirst key passes (if passes a then key a :: seen else seen) before b := by
  unfold IsFirst
  rw [List.forall_mem_cons]
  cases passes a with
  | false => simp
  | true =>
    simp only [if_true, true_imp_iff, List.mem_cons, not_or, ne_comm (a := key a)]
    tauto

/-- The items that are the first of their keys, in order. -/
def firsts (as : List α) : List α :=
  ((withBefore as).filter fun x => IsFirst key passes seen x.1 x.2).map Prod.snd

theorem firsts_cons (a : α) (as : List α) :
    firsts key passes seen (a :: as)
      = (if IsFirst key passes seen [] a then [a] else [])
        ++ firsts key passes (if passes a then key a :: seen else seen) as := by
  have hrest : (((withBefore as).map fun x => (a :: x.1, x.2)).filter fun x =>
      IsFirst key passes seen x.1 x.2).map Prod.snd
        = firsts key passes (if passes a then key a :: seen else seen) as := by
    rw [List.filter_map, List.map_map, firsts]
    simp only [Function.comp_def, isFirst_cons]
  rw [← hrest, firsts, withBefore_cons, List.filter_cons]
  by_cases h : IsFirst key passes seen [] a
  · rw [if_pos (by simpa using h), if_pos h]
    rfl
  · rw [if_neg (by simpa using h), if_neg h]
    rfl

/-- **What is kept, said without the loop.** -/
theorem firstOfEach_filter (as : List α) :
    firstOfEach key seen (as.filter passes) = firsts key passes seen as := by
  -- An item that passes is before all others: on the right its key counts as seen from there on.
  induction as generalizing seen with
  | nil => rfl
  | cons a as ih =>
    rw [firsts_cons, ← ih]
    cases hpasses : passes a with
    | false =>
      rw [List.filter_cons, if_neg (by simp [hpasses]), if_neg (by simp [IsFirst, hpasses]),
        if_neg (by simp)]
      rfl
    | true =>
      rw [List.filter_cons, if_pos hpasses, if_pos rfl]
      by_cases hseen : key a ∈ seen
      · -- A key that was seen before is not seen anew.
        rw [firstOfEach_cons_of_mem key hseen, if_neg (by simp [IsFirst, hseen]), List.nil_append]
        exact firstOfEach_congr key (fun k => by simp +contextual [hseen]) _
      · rw [firstOfEach_cons_of_not_mem key hseen, if_pos ⟨hpasses, hseen, by simp⟩]
        rfl

end Before
end ScriptingBindings
