/-
  ScriptingBindings.Proofs.OrderedMap
  ──────────────────────────────────
  **ENTRIES OF MAPS.**

  What is found under a key is one of the entries, and a write adds no entry
  but its own.  A map is keyed by the names of its values if no key comes
  twice and each key is the name of its value; writing values under their
  names keeps a map keyed.

  Entries can be collected in a map of their own before they are written, and
  a key can be erased before or after:

      putAll m (putAll n entries) = putAll (putAll m n) entries

  Values that are all written under their names are indexed by them: a name
  stands where it first occurs, and its last value counts.
-/
import ScriptingBindings.OrderedMap
import ScriptingBindings.Proofs.FirstOfEach

namespace ScriptingBindings.OrderedMap

variable {α : Type} {m : OrderedMap α}

/-! ## §1. Entries. -/

theorem mem_of_get? {k : String} {v : α} (h : m.get? k = some v) : (k, v) ∈ m := by
  induction m with
  | nil => exact absurd h (by simp [get?])
  | cons entry rest ih =>
    obtain ⟨k', v'⟩ := entry
    simp only [get?] at h
    split at h
    next hk =>
      injection h with hv
      rw [← hk, ← hv]
      exact List.mem_cons_self
    next => exact List.mem_cons_of_mem _ (ih h)

theorem get?_eq_none {k : String} (h : k ∉ m.keys) : m.get? k = none := by
  cases hget : m.get? k with
  | none => rfl
  | some v => exact absurd (List.mem_map_of_mem (mem_of_get? hget)) h

theorem exists_get?_of_mem_keys {k : String} (h : k ∈ m.keys) : ∃ v, m.get? k = some v := by
  induction m with
  | nil => exact absurd h List.not_mem_nil
  | cons entry rest ih =>
    obtain ⟨k', v'⟩ := entry
    by_cases hk : k' = k
    · exact ⟨v', by rw [get?, if_pos hk]⟩
    · obtain ⟨v, hv⟩ := ih ((List.mem_cons.mp h).resolve_left (Ne.symm hk))
      exact ⟨v, by rw [get?, if_neg hk, hv]⟩

/-- What is found in a table is one of its entries, too. -/
theorem mem_of_lookup {k : String} {v : α} (h : m.lookup k = some v) : (k, v) ∈ m := by
  obtain ⟨before, after, rfl, -⟩ := List.lookup_eq_some_iff.mp h
  exact List.mem_append_right before List.mem_cons_self

/-- A write adds no entry but its own. -/
theorem mem_of_mem_put {k : String} {v : α} {entry : String × α} (h : entry ∈ m.put k v) :
    entry = (k, v) ∨ entry ∈ m := by
  induction m with
  | nil => exact .inl (by simpa [put] using h)
  | cons first rest ih =>
    obtain ⟨k', v'⟩ := first
    simp only [put] at h
    split at h
    next hk =>
      rcases List.mem_cons.mp h with h | h
      · exact .inl (h.trans (by rw [hk]))
      · exact .inr (List.mem_cons_of_mem _ h)
    next =>
      rcases List.mem_cons.mp h with h | h
      · exact .inr (h ▸ List.mem_cons_self)
      · exact (ih h).imp_right (List.mem_cons_of_mem _)

/-- Writing several entries adds no others. -/
theorem mem_of_mem_putAll {entries : OrderedMap α} {entry : String × α}
    (h : entry ∈ m.putAll entries) : entry ∈ m ∨ entry ∈ entries := by
  induction entries generalizing m with
  | nil => exact .inl h
  | cons first rest ih =>
    rcases ih h with h | h
    · rcases mem_of_mem_put h with h | h
      · exact .inr (h ▸ List.mem_cons_self)
      · exact .inl h
    · exact .inr (List.mem_cons_of_mem first h)

/-- A new key goes to the end. -/
theorem put_of_not_has {k : String} (h : m.has k = false) (v : α) : m.put k v = m ++ [(k, v)] := by
  induction m with
  | nil => rfl
  | cons first rest ih =>
    obtain ⟨k', v'⟩ := first
    by_cases hk : k' = k
    · simp [has, get?, hk] at h
    · have hrest : has rest k = false := by simpa [has, get?, hk] using h
      rw [put, if_neg hk, ih hrest]
      rfl

/-- A write leaves no key twice. -/
theorem nodup_keys_put (h : m.keys.Nodup) (k : String) (v : α) : (m.put k v).keys.Nodup := by
  rw [keys_put]
  split
  next => exact h
  next hk =>
    refine List.nodup_append.mpr ⟨h, by simp, ?_⟩
    intro a ha b hb he
    exact hk (List.mem_singleton.mp hb ▸ he ▸ ha)

theorem mem_of_mem_putNew {k : String} {v : α} {entry : String × α} (h : entry ∈ m.putNew k v) :
    entry = (k, v) ∨ entry ∈ m := by
  unfold putNew at h
  split at h
  next => exact .inr h
  next => exact (List.mem_append.mp h).symm.imp_left List.mem_singleton.mp

/-- What is found is found in the first part of a map that has the key. -/
theorem get?_append (m n : OrderedMap α) (key : String) :
    get? (m ++ n) key = (m.get? key).or (n.get? key) := by
  induction m with
  | nil => rfl
  | cons entry rest ih =>
    obtain ⟨k, v⟩ := entry
    by_cases hk : k = key <;> simp [get?, hk, ih]

/-- A key that is written only if it is absent keeps what stands under it. -/
theorem get?_putNew (m : OrderedMap α) (k key : String) (v : α) :
    (m.putNew k v).get? key = (m.get? key).or (if k = key then some v else none) := by
  unfold putNew
  split
  next hk =>
    -- The key is taken, so the write changes nothing, also for itself.
    by_cases h : k = key
    · obtain ⟨w, hw⟩ := Option.isSome_iff_exists.mp hk
      rw [← h, hw]
      rfl
    · rw [if_neg h, Option.or_none]
  next => rw [get?_append, get?, get?]

/-! ## §2. Keyed maps. -/

variable {name : α → String}

/-- No key comes twice, and each is the name of its value. -/
structure Keyed (name : α → String) (m : OrderedMap α) : Prop where
  distinct : m.keys.Nodup
  named : ∀ entry ∈ m, name entry.2 = entry.1

namespace Keyed

/-- The value of a key has that key for its name. -/
theorem name_of_get? (h : m.Keyed name) {k : String} {v : α} (hv : m.get? k = some v) :
    name v = k :=
  h.named _ (mem_of_get? hv)

/-- An entry is what its key stands for. -/
theorem get?_of_mem (h : m.Keyed name) {k : String} {v : α} (hv : (k, v) ∈ m) :
    m.get? k = some v := by
  have hd := h.distinct
  clear h
  induction m with
  | nil => exact absurd hv (by simp)
  | cons entry rest ih =>
    obtain ⟨k', v'⟩ := entry
    obtain ⟨hk, hrest⟩ := List.nodup_cons.mp hd
    rcases List.mem_cons.mp hv with hv | hv
    · injection hv with hk' hv'
      simp [get?, hk', hv']
    · have hne : k' ≠ k := by
        intro he
        exact hk (List.mem_map.mpr ⟨(k, v), hv, he.symm⟩)
      rw [get?, if_neg hne]
      exact ih hv hrest

theorem nil : Keyed name ([] : OrderedMap α) :=
  ⟨List.nodup_nil, by simp⟩

/-- Writing a value under its own name keeps a map keyed. -/
theorem put (h : m.Keyed name) (v : α) : (m.put (name v) v).Keyed name := by
  refine ⟨nodup_keys_put h.distinct (name v) v, ?_⟩
  · intro entry he
    rcases mem_of_mem_put he with he | he
    · rw [he]
    · exact h.named entry he

theorem putAll (h : m.Keyed name) (values : List α) :
    (m.putAll (values.map (fun v => (name v, v)))).Keyed name := by
  induction values generalizing m with
  | nil => exact h
  | cons v values ih => exact ih (h.put v)

end Keyed

/-! ## §3. Many writes. -/

variable {n : OrderedMap α}

theorem nodup_keys_nil : (keys ([] : OrderedMap α)).Nodup := List.nodup_nil

theorem has_put (m : OrderedMap α) (k k' : String) (v : α) :
    (m.put k v).has k' = (decide (k = k') || m.has k') := by
  unfold has
  rw [get?_put]
  by_cases h : k = k' <;> simp [h]

/-- Of two writes of one key the second counts. -/
theorem put_put (m : OrderedMap α) (k : String) (v w : α) : (m.put k v).put k w = m.put k w := by
  induction m with
  | nil => simp [put]
  | cons entry rest ih =>
    obtain ⟨k', v'⟩ := entry
    by_cases hk : k' = k
    · simp [put, hk]
    · simp [put, hk, ih]

/-- A key that is present can be written before another one or after it. -/
theorem put_comm {j k : String} (hk : m.has k = true) (hne : j ≠ k) (v w : α) :
    (m.put j w).put k v = (m.put k v).put j w := by
  induction m with
  | nil => exact absurd hk (by simp [has, get?])
  | cons entry rest ih =>
    obtain ⟨k', v'⟩ := entry
    by_cases hj : k' = j
    · subst hj
      simp [put, hne]
    · by_cases hk' : k' = k
      · subst hk'
        simp [put, hj]
      · have hrest : has rest k = true := by simpa [has, get?, hk'] using hk
        simp [put, hj, hk', ih hrest]

theorem putAll_cons (m : OrderedMap α) (entry : String × α) (entries : OrderedMap α) :
    m.putAll (entry :: entries) = (m.put entry.1 entry.2).putAll entries := rfl

theorem putAll_append (m entries others : OrderedMap α) :
    m.putAll (entries ++ others) = (m.putAll entries).putAll others :=
  List.foldl_append

/-- A key that is present can be written after entries that do not have it. -/
theorem putAll_put_comm {k : String} {entries : OrderedMap α} (hk : m.has k = true)
    (hentries : k ∉ entries.keys) (v : α) :
    (m.putAll entries).put k v = (m.put k v).putAll entries := by
  induction entries generalizing m with
  | nil => rfl
  | cons entry rest ih =>
    obtain ⟨hne, hrest⟩ := not_or.mp fun h => hentries (List.mem_cons.mpr h)
    rw [putAll_cons, putAll_cons, ih (by rw [has_put, hk, Bool.or_true]) hrest,
      put_comm hk (Ne.symm hne)]

/-- Writing a map with one more write is writing the map and then that. -/
theorem putAll_put (hn : n.keys.Nodup) (k : String) (v : α) :
    m.putAll (n.put k v) = (m.putAll n).put k v := by
  induction n generalizing m with
  | nil => rfl
  | cons entry rest ih =>
    obtain ⟨k', v'⟩ := entry
    obtain ⟨hfirst, hrest⟩ := List.nodup_cons.mp hn
    by_cases hk : k' = k
    · subst hk
      have hpresent : (m.put k' v').has k' = true := by simp [has_put]
      rw [put, if_pos rfl, putAll_cons, putAll_cons, putAll_put_comm hpresent hfirst, put_put]
    · rw [put, if_neg hk, putAll_cons, putAll_cons, ih hrest]

/-- Entries may be collected before they are written. -/
theorem putAll_putAll (hn : n.keys.Nodup) (entries : OrderedMap α) :
    m.putAll (n.putAll entries) = (m.putAll n).putAll entries := by
  induction entries generalizing n with
  | nil => rfl
  | cons entry rest ih =>
    rw [putAll_cons, putAll_cons, ih (nodup_keys_put hn entry.1 entry.2), putAll_put hn]

theorem nodup_keys_putAll (hm : m.keys.Nodup) (entries : OrderedMap α) :
    (m.putAll entries).keys.Nodup := by
  induction entries generalizing m with
  | nil => exact hm
  | cons entry rest ih => exact ih (nodup_keys_put hm entry.1 entry.2)

/-- The entries of some keys are written as they are in the whole map. -/
theorem filter_put (p : String → Bool) (m : OrderedMap α) (k : String) (v : α) :
    (m.put k v).filter (fun entry => p entry.1) =
      if p k then put (m.filter fun entry => p entry.1) k v else m.filter fun entry => p entry.1 := by
  induction m with
  | nil => cases hp : p k <;> simp [put, hp]
  | cons entry rest ih =>
    obtain ⟨k', v'⟩ := entry
    by_cases hk : k' = k
    · subst hk
      cases hp : p k' <;> simp [put, hp]
    · rw [put, if_neg hk]
      simp only [List.filter_cons, ih]
      cases hp' : p k' with
      | true =>
        simp only [if_true]
        split
        next => rw [put, if_neg hk]
        next => rfl
      | false => simp only [Bool.false_eq_true, if_false]

/-- The entries of some keys are those of a map with those of another one written over them. -/
theorem filter_putAll (p : String → Bool) (m entries : OrderedMap α) :
    (m.putAll entries).filter (fun entry => p entry.1) =
      putAll (m.filter fun entry => p entry.1) (entries.filter fun entry => p entry.1) := by
  induction entries generalizing m with
  | nil => rfl
  | cons entry rest ih =>
    obtain ⟨k, v⟩ := entry
    rw [putAll_cons, ih, filter_put, List.filter_cons]
    split
    next => rw [putAll_cons]
    next => rfl

theorem erase_put (m : OrderedMap α) (k key : String) (v : α) :
    (m.put k v).erase key = if k = key then m.erase key else (m.erase key).put k v := by
  have hput := filter_put (fun name => name ≠ key) m k v
  by_cases hk : k = key
  · rw [if_neg (by simpa using hk)] at hput
    rw [if_pos hk]
    exact hput
  · rw [if_pos (by simpa using hk)] at hput
    rw [if_neg hk]
    exact hput

/-- A key is erased from a map with entries written over it where it is from both. -/
theorem erase_putAll (m entries : OrderedMap α) (key : String) :
    (m.putAll entries).erase key = (m.erase key).putAll (entries.erase key) :=
  filter_putAll (fun name => name ≠ key) m entries

theorem get?_erase_self (m : OrderedMap α) (key : String) : (m.erase key).get? key = none := by
  cases hget : (m.erase key).get? key with
  | none => rfl
  | some v => exact absurd (List.mem_filter.mp (mem_of_get? hget)).2 (by simp)

theorem get?_filter {p : String → Bool} {key : String} (h : p key = true) :
    get? (m.filter fun entry => p entry.1) key = m.get? key := by
  induction m with
  | nil => rfl
  | cons entry rest ih =>
    obtain ⟨k, v⟩ := entry
    by_cases hk : k = key
    · subst hk
      simp [get?, h]
    · cases hp : p k with
      | true => simp [get?, hp, hk, ih]
      | false => simp [get?, hp, hk, ih]

theorem get?_erase_of_ne {k key : String} (h : k ≠ key) : (m.erase key).get? k = m.get? k := by
  unfold erase
  exact get?_filter (p := fun name => name ≠ key) (by simpa using h)

/-- What is found after entries are written is what they hold, or what was there. -/
theorem get?_putAll (hn : n.keys.Nodup) (key : String) :
    (m.putAll n).get? key = (n.get? key).or (m.get? key) := by
  induction n generalizing m with
  | nil => rfl
  | cons entry rest ih =>
    obtain ⟨k, v⟩ := entry
    obtain ⟨hfirst, hrest⟩ := List.nodup_cons.mp hn
    rw [putAll_cons, ih hrest, get?_put]
    by_cases hk : k = key
    · subst hk
      simp [get?, get?_eq_none hfirst]
    · simp [get?, hk]

/-! ## §4. Values under their names. -/

/-- Of several writes of one key the last counts. -/
theorem get?_putAll_reverse (m entries : OrderedMap α) (key : String) :
    (m.putAll entries).get? key = (get? entries.reverse key).or (m.get? key) := by
  induction entries generalizing m with
  | nil => rfl
  | cons entry rest ih =>
    obtain ⟨k, v⟩ := entry
    rw [putAll_cons, ih, get?_put, List.reverse_cons, get?_append, Option.or_assoc]
    congr 1
    by_cases hk : k = key <;> simp [get?, hk]

/-- Keys are added in the order in which they are first written. -/
theorem keys_putAll (m entries : OrderedMap α) :
    (m.putAll entries).keys = m.keys ++ firstOfEach id m.keys entries.keys := by
  induction entries generalizing m with
  | nil => simp [putAll, keys]
  | cons entry rest ih =>
    obtain ⟨k, v⟩ := entry
    have hrest : keys ((k, v) :: rest) = k :: keys rest := rfl
    rw [putAll_cons, ih, keys_put, hrest]
    by_cases hk : k ∈ m.keys
    · rw [if_pos hk, firstOfEach_cons_of_mem id hk]
    · have hseen : ∀ key, key ∈ m.keys ++ [k] ↔ key ∈ id k :: m.keys := by
        intro key
        rw [List.mem_append, List.mem_singleton, List.mem_cons, or_comm, id]
      rw [if_neg hk, firstOfEach_cons_of_not_mem id hk, firstOfEach_congr id hseen,
        List.append_assoc, List.singleton_append]

/-- A map holds values under their names: each name stands where it first occurs, and of several
values of one name the last counts. -/
structure Indexes (name : α → String) (m : OrderedMap α) (values : List α) : Prop where
  keys : m.keys = (values.map name).eraseDups
  get? : ∀ key, m.get? key = values.reverse.find? (fun v => name v == key)

/-- Only nothing is indexed as nothing. -/
theorem Indexes.eq_nil_iff {values : List α} (h : Indexes name m values) :
    m = [] ↔ values = [] := by
  have hkeys := h.keys
  cases values with
  | nil =>
    rw [List.map_nil, List.eraseDups_nil] at hkeys
    exact iff_of_true (List.map_eq_nil_iff.mp hkeys) rfl
  | cons v values =>
    refine iff_of_false (fun hnil => ?_) (List.cons_ne_nil v values)
    rw [hnil, List.map_cons, List.eraseDups_cons] at hkeys
    exact absurd hkeys (by simp [OrderedMap.keys])

theorem put_ne_nil (m : OrderedMap α) (k : String) (v : α) : m.put k v ≠ [] := by
  intro h
  have hkeys := get?_put m k k v
  rw [h, if_pos rfl] at hkeys
  exact absurd hkeys (by simp [OrderedMap.get?])

theorem get?_map_name (values : List α) (key : String) :
    get? (values.map fun v => (name v, v)) key = values.find? (fun v => name v == key) := by
  induction values with
  | nil => rfl
  | cons v values ih =>
    rw [List.map_cons, get?, ih, List.find?_cons]
    by_cases hk : name v = key
    · rw [if_pos hk, hk, beq_self_eq_true]
    · rw [if_neg hk, beq_eq_false_iff_ne.mpr hk]

/-- **Values that are written under their names** are indexed by them. -/
theorem indexes_putAll (name : α → String) (values : List α) :
    Indexes name (putAll [] (values.map fun v => (name v, v))) values where
  keys := by
    have hkeys : keys (values.map fun v => (name v, v)) = values.map name := List.map_map
    rw [keys_putAll, hkeys]
    exact firstOfEach_of_nil id (values.map name)
  get? key := by
    rw [get?_putAll_reverse, ← List.map_reverse, get?_map_name]
    exact Option.or_none

end ScriptingBindings.OrderedMap
