/-
  ScriptingBindings.OrderedMap
  ──────────────────────────────────
  **MAPS IN INSERTION ORDER.**

  A map is its list of entries.  Writing a key that is present replaces its
  value in place; writing a new key appends an entry.  So the order of the
  keys is the order in which they were first written:

      keys (put m k v) = if k ∈ keys m then keys m else keys m ++ [k]
-/

namespace ScriptingBindings

/-- Entries in the order in which their keys were first written. -/
abbrev OrderedMap (α : Type) := List (String × α)

namespace OrderedMap

variable {α : Type}

/-! ## §1. Operations. -/

/-- The keys in insertion order. -/
def keys (m : OrderedMap α) : List String :=
  m.map Prod.fst

/-- The value of a key. -/
def get? : OrderedMap α → String → Option α
  | [], _ => none
  | (k, v) :: rest, key => if k = key then some v else get? rest key

/-- Whether a key is present. -/
def has (m : OrderedMap α) (key : String) : Bool :=
  (m.get? key).isSome

/-- Write a key: in place if it is present, else at the end. -/
def put : OrderedMap α → String → α → OrderedMap α
  | [], key, value => [(key, value)]
  | (k, v) :: rest, key, value =>
    if k = key then (k, value) :: rest else (k, v) :: put rest key value

/-- Write the entries of a second map in order. -/
def putAll (m : OrderedMap α) (entries : OrderedMap α) : OrderedMap α :=
  entries.foldl (fun acc entry => acc.put entry.1 entry.2) m

/-- Write a key only if it is absent. -/
def putNew (m : OrderedMap α) (key : String) (value : α) : OrderedMap α :=
  if m.has key then m else m ++ [(key, value)]

/-- The map without a key. -/
def erase (m : OrderedMap α) (key : String) : OrderedMap α :=
  m.filter (fun entry => entry.1 ≠ key)

/-! ## §2. What a write does to the keys and the values. -/

theorem get?_put (m : OrderedMap α) (key other : String) (value : α) :
    (m.put key value).get? other = if key = other then some value else m.get? other := by
  induction m with
  | nil => simp [put, get?]
  | cons entry rest ih =>
    obtain ⟨k, v⟩ := entry
    by_cases hk : k = key
    · subst hk
      simp only [put, get?, if_pos]
      split <;> rfl
    · simp only [put, if_neg hk, get?, ih]
      by_cases ho : k = other
      · simp [ho, show ¬ key = other from fun h => hk (ho.trans h.symm)]
      · simp [ho]

theorem keys_put (m : OrderedMap α) (key : String) (value : α) :
    (m.put key value).keys = if key ∈ m.keys then m.keys else m.keys ++ [key] := by
  induction m with
  | nil => simp [put, keys]
  | cons entry rest ih =>
    obtain ⟨k, v⟩ := entry
    by_cases hk : k = key
    · subst hk
      simp [put, keys]
    · have hk' : ¬ key = k := fun h => hk h.symm
      simp only [keys] at ih
      simp only [put, if_neg hk, keys, List.map_cons, ih, List.mem_cons, hk', false_or]
      by_cases h : key ∈ rest.map Prod.fst <;> simp [h]

end OrderedMap

end ScriptingBindings
