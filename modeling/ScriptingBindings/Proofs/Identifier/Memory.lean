/-
  ScriptingBindings.Proofs.Identifier.Memory
  ──────────────────────────────────
  **WHAT A SANITIZER REMEMBERS IS TRUE.**

  No two conversions share a key, so an identifier that is found in the memory
  is the one that would be made:

      s.recalled c m  gives  s.convert c     for a sound memory m

  A stage asks for one identifier after the other and knows nothing else of
  the memory.  So it comes to the same whatever sound memory it starts from,
  and leaves a sound one.
-/
import ScriptingBindings.Identifier.Memory
import ScriptingBindings.Proofs.Success

namespace ScriptingBindings.Identifier

/-! ## §1. Keys. -/

/-- A list is cut at a mark in one way if the mark does not come again. -/
theorem append_cons_inj_of_not_mem {α : Type} {z : α} {a a' b b' : List α} (hb : z ∉ b)
    (hb' : z ∉ b') (h : a ++ z :: b = a' ++ z :: b') : a = a' ∧ b = b' := by
  -- If one front were longer, the mark at its end would stand inside the other back.
  rcases List.append_eq_append_iff.mp h with ⟨more, ha, hz⟩ | ⟨more, ha, hz⟩
  · cases more with
    | nil => exact ⟨by simpa using ha.symm, (List.cons.inj hz).2⟩
    | cons y more =>
      have hmem : z ∈ b := by
        rw [(List.cons.inj hz).2]
        simp
      exact absurd hmem hb
  · cases more with
    | nil => exact ⟨by simpa using ha, (List.cons.inj hz).2.symm⟩
    | cons y more =>
      have hmem : z ∈ b' := by
        rw [(List.cons.inj hz).2]
        simp
      exact absurd hmem hb'

theorem keySeparator_not_mem_style (style : Style) : keySeparator ∉ style.label.toList := by
  cases style with
  | camel | pascal => decide

theorem keySeparator_not_mem_escaped (escaped : Bool) :
    keySeparator ∉ (escapedLabel escaped).toList := by
  cases escaped with
  | false | true => decide

theorem label_injective : ∀ {style style' : Style}, style.label = style'.label → style = style'
  | .camel, .camel, _ | .pascal, .pascal, _ => rfl
  | .camel, .pascal, h | .pascal, .camel, h => absurd h (by decide)

theorem escapedLabel_injective : ∀ {b b' : Bool}, escapedLabel b = escapedLabel b' → b = b' := by
  decide

/-- **Different conversions have different keys**, even if names hold the separator: the words
behind the name do not. -/
theorem key_injective {c c' : Conversion} (h : c.key = c'.key) : c = c' := by
  obtain ⟨name, style, escaped⟩ := c
  obtain ⟨name', style', escaped'⟩ := c'
  have hkey : ∀ (n : String) (t : Style) (e : Bool), (Conversion.key ⟨n, t, e⟩).toList
      = (n.toList ++ keySeparator :: t.label.toList)
        ++ keySeparator :: (escapedLabel e).toList := by
    intro n t e
    simp [Conversion.key]
  have hlists := congrArg String.toList h
  rw [hkey, hkey] at hlists
  -- The key is read from its end: first the last word, then the one before it.
  obtain ⟨hfront, hescaped⟩ := append_cons_inj_of_not_mem (keySeparator_not_mem_escaped escaped)
    (keySeparator_not_mem_escaped escaped') hlists
  obtain ⟨hname, hstyle⟩ := append_cons_inj_of_not_mem (keySeparator_not_mem_style style)
    (keySeparator_not_mem_style style') hfront
  rw [String.toList_inj.mp hname, label_injective (String.toList_inj.mp hstyle),
    escapedLabel_injective (String.toList_inj.mp hescaped)]

/-! ## §2. Sound memories. -/

/-- Every identifier that is kept is the one that would be made. -/
def Memory.IsSound (s : Sanitizer) (m : Memory) : Prop :=
  ∀ c made, m.get? c.key = some made → s.convert c = .ok made

variable {s : Sanitizer} {m : Memory}

theorem Memory.isSound_nil (s : Sanitizer) : Memory.IsSound s [] :=
  fun _ _ h => absurd h (by simp [OrderedMap.get?])

/-- Keeping an identifier that was made. -/
theorem Memory.IsSound.put (h : m.IsSound s) {c : Conversion} {made : String}
    (hmade : s.convert c = .ok made) : Memory.IsSound s (m.put c.key made) := by
  intro c' made' hget
  rw [OrderedMap.get?_put] at hget
  split at hget
  next hkey =>
    rw [← key_injective hkey, ← Option.some.inj hget]
    exact hmade
  next => exact h c' made' hget

/-- **The identifier that is recalled is the one that would be made.** -/
theorem recalled_eq (h : m.IsSound s) (c : Conversion) :
    (s.recalled c m).1 = s.convert c ∧ Memory.IsSound s (s.recalled c m).2 := by
  unfold Sanitizer.recalled
  split
  next made hget => exact ⟨(h c made hget).symm, h⟩
  next =>
    -- Nothing is kept of a refusal, so the memory only grows by what was made.
    split
    next made hmade => exact ⟨hmade.symm, h.put hmade⟩
    next e hmade => exact ⟨hmade.symm, h⟩

/-- Identifiers for several conversions are those that would be made. -/
theorem recallAll_eq (h : m.IsSound s) (cs : List Conversion) :
    s.recallAll m cs = cs.map s.convert := by
  induction cs generalizing m with
  | nil => rfl
  | cons c cs ih =>
    obtain ⟨hmade, hsound⟩ := recalled_eq h c
    rw [List.map_cons, ← hmade, ← ih hsound]
    rfl

/-! ## §3. Stages that ask. -/

namespace Asking

variable {α β : Type}

@[simp] theorem made_pure (a : α) : (pure a : Asking α).made s = a := rfl

/-- What comes first is made first. -/
@[simp] theorem made_bind (x : Asking α) (f : α → Asking β) :
    (x >>= f).made s = (f (x.made s)).made s := by
  induction x with
  | done a => rfl
  | ask c next ih => exact ih (s.convert c)

/-- **A stage comes to the same with a memory and without one**, and what it keeps is true. -/
theorem recalled_eq_made (h : m.IsSound s) (x : Asking α) :
    (x.recalled s m).1 = x.made s ∧ Memory.IsSound s (x.recalled s m).2 := by
  induction x generalizing m with
  | done a => exact ⟨rfl, h⟩
  | ask c next ih =>
    -- What it is told is what would be made, and it goes on from a memory that is sound again.
    obtain ⟨hmade, hsound⟩ := recalled_eq h c
    obtain ⟨hrest, hsound⟩ := ih (s.recalled c m).1 hsound
    refine ⟨hrest.trans ?_, hsound⟩
    rw [hmade]
    rfl

end Asking

end ScriptingBindings.Identifier
