/-
  ScriptingBindings.Proofs.Failure
  ──────────────────────────────────
  **HOW STEPS FAIL.**

  A computation fails only in the ways in which one of its steps can.  So what
  is known of the failures of small steps carries over, step by step, to a
  whole run:

      FailsOnly P x  →  (∀ a, FailsOnly P (f a))  →  FailsOnly P (x >>= f)
-/
import ScriptingBindings.Proofs.Success

namespace ScriptingBindings

variable {ε δ α β : Type} {P : ε → Prop}

/-- Every failure is one of some kind. -/
def FailsOnly (P : ε → Prop) (x : Except ε α) : Prop :=
  ∀ e, x = .error e → P e

namespace FailsOnly

/-! ## §1. Steps that can fail. -/

theorem ok (a : α) : FailsOnly P (.ok a) := by
  intro e h
  exact absurd h (by simp)

theorem error {e : ε} (h : P e) : FailsOnly P (.error e : Except ε α) := by
  intro e' he
  exact Except.error.inj he ▸ h

theorem bind {x : Except ε α} {f : α → Except ε β} (hx : FailsOnly P x)
    (hf : ∀ a, FailsOnly P (f a)) : FailsOnly P (x >>= f) := by
  intro e h
  cases x with
  | error e' => exact hx e (congrArg Except.error (Except.error.inj h))
  | ok a => exact hf a e h

theorem map {x : Except ε α} (hx : FailsOnly P x) (f : α → β) : FailsOnly P (x.map f) := by
  intro e h
  cases x with
  | error e' => exact hx e (congrArg Except.error (Except.error.inj h))
  | ok a => exact absurd h (by simp [Except.map])

theorem mapError {Q : δ → Prop} {x : Except ε α} (hx : FailsOnly P x) {f : ε → δ}
    (hf : ∀ e, P e → Q (f e)) : FailsOnly Q (x.mapError f) := by
  intro e h
  cases x with
  | error e' => exact Except.error.inj h ▸ hf e' (hx e' rfl)
  | ok a => exact absurd h (by simp [Except.mapError])

theorem mapError_of_forall {Q : δ → Prop} {f : ε → δ} (h : ∀ e, Q (f e)) (x : Except ε α) :
    FailsOnly Q (x.mapError f) :=
  mapError (P := fun _ => True) (fun _ _ => trivial) fun e _ => h e

/-- A step for each item. -/
theorem mapM {f : α → Except ε β} {as : List α} (h : ∀ a ∈ as, FailsOnly P (f a)) :
    FailsOnly P (as.mapM f) := by
  induction as with
  | nil => exact ok []
  | cons a as ih =>
    rw [List.mapM_cons]
    refine bind (h a List.mem_cons_self) (fun b => ?_)
    exact bind (ih (fun a ha => h a (List.mem_cons_of_mem _ ha))) (fun bs => ok (b :: bs))

/-- A value carried through items. -/
theorem foldlM {f : β → α → Except ε β} {as : List α} (h : ∀ b, ∀ a ∈ as, FailsOnly P (f b a))
    (b : β) : FailsOnly P (as.foldlM f b) := by
  -- The start is free: the rest of the items goes on from any result.
  induction as generalizing b with
  | nil => exact ok b
  | cons a as ih =>
    rw [List.foldlM_cons]
    exact bind (h b a List.mem_cons_self)
      (ih (fun b a ha => h b a (List.mem_cons_of_mem _ ha)))

/-! ## §2. Stages that leave records. -/

theorem outcome_ofExcept {x : Except ε α} (hx : FailsOnly P x) :
    FailsOnly P (Run.ofExcept x).outcome := hx

theorem outcome_bind {x : Run ε α} {f : α → Run ε β} (hx : FailsOnly P x.outcome)
    (hf : ∀ a, FailsOnly P (f a).outcome) : FailsOnly P (x >>= f).outcome := by
  rw [Run.outcome_bind]
  exact bind hx hf

theorem outcome_mapM {f : α → Run ε β} {as : List α}
    (h : ∀ a ∈ as, FailsOnly P (f a).outcome) : FailsOnly P (as.mapM f).outcome := by
  rw [Run.outcome_mapM]
  exact mapM h

theorem outcome_foldlM {f : β → α → Run ε β} {as : List α}
    (h : ∀ b, ∀ a ∈ as, FailsOnly P (f b a).outcome) (b : β) :
    FailsOnly P (as.foldlM f b).outcome := by
  rw [Run.outcome_foldlM]
  exact foldlM h b

end FailsOnly

end ScriptingBindings
