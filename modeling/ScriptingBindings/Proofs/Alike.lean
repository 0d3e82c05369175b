/-
  ScriptingBindings.Proofs.Alike
  ──────────────────────────────────
  **TWO RUNS THAT END ALIKE.**

  Two computations that can fail end alike under a relation if both fail in
  the same way or both give results that are related.  Steps that end alike
  do so one after the other:

      Alike R x y  →  (∀ a b, R a b → Alike S (f a) (g b))  →  Alike S (x >>= f) (y >>= g)

  and so do a step for each item of two lists and a value carried through them.
-/
import Mathlib.Data.List.Forall2
import ScriptingBindings.Log

namespace ScriptingBindings

variable {ε δ α β γ τ : Type}

/-- Both fail in the same way, or both give results that are related. -/
inductive Alike (R : α → β → Prop) : Except ε α → Except ε β → Prop where
  | ok {a : α} {b : β} (h : R a b) : Alike R (.ok a) (.ok b)
  | error (e : ε) : Alike R (.error e) (.error e)

/-- The items of a list, and what a function makes of them. -/
theorem forall₂_map_left (f : α → β) (as : List α) :
    List.Forall₂ (fun b a => b = f a) (as.map f) as := by
  rw [List.forall₂_map_left_iff, List.forall₂_same]
  exact fun _ _ => rfl

namespace Alike

variable {R : α → β → Prop} {S : γ → τ → Prop}

/-- A computation ends like itself. -/
theorem refl {R : α → α → Prop} (hR : ∀ a, R a a) (x : Except ε α) : Alike R x x := by
  cases x with
  | error e => exact .error e
  | ok a => exact .ok (hR a)

theorem eq_refl (x : Except ε α) : Alike Eq x x := refl (fun _ => rfl) x

/-- Both give results, or both fail. -/
theorem ok_or_error {x : Except ε α} {y : Except ε β} (h : Alike R x y) :
    (∃ a b, x = .ok a ∧ y = .ok b ∧ R a b) ∨ ∃ e, x = .error e ∧ y = .error e := by
  cases h with
  | ok h => exact .inl ⟨_, _, rfl, rfl, h⟩
  | error e => exact .inr ⟨e, rfl, rfl⟩

/-- What holds of the results of related runs besides their relation may be used. -/
theorem imp {R' : α → β → Prop} {x : Except ε α} {y : Except ε β} (h : Alike R x y)
    (hR : ∀ a b, x = .ok a → y = .ok b → R a b → R' a b) : Alike R' x y := by
  cases h with
  | ok h => exact .ok (hR _ _ rfl rfl h)
  | error e => exact .error e

/-- Two computations that end like a third one end like each other. -/
theorem trans_left {T : α → α → Prop} {R : γ → α → Prop} {x : Except ε γ} {y z : Except ε α}
    (hy : Alike R x y) (hz : Alike R x z) (hT : ∀ c a b, R c a → R c b → T a b) :
    Alike T y z := by
  cases hy with
  | ok ha =>
    cases hz with
    | ok hb => exact .ok (hT _ _ _ ha hb)
  | error e =>
    cases hz with
    | error => exact .error e

theorem bind {x : Except ε α} {y : Except ε β} {f : α → Except ε γ} {g : β → Except ε τ}
    (h : Alike R x y) (hfg : ∀ a b, R a b → Alike S (f a) (g b)) :
    Alike S (x >>= f) (y >>= g) := by
  cases h with
  | ok hab => exact hfg _ _ hab
  | error e => exact .error e

/-- Two runs that start with the same step. -/
theorem bind_left (x : Except ε α) {f : α → Except ε γ} {g : α → Except ε τ}
    (hfg : ∀ a, Alike S (f a) (g a)) : Alike S (x >>= f) (x >>= g) :=
  (eq_refl x).bind fun a _ hab => hab ▸ hfg a

/-- A run that goes on where the other one has ended. -/
theorem bind_right {x : Except ε α} {y : Except ε β} {T : α → τ → Prop} {g : β → Except ε τ}
    (h : Alike R x y) (hg : ∀ a b, x = .ok a → R a b → Alike T (.ok a) (g b)) :
    Alike T x (y >>= g) := by
  cases h with
  | ok hab => exact hg _ _ rfl hab
  | error e => exact .error e

theorem map {x : Except ε α} {y : Except ε β} {f : α → γ} {g : β → τ} (h : Alike R x y)
    (hfg : ∀ a b, R a b → S (f a) (g b)) : Alike S (x.map f) (y.map g) := by
  cases h with
  | ok hab => exact .ok (hfg _ _ hab)
  | error e => exact .error e

theorem mapError {x : Except ε α} {y : Except ε β} (h : Alike R x y) (f : ε → δ) :
    Alike R (x.mapError f) (y.mapError f) := by
  cases h with
  | ok hab => exact .ok hab
  | error e => exact .error (f e)

/-- A step for each item of two lists whose items are related. -/
theorem mapM {Q : γ → τ → Prop} {f : γ → Except ε α} {g : τ → Except ε β} {cs : List γ}
    {ts : List τ} (h : List.Forall₂ Q cs ts) (hfg : ∀ c t, Q c t → Alike R (f c) (g t)) :
    Alike (List.Forall₂ R) (cs.mapM f) (ts.mapM g) := by
  induction h with
  | nil => exact .ok .nil
  | cons hct _ ih =>
    rw [List.mapM_cons, List.mapM_cons]
    exact (hfg _ _ hct).bind fun _ _ hab => ih.bind fun _ _ hrest => .ok (.cons hab hrest)

/-- A value carried through two lists whose items are related. -/
theorem foldlM {Q : γ → τ → Prop} {f : α → γ → Except ε α} {g : β → τ → Except ε β}
    {cs : List γ} {ts : List τ} (h : List.Forall₂ Q cs ts)
    (hfg : ∀ a b c t, R a b → Q c t → Alike R (f a c) (g b t)) {a : α} {b : β} (hab : R a b) :
    Alike R (cs.foldlM f a) (ts.foldlM g b) := by
  -- The values are free: the rest of the lists goes on from the first results.
  induction h generalizing a b with
  | nil => exact .ok hab
  | cons hct _ ih =>
    rw [List.foldlM_cons, List.foldlM_cons]
    exact (hfg _ _ _ _ hab hct).bind fun _ _ hnext => ih hnext

/-! ## Stages that leave records. -/

theorem outcome_bind {x : Run ε α} {y : Run ε β} {f : α → Run ε γ} {g : β → Run ε τ}
    (h : Alike R x.outcome y.outcome)
    (hfg : ∀ a b, R a b → Alike S (f a).outcome (g b).outcome) :
    Alike S (x >>= f).outcome (y >>= g).outcome := by
  rw [Run.outcome_bind, Run.outcome_bind]
  exact h.bind hfg

/-- Two stages that start with the same one. -/
theorem outcome_bind_left (x : Run ε α) {f : α → Run ε γ} {g : α → Run ε τ}
    (hfg : ∀ a, Alike S (f a).outcome (g a).outcome) : Alike S (x >>= f).outcome (x >>= g).outcome :=
  (eq_refl x.outcome).outcome_bind fun a _ hab => hab ▸ hfg a

end Alike

end ScriptingBindings
