/-
  ScriptingBindings.Proofs.Text.Pieces
  ──────────────────────────────────
  **PIECES IN ORDER.**

  Pieces stand in a text in order if the text can be cut so that they follow
  each other, each after the end of the one before.  Texts that are put
  together have the pieces of the first and then those of the second.
-/
import Mathlib.Data.List.Basic
import ScriptingBindings.Text.Lines

namespace ScriptingBindings.Text

/-- Pieces follow each other in a text, none of them overlapping the next. -/
def InOrder (s : List Char) : List (List Char) → Prop
  | [] => True
  | piece :: pieces => ∃ front back, s = front ++ (piece ++ back) ∧ InOrder back pieces

namespace InOrder

variable {s t piece : List Char} {pieces more : List (List Char)}

theorem nil (s : List Char) : InOrder s [] := trivial

theorem prepend (h : InOrder s pieces) (front : List Char) : InOrder (front ++ s) pieces := by
  cases pieces with
  | nil => exact nil _
  | cons piece pieces =>
    obtain ⟨front', back, rfl, hback⟩ := h
    exact ⟨front ++ front', back, (List.append_assoc _ _ _).symm, hback⟩

theorem cons (piece : List Char) (h : InOrder s pieces) :
    InOrder (piece ++ s) (piece :: pieces) :=
  ⟨[], s, rfl, h⟩

/-- The pieces of two texts stand in both together. -/
theorem append (hs : InOrder s pieces) (ht : InOrder t more) :
    InOrder (s ++ t) (pieces ++ more) := by
  induction pieces generalizing s with
  | nil => exact ht.prepend s
  | cons piece pieces ih =>
    obtain ⟨front, back, rfl, hback⟩ := hs
    refine ⟨front, back ++ t, ?_, ih hback⟩
    simp only [List.append_assoc]

theorem append_right (h : InOrder s pieces) (t : List Char) : InOrder (s ++ t) pieces := by
  have happend := h.append (nil t)
  rwa [List.append_nil] at happend

end InOrder

/-! ## Stripping. -/

/-- A piece that stripping a character leaves as it is, whatever stands around it: it starts and
ends with other characters. -/
structure IsFirm (c : Char) (piece : List Char) : Prop where
  first : ∃ a, piece.head? = some a ∧ a ≠ c
  last : ∃ b, piece.getLast? = some b ∧ b ≠ c

variable {c : Char} {piece : List Char}

theorem IsFirm.append {front back : List Char} (hfront : IsFirm c front) (middle : List Char)
    (hback : IsFirm c back) : IsFirm c (front ++ (middle ++ back)) := by
  obtain ⟨a, ha, hac⟩ := hfront.first
  obtain ⟨b, hb, hbc⟩ := hback.last
  refine ⟨⟨a, ?_, hac⟩, ⟨b, ?_, hbc⟩⟩
  · rw [List.head?_append, ha]
    rfl
  · rw [List.getLast?_append, List.getLast?_append, hb]
    rfl

theorem IsFirm.dropWhile_append (h : IsFirm c piece) (front back : List Char) :
    (front ++ (piece ++ back)).dropWhile (· == c)
      = front.dropWhile (· == c) ++ (piece ++ back) := by
  obtain ⟨a, hfirst, ha⟩ := h.first
  obtain ⟨rest, rfl⟩ := List.head?_eq_some_iff.mp hfirst
  rw [List.dropWhile_append]
  split
  next hempty =>
    rw [List.isEmpty_iff.mp hempty, List.cons_append, List.dropWhile_cons_of_neg (by simpa using ha)]
    rfl
  next => rfl

theorem IsFirm.stripEndOf_append (h : IsFirm c piece) (front back : List Char) :
    stripEndOf c (front ++ (piece ++ back)) = front ++ (piece ++ stripEndOf c back) := by
  obtain ⟨b, hlast, hb⟩ := h.last
  obtain ⟨rest, rfl⟩ := List.getLast?_eq_some_iff.mp hlast
  unfold stripEndOf
  rw [List.reverse_append, List.reverse_append, List.append_assoc, List.dropWhile_append]
  split
  next hempty =>
    rw [List.isEmpty_iff.mp hempty, List.reverse_append, List.reverse_singleton,
      List.singleton_append, List.cons_append, List.dropWhile_cons_of_neg (by simpa using hb)]
    simp
  next => simp

theorem InOrder.stripEndOf {s : List Char} {pieces : List (List Char)} (h : InOrder s pieces)
    (hfirm : ∀ piece ∈ pieces, IsFirm c piece) : InOrder (stripEndOf c s) pieces := by
  induction pieces generalizing s with
  | nil => exact .nil _
  | cons piece pieces ih =>
    obtain ⟨hpiece, hpieces⟩ := List.forall_mem_cons.mp hfirm
    obtain ⟨front, back, rfl, hback⟩ := h
    rw [hpiece.stripEndOf_append]
    exact ⟨front, _, rfl, ih hback hpieces⟩

/-- **Stripping keeps firm pieces.** -/
theorem InOrder.stripOf {s : List Char} {pieces : List (List Char)} (h : InOrder s pieces)
    (hfirm : ∀ piece ∈ pieces, IsFirm c piece) : InOrder (stripOf c s) pieces := by
  refine InOrder.stripEndOf ?_ hfirm
  cases pieces with
  | nil => exact .nil _
  | cons piece pieces =>
    obtain ⟨front, back, rfl, hback⟩ := h
    rw [(hfirm piece List.mem_cons_self).dropWhile_append]
    exact ⟨_, back, rfl, hback⟩

end ScriptingBindings.Text
