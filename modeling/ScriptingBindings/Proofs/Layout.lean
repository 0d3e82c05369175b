/-
  ScriptingBindings.Proofs.Layout
  ──────────────────────────────────
  **TEXT THAT CAN BE INDENTED.**

  A tidy text keeps every line that has content, without the blanks at its
  end.  It keeps its indentation as it was written, or gets another width for
  each level.  The second fails only for a line whose indentation would have
  more spaces than can be kept, or a number of them too large to count with on
  either side of zero.
-/
import Mathlib.Data.List.TakeDrop
import ScriptingBindings.Layout
import ScriptingBindings.Proofs.Success
import ScriptingBindings.Proofs.Text.Lines

namespace ScriptingBindings.Layout

open Text

/-! ## §1. Tidy texts. -/

theorem not_mem_stripEnd {c : Char} {line : List Char} (h : c ∉ line) : c ∉ stripEnd line := by
  intro hmem
  have hsuffix := (List.dropWhile_suffix isBlank (l := line.reverse)).subset
    (List.mem_reverse.mp hmem)
  exact h (List.mem_reverse.mp hsuffix)

theorem collapseFrom_sublist (afterBlank : Bool) (ls : List (List Char)) :
    (collapseFrom afterBlank ls).Sublist ls := by
  induction ls generalizing afterBlank with
  | nil => exact .slnil
  | cons line ls ih =>
    unfold collapseFrom
    split
    next =>
      split
      next => exact (ih true).cons line
      next => exact (ih true).cons_cons line
    next => exact (ih false).cons_cons line

/-- Only blank lines are left out. -/
theorem filter_collapseFrom (afterBlank : Bool) (ls : List (List Char)) :
    (collapseFrom afterBlank ls).filter (fun line => !line.isEmpty)
      = ls.filter (fun line => !line.isEmpty) := by
  induction ls generalizing afterBlank with
  | nil => rfl
  | cons line ls ih =>
    unfold collapseFrom
    split
    next h =>
      split
      next => rw [ih, List.filter_cons, if_neg (by simp [h])]
      next => rw [List.filter_cons, List.filter_cons, ih]
    next => rw [List.filter_cons, List.filter_cons, ih]

/-- The lines that are kept of a text are single lines. -/
theorem not_mem_of_mem_collapseFrom {s line : List Char}
    (h : line ∈ collapseFrom false ((lines s).map stripEnd)) : '\n' ∉ line := by
  obtain ⟨l, hl, rfl⟩ := List.mem_map.mp ((collapseFrom_sublist _ _).subset h)
  exact not_mem_stripEnd (not_mem_of_mem_cutAt hl)

/-- **A tidy text keeps the lines that have content**, without the blanks at their ends. -/
theorem contentLines_tidy (s : List Char) :
    contentLines (tidy s)
      = ((lines s).map stripEnd).filter (fun line => !line.isEmpty) := by
  have hlines : ∀ line ∈ collapseFrom false ((lines s).map stripEnd), '\n' ∉ line :=
    fun line => not_mem_of_mem_collapseFrom
  unfold tidy
  rw [contentLines_append, contentLines_stripOf, contentLines_unlines, ← filter_collapseFrom false]
  generalize collapseFrom false ((lines s).map stripEnd) = ls at hlines ⊢
  show _ ++ [] = _
  rw [List.append_nil]
  -- Each line is its own content, if it has any.
  induction ls with
  | nil => rfl
  | cons line ls ih =>
    obtain ⟨hline, hls⟩ := List.forall_mem_cons.mp hlines
    rw [List.flatMap_cons, ih hls, List.filter_cons]
    by_cases he : line = []
    · subst he
      rfl
    · rw [contentLines_of_not_mem hline he, if_pos (by simp [he])]
      rfl

/-! ## §2. Indentation. -/

variable [Machine]

/-- So many spaces can be counted with and kept. -/
def InRange (n : Int) : Prop :=
  -countLimit ≤ n ∧ n ≤ Machine.spaces

/-- The number of spaces in front of a line with another width of a level. -/
def indentation (width : Int) (line : List Char) : Int :=
  widened width (line.takeWhile (· == ' ')).length

theorem exists_spaces_iff (n : Int) : (∃ s, spaces n = .ok s) ↔ InRange n := by
  have hlimits : (Machine.spaces : Int) < countLimit := Int.ofNat_lt.mpr Machine.spaces_lt
  unfold spaces InRange
  split
  next h =>
    refine ⟨fun ⟨s, hs⟩ => absurd hs (by simp), fun hrange => ?_⟩
    omega
  next h =>
    split
    next hspace =>
      refine ⟨fun ⟨s, hs⟩ => absurd hs (by simp), fun hrange => ?_⟩
      omega
    next hspace => exact ⟨fun _ => by omega, fun _ => ⟨_, rfl⟩⟩

theorem exists_reindentLine_iff (width : Int) (line : List Char) :
    (∃ s, reindentLine width line = .ok s) ↔ InRange (indentation width line) := by
  rw [← exists_spaces_iff, reindentLine, List.span_eq_takeWhile_dropWhile]
  constructor
  · rintro ⟨s, hs⟩
    obtain ⟨blanks, hblanks, -⟩ := map_eq_ok.mp hs
    exact ⟨blanks, hblanks⟩
  · rintro ⟨blanks, hblanks⟩
    exact ⟨_, map_eq_ok.mpr ⟨blanks, hblanks, rfl⟩⟩

/-- Whether a text can be laid out: in the width that it is written with, and in any other
width that keeps the indentation of every line in range. -/
def CanFormat (width : Int) (s : String) : Prop :=
  width = 4 ∨ ∀ line ∈ lines (tidy s.toList), InRange (indentation width line)

/-- **A text is laid out where it can be.** -/
theorem exists_format_iff (width : Int) (s : String) :
    (∃ text, format (.int width) s = .ok text) ↔ CanFormat width s := by
  unfold format CanFormat
  extract_lets tidied
  by_cases hwidth : width = 4
  · have hwritten : isWrittenWidth (.int width) = true := by simp [isWrittenWidth, hwidth]
    rw [if_pos hwritten]
    exact ⟨fun _ => .inl hwidth, fun _ => ⟨_, rfl⟩⟩
  · have hwritten : ¬ isWrittenWidth (.int width) = true := by simp [isWrittenWidth, hwidth]
    rw [if_neg hwritten]
    simp only [hwidth, false_or, ← exists_reindentLine_iff]
    constructor
    · rintro ⟨text, h⟩ line hline
      obtain ⟨_, hreindent, -⟩ := map_eq_ok.mp h
      obtain ⟨indented, hlines, -⟩ := map_eq_ok.mp hreindent
      obtain ⟨s, -, hs⟩ := exists_right_of_forall₂ (mapM_eq_ok.mp hlines) hline
      exact ⟨s, hs⟩
    · intro h
      obtain ⟨indented, hlines⟩ := exists_mapM_of_forall h
      exact ⟨_, map_eq_ok.mpr ⟨_, map_eq_ok.mpr ⟨indented, hlines, rfl⟩, rfl⟩⟩

end ScriptingBindings.Layout
