/-
  ScriptingBindings.Proofs.Text.Lines
  ──────────────────────────────────
  **LINES OF JOINED TEXTS.**

  A text that is joined around a separator is cut into the parts of each of
  its pieces in turn:

      cutAt c (s ++ c :: t) = cutAt c s ++ cutAt c t

  Stripping line feeds from the ends of a text takes empty lines only, so the
  lines that have content stay as they are.  A text whose lines all end with a
  line feed has one more line than these, which is empty.
-/
import Mathlib.Data.List.DropRight
import Mathlib.Data.List.Induction
import ScriptingBindings.Text.Lines

namespace ScriptingBindings.Text

/-! ## §1. Cutting what was joined. -/

theorem cutAt_append (sep : Char) (s t : List Char) :
    cutAt sep (s ++ sep :: t) = cutAt sep s ++ cutAt sep t := by
  induction s with
  | nil => simp [cutAt]
  | cons c s ih =>
    rw [List.cons_append, cutAt, cutAt, ih]
    split
    next => rfl
    next =>
      -- The first part of `s` takes the character; there always is one.
      cases hs : cutAt sep s with
      | nil => exact absurd hs (cutAt_ne_nil sep s)
      | cons part parts => rfl

/-- Cutting joined pieces cuts each of them. -/
theorem cutAt_joinWith (sep : Char) {pieces : List (List Char)} (h : pieces ≠ []) :
    cutAt sep (joinWith sep pieces) = pieces.flatMap (cutAt sep) := by
  induction pieces with
  | nil => exact absurd rfl h
  | cons piece pieces ih =>
    by_cases hp : pieces = []
    · subst hp
      simp [joinWith]
    · rw [joinWith_cons hp, cutAt_append, ih hp, List.flatMap_cons]

theorem cutAt_of_not_mem {sep : Char} {s : List Char} (h : sep ∉ s) : cutAt sep s = [s] := by
  induction s with
  | nil => rfl
  | cons c s ih =>
    obtain ⟨hc, hs⟩ := not_or.mp (mt List.mem_cons.mpr h)
    rw [cutAt, if_neg (Ne.symm hc), ih hs]

/-- What holds no separator stands before the first part of what comes after it. -/
theorem cutAt_append_of_not_mem {sep : Char} {front : List Char} (h : sep ∉ front)
    (s : List Char) :
    cutAt sep (front ++ s) = (front ++ (cutAt sep s).headD []) :: (cutAt sep s).tail := by
  induction front with
  | nil =>
    cases hs : cutAt sep s with
    | nil => exact absurd hs (cutAt_ne_nil sep s)
    | cons part parts => exact hs
  | cons c front ih =>
    obtain ⟨hc, hfront⟩ := not_or.mp (mt List.mem_cons.mpr h)
    rw [List.cons_append, cutAt, if_neg (Ne.symm hc), ih hfront]
    rfl

/-- No part holds the separator. -/
theorem not_mem_of_mem_cutAt {sep : Char} {s part : List Char} (h : part ∈ cutAt sep s) :
    sep ∉ part := by
  induction s generalizing part with
  | nil =>
    rw [List.mem_singleton.mp h]
    exact List.not_mem_nil
  | cons c s ih =>
    rw [cutAt] at h
    split at h
    next =>
      rcases List.mem_cons.mp h with rfl | h
      · exact List.not_mem_nil
      · exact ih h
    next hc =>
      cases hs : cutAt sep s with
      | nil => exact absurd hs (cutAt_ne_nil sep s)
      | cons first parts =>
        rw [hs] at h ih
        rcases List.mem_cons.mp h with rfl | h
        · intro hmem
          rcases List.mem_cons.mp hmem with rfl | hmem
          · exact hc rfl
          · exact ih List.mem_cons_self hmem
        · exact ih (List.mem_cons_of_mem first h)

/-- What holds no separator stands behind the last part of what comes before it, which is empty
at the start and behind a separator. -/
theorem exists_cutAt_append (sep : Char) (s : List Char) : ∃ before tail,
    (∀ t, sep ∉ t → cutAt sep (s ++ t) = before ++ [tail ++ t]) ∧
      (tail ≠ [] ↔ ∃ c, s.getLast? = some c ∧ c ≠ sep) := by
  -- The text is taken apart from its end, where the last part grows.
  induction s using List.reverseRec with
  | nil => exact ⟨[], [], fun t ht => cutAt_of_not_mem ht, by simp⟩
  | append_singleton s c ih =>
    by_cases hc : c = sep
    · subst hc
      refine ⟨cutAt c s, [], fun t ht => ?_, by simp⟩
      rw [List.append_assoc, List.singleton_append, cutAt_append, cutAt_of_not_mem ht]
      rfl
    · obtain ⟨before, tail, hcut, -⟩ := ih
      refine ⟨before, tail ++ [c], fun t ht => ?_, by simp [hc]⟩
      rw [List.append_assoc, List.append_assoc, List.singleton_append]
      exact hcut (c :: t) fun h => (List.mem_cons.mp h).elim (fun h => hc h.symm) ht

/-! ## §2. Lines with content. -/

/-- The lines of a text that are not empty. -/
def contentLines (s : List Char) : List (List Char) :=
  (lines s).filter (fun line => !line.isEmpty)

theorem contentLines_subset_lines (s : List Char) : contentLines s ⊆ lines s :=
  List.filter_sublist.subset

theorem contentLines_append (s t : List Char) :
    contentLines (s ++ '\n' :: t) = contentLines s ++ contentLines t := by
  rw [contentLines, lines, cutAt_append, List.filter_append]
  rfl

theorem contentLines_unlines (pieces : List (List Char)) :
    contentLines (unlines pieces) = pieces.flatMap contentLines := by
  by_cases h : pieces = []
  · subst h
    rfl
  · rw [contentLines, lines, unlines, cutAt_joinWith '\n' h, List.filter_flatMap]
    rfl

theorem contentLines_of_not_mem {s : List Char} (h : '\n' ∉ s) (hs : s ≠ []) :
    contentLines s = [s] := by
  rw [contentLines, lines, cutAt_of_not_mem h]
  simp [hs]

theorem contentLines_dropWhile (s : List Char) :
    contentLines (s.dropWhile (· == '\n')) = contentLines s := by
  induction s with
  | nil => rfl
  | cons c s ih =>
    rw [List.dropWhile_cons]
    split
    next hc =>
      rw [beq_iff_eq.mp hc, ih]
      exact (contentLines_append [] s).symm
    next => rfl

theorem contentLines_stripEndOf (s : List Char) :
    contentLines (stripEndOf '\n' s) = contentLines s := by
  -- The text is taken apart from its end, where the stripping starts.
  induction s using List.reverseRec with
  | nil => rfl
  | append_singleton s c ih =>
    unfold stripEndOf at ih ⊢
    rw [List.reverse_append, List.reverse_singleton, List.singleton_append, List.dropWhile_cons]
    split
    next hc =>
      rw [beq_iff_eq.mp hc, ih, contentLines_append s []]
      exact (List.append_nil _).symm
    next => rw [List.reverse_cons, List.reverse_reverse]

/-- **Stripping line feeds keeps the lines with content.** -/
theorem contentLines_stripOf (s : List Char) : contentLines (stripOf '\n' s) = contentLines s := by
  rw [stripOf, contentLines_stripEndOf, contentLines_dropWhile]

/-! ## §3. Texts from lines. -/

/-- Joining lines that hold no line feed and cutting again gives them back. -/
theorem lines_unlines {ls : List (List Char)} (h : ∀ l ∈ ls, '\n' ∉ l) (hne : ls ≠ []) :
    lines (unlines ls) = ls := by
  rw [lines, unlines, cutAt_joinWith '\n' hne]
  induction ls with
  | nil => rfl
  | cons l ls ih =>
    obtain ⟨hl, hls⟩ := List.forall_mem_cons.mp h
    rw [List.flatMap_cons, cutAt_of_not_mem hl, List.singleton_append]
    by_cases hrest : ls = []
    · subst hrest
      rfl
    · rw [ih hls hrest]

/-- Lines, each with a line feed at its end. -/
def ended (ls : List (List Char)) : List Char :=
  ls.flatMap (· ++ ['\n'])

theorem ended_append (ls ms : List (List Char)) : ended (ls ++ ms) = ended ls ++ ended ms :=
  List.flatMap_append

theorem ended_eq_unlines (ls : List (List Char)) : ended ls = unlines (ls ++ [[]]) := by
  induction ls with
  | nil => rfl
  | cons l ls ih =>
    rw [List.cons_append, unlines, joinWith_cons (by simp)]
    show l ++ ['\n'] ++ ended ls = _
    rw [ih, List.append_assoc]
    rfl

/-- A text with a line feed at its end. -/
theorem ended_lines (s : List Char) : ended (lines s) = s ++ ['\n'] := by
  rw [ended_eq_unlines, unlines]
  have hlines : lines s ++ [[]] = cutAt '\n' (s ++ ['\n']) := (cutAt_append '\n' s []).symm
  rw [hlines, joinWith_cutAt]

theorem lines_ended {ls : List (List Char)} (h : ∀ l ∈ ls, '\n' ∉ l) :
    lines (ended ls) = ls ++ [[]] := by
  rw [ended_eq_unlines, lines_unlines _ (by simp)]
  exact List.forall_mem_append.mpr ⟨h, List.forall_mem_singleton.mpr List.not_mem_nil⟩

/-! ## §4. Empty lines at the ends. -/

theorem unlines_concat {ls : List (List Char)} (h : ls ≠ []) (l : List Char) :
    unlines (ls ++ [l]) = unlines ls ++ '\n' :: l := by
  induction ls with
  | nil => exact absurd rfl h
  | cons first ls ih =>
    by_cases hls : ls = []
    · subst hls
      rfl
    · rw [List.cons_append, unlines, unlines, joinWith_cons (by simp), joinWith_cons hls]
      show first ++ '\n' :: unlines (ls ++ [l]) = first ++ '\n' :: unlines ls ++ '\n' :: l
      rw [ih hls, List.append_assoc]
      rfl

theorem reverse_unlines (ls : List (List Char)) :
    (unlines ls).reverse = unlines (ls.map List.reverse).reverse := by
  induction ls with
  | nil => rfl
  | cons l ls ih =>
    by_cases hls : ls = []
    · subst hls
      rfl
    · rw [unlines, joinWith_cons hls, List.map_cons, List.reverse_cons,
        unlines_concat (by simpa using hls), ← ih, List.reverse_append, List.reverse_cons,
        List.append_assoc]
      rfl

/-- Line feeds at the start of a text are empty lines. -/
theorem dropWhile_unlines {ls : List (List Char)} (h : ∀ l ∈ ls, '\n' ∉ l) :
    (unlines ls).dropWhile (· == '\n') = unlines (ls.dropWhile List.isEmpty) := by
  induction ls with
  | nil => rfl
  | cons l ls ih =>
    obtain ⟨hl, hls⟩ := List.forall_mem_cons.mp h
    cases l with
    | nil =>
      rw [List.dropWhile_cons_of_pos rfl, ← ih hls]
      cases ls with
      | nil => rfl
      | cons next ls => rw [unlines, joinWith_cons (by simp)]; rfl
    | cons c l =>
      -- The first line has content, so nothing is dropped.
      have hc : ¬ (c == '\n') = true := by
        rintro hc
        exact hl (beq_iff_eq.mp hc ▸ List.mem_cons_self)
      rw [List.dropWhile_cons_of_neg (by simp)]
      cases ls with
      | nil => exact List.dropWhile_cons_of_neg hc
      | cons next ls =>
        rw [unlines, joinWith_cons (by simp)]
        exact List.dropWhile_cons_of_neg hc

theorem stripEndOf_unlines {ls : List (List Char)} (h : ∀ l ∈ ls, '\n' ∉ l) :
    stripEndOf '\n' (unlines ls) = unlines (ls.rdropWhile List.isEmpty) := by
  have hreversed : ∀ l ∈ (ls.map List.reverse).reverse, '\n' ∉ l := by
    intro l hl
    obtain ⟨line, hline, rfl⟩ := List.mem_map.mp (List.mem_reverse.mp hl)
    exact mt List.mem_reverse.mp (h line hline)
  unfold stripEndOf List.rdropWhile
  rw [reverse_unlines, dropWhile_unlines hreversed, reverse_unlines, ← List.map_reverse,
    ← List.map_reverse, List.dropWhile_map, ← List.map_reverse, List.map_map]
  simp [Function.comp_def]

/-- **Stripping line feeds from a text drops the empty lines at its ends.** -/
theorem stripOf_unlines {ls : List (List Char)} (h : ∀ l ∈ ls, '\n' ∉ l) :
    stripOf '\n' (unlines ls)
      = unlines ((ls.dropWhile List.isEmpty).rdropWhile List.isEmpty) := by
  rw [stripOf, dropWhile_unlines h, stripEndOf_unlines]
  exact fun l hl => h l ((List.dropWhile_suffix _).subset hl)

end ScriptingBindings.Text
