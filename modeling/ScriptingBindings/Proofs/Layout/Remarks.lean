/-
  ScriptingBindings.Proofs.Layout.Remarks
  ──────────────────────────────────
  **REMARKS IN A LAID OUT TEXT.**

  A remark is a line that starts, after some spaces, with the marker of
  documentation comments.  Lines are remarked if remarks stand before some of
  them, each in the column of the line that comes after it:

      Remarked plain full

  Laying out treats such a remark as it treats the line after it.  A remark is
  not blank, so it keeps no blank line from being dropped and lets none be
  dropped; it gets the same number of spaces, and fails where the line does.
  So a text with remarks is laid out like the text without them.
-/
import ScriptingBindings.Proofs.Alike
import ScriptingBindings.Proofs.Layout

namespace ScriptingBindings.Text

/-! ## §1. Remarks. -/

/-- A line that starts with the marker of documentation comments, spaces aside. -/
def isRemark (line : List Char) : Bool :=
  "///".toList.isPrefixOf (line.dropWhile (· == ' '))

/-- The lines of a text that are no remarks. -/
def codeLines (s : String) : List (List Char) :=
  (lines s.toList).filter (fun line => !isRemark line)

/-- A line that has its first character in some column; the character is no blank. -/
def StartsAt (column : Nat) (line : List Char) : Prop :=
  ∃ c rest, isBlank c = false ∧ line = List.replicate column ' ' ++ c :: rest

/-- A remark in some column. -/
def RemarkAt (column : Nat) (line : List Char) : Prop :=
  ∃ rest, line = List.replicate column ' ' ++ "///".toList ++ rest

section Lines

variable {column : Nat} {line : List Char}

theorem RemarkAt.startsAt (h : RemarkAt column line) : StartsAt column line := by
  obtain ⟨rest, rfl⟩ := h
  exact ⟨'/', '/' :: '/' :: rest, by decide, List.append_assoc ..⟩

theorem StartsAt.ne_nil (h : StartsAt column line) : line ≠ [] := by
  obtain ⟨c, rest, -, rfl⟩ := h
  simp

theorem StartsAt.isEmpty_eq (h : StartsAt column line) : line.isEmpty = false := by
  simpa using h.ne_nil

/-- The spaces before a line are those up to its column. -/
theorem StartsAt.span_eq (h : StartsAt column line) :
    line.span (· == ' ') = (List.replicate column ' ', line.drop column) := by
  obtain ⟨c, rest, hc, rfl⟩ := h
  have hspace : (c == ' ') = false := by
    rw [beq_eq_false_iff_ne]
    rintro rfl
    exact absurd hc (by decide)
  have hspaces : ∀ d ∈ List.replicate column ' ', (d == ' ') = true := fun d hd =>
    beq_iff_eq.mpr (List.eq_of_mem_replicate hd)
  rw [List.span_eq_takeWhile_dropWhile, List.takeWhile_append_of_pos hspaces,
    List.dropWhile_append_of_pos hspaces, List.takeWhile_cons, List.dropWhile_cons, hspace,
    List.drop_left' List.length_replicate]
  simp

theorem RemarkAt.isRemark (h : RemarkAt column line) : isRemark line = true := by
  have hdrop : line.dropWhile (· == ' ') = line.drop column := by
    have hspan := congrArg Prod.snd h.startsAt.span_eq
    rwa [List.span_eq_takeWhile_dropWhile] at hspan
  obtain ⟨rest, rfl⟩ := h
  rw [Text.isRemark, hdrop, List.append_assoc, List.drop_left' List.length_replicate,
    List.isPrefixOf_iff_prefix]
  exact List.prefix_append ..

/-- Blanks are stripped up to the last character that is none. -/
theorem stripEnd_append_cons {c : Char} (hc : isBlank c = false) (front rest : List Char) :
    stripEnd (front ++ c :: rest) = front ++ c :: stripEnd rest := by
  unfold stripEnd
  rw [List.reverse_append, List.reverse_cons, List.append_assoc, List.dropWhile_append]
  split
  next h =>
    rw [List.isEmpty_iff.mp h, List.singleton_append, List.dropWhile_cons_of_neg (by simp [hc])]
    simp
  next => simp

theorem StartsAt.stripEnd (h : StartsAt column line) : StartsAt column (stripEnd line) := by
  obtain ⟨c, rest, hc, rfl⟩ := h
  exact ⟨c, _, hc, stripEnd_append_cons hc _ rest⟩

theorem StartsAt.move (h : StartsAt column line) (count : Nat) :
    StartsAt count (List.replicate count ' ' ++ line.drop column) := by
  obtain ⟨c, rest, hc, rfl⟩ := h
  exact ⟨c, rest, hc, by rw [List.drop_left' List.length_replicate]⟩

theorem RemarkAt.move (h : RemarkAt column line) (count : Nat) :
    RemarkAt count (List.replicate count ' ' ++ line.drop column) := by
  obtain ⟨rest, rfl⟩ := h
  exact ⟨rest, by rw [List.append_assoc, List.drop_left' List.length_replicate, List.append_assoc]⟩

theorem RemarkAt.stripEnd (h : RemarkAt column line) : RemarkAt column (stripEnd line) := by
  obtain ⟨rest, rfl⟩ := h
  refine ⟨Text.stripEnd rest, ?_⟩
  have hlast := stripEnd_append_cons (by decide : isBlank '/' = false)
    (List.replicate column ' ' ++ ['/', '/']) rest
  simpa using hlast

theorem eq_replicate_of_spaces [Machine] {n : Int} {s : List Char} (h : Layout.spaces n = .ok s) :
    s = List.replicate n.toNat ' ' := by
  unfold Layout.spaces at h
  split at h
  next => exact absurd h (by simp)
  next =>
    split at h
    next => exact absurd h (by simp)
    next => exact (Except.ok.inj h).symm

/-- A line that starts in a column is moved as far as the spaces before it are. -/
theorem reindentLine_of_startsAt [Machine] (h : StartsAt column line) (width : Int) :
    Layout.reindentLine width line
      = (Layout.spaces (Layout.widened width column)).map (· ++ line.drop column) := by
  rw [Layout.reindentLine, h.span_eq]
  simp

theorem not_mem_of_reindentLine [Machine] {width : Int} {moved : List Char}
    (h : Layout.reindentLine width line = .ok moved) (hline : '\n' ∉ line) : '\n' ∉ moved := by
  rw [Layout.reindentLine, List.span_eq_takeWhile_dropWhile] at h
  obtain ⟨blanks, hblanks, rfl⟩ := map_eq_ok.mp h
  rw [eq_replicate_of_spaces hblanks]
  rw [List.mem_append]
  rintro (hmem | hmem)
  · exact absurd (List.eq_of_mem_replicate hmem) (by decide)
  · exact hline ((List.dropWhile_suffix _).subset hmem)

end Lines

/-- Lines before others are dropped from the end only if all of them are. -/
theorem rdropWhile_cons (p : List Char → Bool) (line : List Char) (ls : List (List Char)) :
    (line :: ls).rdropWhile p
      = if ls.rdropWhile p = [] then [line].rdropWhile p else line :: ls.rdropWhile p := by
  unfold List.rdropWhile
  rw [List.reverse_cons, List.dropWhile_append]
  simp only [List.isEmpty_iff, List.reverse_eq_nil_iff]
  split
  next => rfl
  next => rw [List.reverse_append, List.reverse_singleton, List.singleton_append]

/-! ## §2. Lines with remarks. -/

/-- The full lines are the plain ones with remarks before some of them, each remark in the
column of the line after it. -/
inductive Remarked : List (List Char) → List (List Char) → Prop where
  | nil : Remarked [] []
  /-- The same line on both sides. -/
  | same (line : List Char) {plain full : List (List Char)} (h : Remarked plain full) :
      Remarked (line :: plain) (line :: full)
  /-- A remark before the next line. -/
  | remark {column : Nat} {remark line : List Char} {plain full : List (List Char)}
      (hr : RemarkAt column remark) (hl : StartsAt column line)
      (h : Remarked (line :: plain) full) : Remarked (line :: plain) (remark :: full)

namespace Remarked

variable {plain full : List (List Char)}

theorem refl : ∀ ls, Remarked ls ls
  | [] => .nil
  | line :: ls => .same line (refl ls)

theorem append {plain' full' : List (List Char)} (h : Remarked plain full)
    (h' : Remarked plain' full') : Remarked (plain ++ plain') (full ++ full') := by
  induction h with
  | nil => exact h'
  | same l _ ih => exact .same l ih
  | remark hr hl _ ih => exact .remark hr hl ih

/-- Remarks of one column before a line in that column. -/
theorem remarks {column : Nat} {rs : List (List Char)} {first : List Char}
    (hr : ∀ r ∈ rs, RemarkAt column r) (hl : StartsAt column first)
    (h : Remarked (first :: plain) full) : Remarked (first :: plain) (rs ++ full) := by
  induction rs with
  | nil => exact h
  | cons r rs ih =>
    obtain ⟨hfirst, hrest⟩ := List.forall_mem_cons.mp hr
    exact .remark hfirst hl (ih hrest)

theorem flatMap {α β : Type} {R : α → β → Prop} {as : List α} {bs : List β}
    {f : α → List (List Char)} {g : β → List (List Char)} (h : List.Forall₂ R as bs)
    (hfg : ∀ a b, R a b → Remarked (f a) (g b)) : Remarked (as.flatMap f) (bs.flatMap g) := by
  induction h with
  | nil => exact .nil
  | cons hab _ ih => exact (hfg _ _ hab).append ih

/-- **Remarks aside the lines are the same.** -/
theorem filter_eq (h : Remarked plain full) :
    plain.filter (fun line => !isRemark line) = full.filter (fun line => !isRemark line) := by
  induction h with
  | nil => rfl
  | same l _ ih => rw [List.filter_cons, List.filter_cons, ih]
  | remark hr _ _ ih => rw [ih, List.filter_cons_of_neg (by simp [hr.isRemark])]

theorem eq_nil_iff (h : Remarked plain full) : plain = [] ↔ full = [] := by
  cases h with
  | nil => simp
  | same => simp
  | remark => simp

/-! ## §3. What laying out does to remarks. -/

theorem map_stripEnd (h : Remarked plain full) :
    Remarked (plain.map stripEnd) (full.map stripEnd) := by
  induction h with
  | nil => exact .nil
  | same l _ ih => exact .same _ ih
  | remark hr hl _ ih => exact .remark hr.stripEnd hl.stripEnd ih

/-- Neither a remark nor the line after it is blank. -/
theorem collapseFrom (h : Remarked plain full) (afterBlank : Bool) :
    Remarked (Layout.collapseFrom afterBlank plain) (Layout.collapseFrom afterBlank full) := by
  induction h generalizing afterBlank with
  | nil => exact .nil
  | same l _ ih =>
    unfold Layout.collapseFrom
    split
    next =>
      split
      next => exact ih true
      next => exact .same l (ih true)
    next => exact .same l (ih false)
  | @remark column r l plain full hr hl _ ih =>
    have hafter : ∀ b, Layout.collapseFrom b (l :: plain) = l :: Layout.collapseFrom false plain :=
      fun b => by rw [Layout.collapseFrom, if_neg (by simp [hl.isEmpty_eq])]
    rw [hafter, Layout.collapseFrom, if_neg (by simp [hr.startsAt.isEmpty_eq])]
    exact .remark hr hl (hafter false ▸ ih false)

theorem dropWhile_isEmpty (h : Remarked plain full) :
    Remarked (plain.dropWhile List.isEmpty) (full.dropWhile List.isEmpty) := by
  induction h with
  | nil => exact .nil
  | same l h ih =>
    rw [List.dropWhile_cons, List.dropWhile_cons]
    split
    next => exact ih
    next => exact .same l h
  | remark hr hl h _ =>
    rw [List.dropWhile_cons_of_neg (by simp [hl.isEmpty_eq]),
      List.dropWhile_cons_of_neg (by simp [hr.startsAt.isEmpty_eq])]
    exact .remark hr hl h

theorem rdropWhile_isEmpty (h : Remarked plain full) :
    Remarked (plain.rdropWhile List.isEmpty) (full.rdropWhile List.isEmpty) := by
  induction h with
  | nil => exact .nil
  | @same l plain full _ ih =>
    rw [rdropWhile_cons _ l plain, rdropWhile_cons _ l full]
    by_cases hplain : plain.rdropWhile List.isEmpty = []
    · rw [if_pos hplain, if_pos (ih.eq_nil_iff.mp hplain)]
      exact refl _
    · rw [if_neg hplain, if_neg (mt ih.eq_nil_iff.mpr hplain)]
      exact .same l ih
  | @remark column r l plain full hr hl _ ih =>
    -- The line after the remark stays, so the remark does.
    have hl' : ∃ rest, (l :: plain).rdropWhile List.isEmpty = l :: rest := by
      rw [rdropWhile_cons]
      split
      next => exact ⟨[], by simp [List.rdropWhile_singleton, hl.isEmpty_eq]⟩
      next => exact ⟨_, rfl⟩
    obtain ⟨rest, hrest⟩ := hl'
    rw [hrest] at ih ⊢
    have hfull : full.rdropWhile List.isEmpty ≠ [] := mt ih.eq_nil_iff.mpr (List.cons_ne_nil _ _)
    rw [rdropWhile_cons, if_neg hfull]
    exact .remark hr hl ih

/-- A remark and the line after it are moved together, or fail together. -/
theorem mapM_reindentLine [Machine] (h : Remarked plain full) (width : Int) :
    Alike Remarked (plain.mapM (Layout.reindentLine width))
      (full.mapM (Layout.reindentLine width)) := by
  induction h with
  | nil => exact .ok .nil
  | same l _ ih =>
    rw [List.mapM_cons, List.mapM_cons]
    exact .bind_left _ fun moved => ih.bind fun _ _ hrest => .ok (.same moved hrest)
  | @remark column r l plain full hr hl _ ih =>
    rw [List.mapM_cons] at ih ⊢
    rw [List.mapM_cons, reindentLine_of_startsAt hr.startsAt width]
    rw [reindentLine_of_startsAt hl width] at ih ⊢
    cases hspaces : Layout.spaces (Layout.widened width column) with
    | error m => exact .error m
    | ok blanks =>
      rw [hspaces] at ih
      obtain rfl := eq_replicate_of_spaces hspaces
      refine ih.bind_right fun ls ms hls hrest => ?_
      -- What comes first of the moved lines is the line after the remark.
      obtain ⟨moved, hmoved, hmore⟩ := bind_eq_ok.mp hls
      obtain ⟨rest, -, hrest'⟩ := bind_eq_ok.mp hmore
      obtain rfl := Except.ok.inj hmoved
      obtain rfl := Except.ok.inj hrest'
      exact .ok (.remark (hr.move _) (hl.move _) hrest)

end Remarked

/-! ## §4. Texts with remarks. -/

/-- A text is another one with remarks. -/
def IsRemarked (plain full : List Char) : Prop :=
  Remarked (lines plain) (lines full)

namespace IsRemarked

variable {plain full : List Char}

theorem unlines {ls ms : List (List Char)} (h : Remarked ls ms) (hl : ∀ l ∈ ls, '\n' ∉ l)
    (hm : ∀ m ∈ ms, '\n' ∉ m) : IsRemarked (unlines ls) (unlines ms) := by
  unfold IsRemarked
  by_cases hls : ls = []
  · rw [hls, h.eq_nil_iff.mp hls]
    exact .refl _
  · rw [lines_unlines hl hls, lines_unlines hm (mt h.eq_nil_iff.mpr hls)]
    exact h

theorem refl (s : List Char) : IsRemarked s s :=
  Remarked.refl (lines s)

/-- Texts that go on after a line feed. -/
theorem append {plain' full' : List Char} (h : IsRemarked plain full)
    (h' : IsRemarked plain' full') :
    IsRemarked (plain ++ '\n' :: plain') (full ++ '\n' :: full') := by
  unfold IsRemarked lines
  rw [cutAt_append, cutAt_append]
  exact Remarked.append h h'

theorem stripOf (h : IsRemarked plain full) :
    IsRemarked (stripOf '\n' plain) (stripOf '\n' full) := by
  have hplain : ∀ l ∈ lines plain, '\n' ∉ l := fun l hl => not_mem_of_mem_cutAt hl
  have hfull : ∀ l ∈ lines full, '\n' ∉ l := fun l hl => not_mem_of_mem_cutAt hl
  have hcut := unlines (Remarked.rdropWhile_isEmpty (Remarked.dropWhile_isEmpty h))
    (fun l hl => hplain l (((List.dropWhile_suffix _).subset ((List.rdropWhile_prefix ..).subset hl))))
    (fun l hl => hfull l (((List.dropWhile_suffix _).subset ((List.rdropWhile_prefix ..).subset hl))))
  rw [← stripOf_unlines hplain, ← stripOf_unlines hfull] at hcut
  rwa [Text.unlines, Text.unlines, lines, lines, joinWith_cutAt, joinWith_cutAt] at hcut

theorem tidy (h : IsRemarked plain full) : IsRemarked (Layout.tidy plain) (Layout.tidy full) := by
  have hlines : ∀ s, ∀ l ∈ Layout.collapseFrom false ((lines s).map stripEnd), '\n' ∉ l :=
    fun s l => Layout.not_mem_of_mem_collapseFrom
  have hcollapsed := Remarked.collapseFrom (Remarked.map_stripEnd h) false
  exact (unlines hcollapsed (hlines _) (hlines _)).stripOf.append (refl [])

theorem reindent [Machine] (h : IsRemarked plain full) (width : Int) :
    Alike IsRemarked (Layout.reindent width plain) (Layout.reindent width full) := by
  have hlines : ∀ s ls, (lines s).mapM (Layout.reindentLine width) = .ok ls → ∀ l ∈ ls, '\n' ∉ l :=
    fun s ls hls l hl => by
      obtain ⟨line, hline, hmoved⟩ := exists_right_of_forall₂ (mapM_eq_ok.mp hls).flip hl
      exact not_mem_of_reindentLine hmoved (not_mem_of_mem_cutAt hline)
  have hmoved := (Remarked.mapM_reindentLine h width).imp fun ls ms hls hms hlm =>
    unlines hlm (hlines plain ls hls) (hlines full ms hms)
  exact hmoved.map fun _ _ hall => hall

/-- **A text with remarks is laid out like the text without them**: both fail in the same way, or
both give texts that differ by remarks alone. -/
theorem format [Machine] {plain full : String} (h : IsRemarked plain.toList full.toList)
    (width : Json) :
    Alike (fun s t : String => IsRemarked s.toList t.toList) (Layout.format width plain)
      (Layout.format width full) := by
  have hstrings : ∀ s t, IsRemarked s t →
      IsRemarked (String.ofList s).toList (String.ofList t).toList := fun s t hst => by
    rwa [String.toList_ofList, String.toList_ofList]
  unfold Layout.format
  dsimp only
  split
  next => exact .ok (hstrings _ _ h.tidy)
  next =>
    split
    next => exact (h.tidy.reindent _).map hstrings
    next => exact .error _

theorem codeLines_eq {plain full : String} (h : IsRemarked plain.toList full.toList) :
    codeLines plain = codeLines full :=
  Remarked.filter_eq h

end IsRemarked

end ScriptingBindings.Text
