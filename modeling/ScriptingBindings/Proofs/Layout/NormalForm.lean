/-
  ScriptingBindings.Proofs.Layout.NormalForm
  ──────────────────────────────────
  **A LAID OUT TEXT IS IN A NORMAL FORM.**

  It ends with a line feed, no line of it ends with a blank, no two blank lines
  stand in a row, and it starts with one only if there is nothing else.  A tidy
  text is not changed by tidying it again.

  Laying out keeps what the lines hold.  In front of them, another width of a
  level changes the number of spaces alone, from `w` to

      width * (w / 4) + w % 4

  and to none where that is below zero.
-/
import Mathlib.Data.List.Chain
import ScriptingBindings.Proofs.Layout.Remarks

namespace ScriptingBindings.Text

/-! ## §1. Lines without blanks at their ends. -/

section Stripped

variable {line : List Char}

theorem stripEnd_stripEnd (line : List Char) : stripEnd (stripEnd line) = stripEnd line :=
  List.rdropWhile_idempotent isBlank line

/-- A line is stripped if its last character is not blank. -/
theorem stripEnd_eq_self_iff : stripEnd line = line ↔ ∀ c ∈ line.getLast?, isBlank c = false := by
  refine (List.rdropWhile_eq_self_iff (p := isBlank)).trans ?_
  by_cases hline : line = []
  · subst hline
    simp
  · rw [List.getLast?_eq_some_getLast hline]
    simp [hline]

theorem stripEnd_eq_nil_iff : stripEnd line = [] ↔ isAllBlank line = true :=
  List.rdropWhile_eq_nil_iff.trans List.all_eq_true.symm

theorem isAllBlank_stripEnd (line : List Char) : isAllBlank (stripEnd line) = isAllBlank line := by
  rw [Bool.eq_iff_iff, ← stripEnd_eq_nil_iff, ← stripEnd_eq_nil_iff, stripEnd_stripEnd]

/-- A stripped line is blank only if it is empty. -/
theorem isAllBlank_of_stripEnd_eq (h : stripEnd line = line) : isAllBlank line = line.isEmpty := by
  rw [Bool.eq_iff_iff, ← stripEnd_eq_nil_iff, h, List.isEmpty_iff]

/-- A text is blank where all of its lines are. -/
theorem isAllBlank_iff_lines (s : List Char) :
    isAllBlank s = true ↔ ∀ line ∈ lines s, isAllBlank line = true := by
  unfold lines
  induction s with
  | nil => simp [cutAt, isAllBlank]
  | cons c s ih =>
    have hcons : isAllBlank (c :: s) = true ↔ isBlank c = true ∧ isAllBlank s = true := by
      simp [isAllBlank]
    rw [cutAt, hcons, ih]
    split
    next hc =>
      subst hc
      simp [isAllBlank, show isBlank '\n' = true from rfl]
    next =>
      cases hs : cutAt '\n' s with
      | nil => exact absurd hs (cutAt_ne_nil '\n' s)
      | cons part parts => simp [isAllBlank, and_assoc]

end Stripped

/-! ## §2. Spaces in front of lines. -/

/-- The number of spaces in front of a line. -/
def leading (line : List Char) : Nat :=
  (line.takeWhile (· == ' ')).length

/-- A line without the spaces in front of it. -/
def unindented (line : List Char) : List Char :=
  line.dropWhile (· == ' ')

theorem replicate_leading (line : List Char) :
    List.replicate (leading line) ' ' ++ unindented line = line := by
  have hspaces : line.takeWhile (· == ' ') = List.replicate (leading line) ' ' :=
    List.eq_replicate_iff.mpr
      ⟨rfl, fun c hc => beq_iff_eq.mp (List.mem_takeWhile_imp (p := (· == ' ')) hc)⟩
  rw [← hspaces, unindented, List.takeWhile_append_dropWhile]

/-- Spaces in front of a line do not matter for whether it is blank. -/
theorem isAllBlank_unindented (line : List Char) :
    isAllBlank (unindented line) = isAllBlank line := by
  conv_rhs => rw [← replicate_leading line]
  rw [isAllBlank, isAllBlank, List.all_append, List.all_replicate, show isBlank ' ' = true from rfl]
  simp

section Replicated

variable (n : Nat) (line : List Char)

theorem unindented_replicate :
    unindented (List.replicate n ' ' ++ unindented line) = unindented line := by
  have hspaces : ∀ c ∈ List.replicate n ' ', (c == ' ') = true := fun c hc =>
    beq_iff_eq.mpr (List.eq_of_mem_replicate hc)
  rw [unindented, List.dropWhile_append_of_pos hspaces]
  exact List.dropWhile_idempotent (· == ' ') line

theorem leading_replicate : leading (List.replicate n ' ' ++ unindented line) = n := by
  have hlength := congrArg List.length
    (replicate_leading (List.replicate n ' ' ++ unindented line))
  rw [unindented_replicate] at hlength
  simpa using hlength

end Replicated

/-- What a line holds, without the blanks at its end and the spaces in front of it. -/
def content (line : List Char) : List Char :=
  unindented (stripEnd line)

/-- What the lines hold that are not blank, in order. -/
def contents (s : List Char) : List (List Char) :=
  ((lines s).filter (fun line => !isAllBlank line)).map content

/-! ## §3. Moved lines. -/

/-- A line and the same line with another width of a level. -/
structure IsMoved (width : Int) (line moved : List Char) : Prop where
  leading_eq : leading moved
    = (width * (leading line / 4 : Nat) + (leading line % 4 : Nat)).toNat
  unindented_eq : unindented moved = unindented line

namespace IsMoved

variable {width : Int} {line moved : List Char}

/-- With the width that it is written with a line stays where it is. -/
theorem refl (line : List Char) : IsMoved 4 line line where
  leading_eq := by omega
  unindented_eq := rfl

theorem isAllBlank_eq (h : IsMoved width line moved) : isAllBlank moved = isAllBlank line := by
  rw [← isAllBlank_unindented, h.unindented_eq, isAllBlank_unindented]

/-- An empty line stays empty. -/
theorem eq_nil (h : IsMoved width [] moved) : moved = [] := by
  have hmoved := replicate_leading moved
  rw [h.unindented_eq, h.leading_eq] at hmoved
  rw [← hmoved]
  simp [leading, unindented]

theorem stripEnd_eq (h : IsMoved width line moved) (hline : stripEnd line = line) :
    stripEnd moved = moved := by
  by_cases hrest : unindented line = []
  · -- A line of spaces is stripped only if it has none.
    have hblank : isAllBlank line = true := by
      rw [← isAllBlank_unindented, hrest]
      rfl
    rw [isAllBlank_of_stripEnd_eq hline, List.isEmpty_iff] at hblank
    subst hblank
    rw [h.eq_nil]
    rfl
  · have hlast : ∀ l, unindented l = unindented line → l.getLast? = (unindented line).getLast? := by
      intro l hl
      rw [← replicate_leading l, hl, List.getLast?_append_of_ne_nil _ hrest]
    rw [stripEnd_eq_self_iff] at hline ⊢
    rwa [hlast moved h.unindented_eq, ← hlast line rfl]

theorem content_eq (h : IsMoved width line moved) (hline : stripEnd line = line) :
    content moved = content line := by
  rw [content, content, h.stripEnd_eq hline, hline, h.unindented_eq]

end IsMoved

end ScriptingBindings.Text

namespace ScriptingBindings.Layout

open Text

/-- Laying out a line moves it. -/
theorem isMoved_of_reindentLine [Machine] {width : Int} {line moved : List Char}
    (h : reindentLine width line = .ok moved) : IsMoved width line moved := by
  have hspan : line.span (· == ' ') = (line.takeWhile (· == ' '), unindented line) :=
    List.span_eq_takeWhile_dropWhile _ _
  rw [reindentLine, hspan] at h
  obtain ⟨blanks, hblanks, rfl⟩ := map_eq_ok.mp h
  have hcount : blanks = List.replicate (widened width (leading line)).toNat ' ' :=
    eq_replicate_of_spaces hblanks
  subst hcount
  refine ⟨?_, unindented_replicate _ line⟩
  rw [leading_replicate, widened, writtenWidth, Int.mul_comm]

/-! ## §4. The normal form. -/

/-- A text in normal form. -/
structure IsNormal (text : List Char) : Prop where
  ended : ['\n'] <:+ text
  /-- No line ends with a blank. -/
  stripped : ∀ line ∈ lines text, stripEnd line = line
  /-- Of the lines before the last line feed no two blank ones stand in a row. -/
  single : (lines text).dropLast.IsChain (fun line next => isAllBlank line → ¬ isAllBlank next)

/-- A text ends with a line feed if it has an empty line after some others. -/
theorem ended_iff_lines {text : List Char} :
    ['\n'] <:+ text ↔ ∃ ls ≠ [], lines text = ls ++ [[]] := by
  constructor
  · rintro ⟨front, rfl⟩
    exact ⟨lines front, cutAt_ne_nil '\n' front, cutAt_append '\n' front []⟩
  · rintro ⟨ls, hne, hlines⟩
    refine ⟨unlines ls, ?_⟩
    rw [← unlines_concat hne, ← hlines]
    exact joinWith_cutAt '\n' text

/-- Lines that make a text in normal form. -/
theorem isNormal_of_lines {text : List Char} {ls : List (List Char)} (hne : ls ≠ [])
    (hlines : lines text = ls ++ [[]]) (hstripped : ∀ line ∈ ls, stripEnd line = line)
    (hsingle : ls.IsChain (fun line next => isAllBlank line → ¬ isAllBlank next)) :
    IsNormal text where
  ended := ended_iff_lines.mpr ⟨ls, hne, hlines⟩
  stripped := by
    rw [hlines]
    exact List.forall_mem_append.mpr ⟨hstripped, List.forall_mem_singleton.mpr rfl⟩
  single := by rwa [hlines, List.dropLast_concat]

section Moved

variable {width : Int} {text moved : List Char}

/-- **Moving lines keeps the normal form.** -/
theorem IsNormal.move (h : IsNormal text)
    (hmoved : List.Forall₂ (IsMoved width) (lines text) (lines moved)) : IsNormal moved := by
  obtain ⟨ls, hne, hls⟩ := ended_iff_lines.mp h.ended
  rw [hls] at hmoved
  -- The last line is empty on both sides.
  have hbefore := (List.forall₂_take_append _ _ _ hmoved.flip).flip
  have hafter := (List.forall₂_drop_append _ _ _ hmoved.flip).flip
  obtain ⟨last, rest, hlast, hrest, hdrop⟩ := List.forall₂_cons_left_iff.mp hafter
  rw [List.forall₂_nil_left_iff.mp hrest, hlast.eq_nil] at hdrop
  generalize hms : (lines moved).take ls.length = ms at hbefore
  have hlines : lines moved = ms ++ [[]] := by
    rw [← hms, ← hdrop, List.take_append_drop]
  have hstripped : ∀ line ∈ ms, stripEnd line = line := by
    intro m hm
    obtain ⟨line, hline, hmove⟩ := exists_right_of_forall₂ hbefore.flip hm
    exact hmove.stripEnd_eq (h.stripped line (hls ▸ List.mem_append_left _ hline))
  have hblank : ms.map isAllBlank = ls.map isAllBlank := by
    clear * - hbefore
    induction hbefore with
    | nil => rfl
    | cons hmove _ ih => rw [List.map_cons, List.map_cons, hmove.isAllBlank_eq, ih]
  refine isNormal_of_lines (fun hnil => hne ?_) hlines hstripped ?_
  · rw [hnil] at hblank
    exact List.map_eq_nil_iff.mp hblank.symm
  · have hsingle := h.single
    rw [hls, List.dropLast_concat] at hsingle
    rw [← List.isChain_map (R := fun a b : Bool => a = true → ¬ b = true)] at hsingle ⊢
    rwa [hblank]

/-- Moved lines hold what they held before. -/
theorem contents_of_forall₂ (h : ∀ line ∈ lines text, stripEnd line = line)
    (hmoved : List.Forall₂ (IsMoved width) (lines text) (lines moved)) :
    contents moved = contents text := by
  unfold contents
  generalize lines text = ls at h hmoved
  generalize lines moved = ms at hmoved
  induction hmoved with
  | nil => rfl
  | @cons line next ls ms hline _ ih =>
    obtain ⟨hstripped, hls⟩ := List.forall_mem_cons.mp h
    rw [List.filter_cons, List.filter_cons, hline.isAllBlank_eq]
    split
    next => rw [List.map_cons, List.map_cons, ih hls, hline.content_eq hstripped]
    next => exact ih hls

end Moved

/-! ## §5. Tidy texts. -/

/-- Neither line is blank, or only one of them. -/
def IsSingle (line next : List Char) : Prop := line = [] → next ≠ []

/-- Of blank lines in a row the first is kept. -/
theorem isChain_collapseFrom (afterBlank : Bool) (ls : List (List Char)) :
    (collapseFrom afterBlank ls).IsChain IsSingle ∧
      (afterBlank = true → ∀ line ∈ (collapseFrom afterBlank ls).head?, line ≠ []) := by
  induction ls generalizing afterBlank with
  | nil => exact ⟨.nil, fun _ line hline => absurd hline (by simp [collapseFrom])⟩
  | cons line ls ih =>
    unfold collapseFrom
    split
    next hline =>
      split
      next hafter => exact ⟨(ih true).1, fun _ => (ih true).2 rfl⟩
      next hafter =>
        refine ⟨List.isChain_cons.mpr ⟨fun next hnext _ => (ih true).2 rfl next hnext, (ih true).1⟩, ?_⟩
        exact fun h => absurd h hafter
    next hline =>
      have hne : line ≠ [] := by simpa using hline
      refine ⟨List.isChain_cons.mpr ⟨fun _ _ h => absurd h hne, (ih false).1⟩, fun _ l hl => ?_⟩
      rw [List.head?_cons, Option.mem_some_iff] at hl
      exact hl ▸ hne

/-- Nothing is left out where no two blank lines stand in a row. -/
theorem collapseFrom_eq_self {afterBlank : Bool} {ls : List (List Char)} (h : ls.IsChain IsSingle)
    (hstart : afterBlank = true → ∀ line ∈ ls.head?, line ≠ []) : collapseFrom afterBlank ls = ls := by
  induction ls generalizing afterBlank with
  | nil => rfl
  | cons line ls ih =>
    obtain ⟨hnext, hls⟩ := List.isChain_cons.mp h
    unfold collapseFrom
    split
    next hline =>
      rw [List.isEmpty_iff] at hline
      rw [if_neg (fun hafter => hstart hafter line rfl hline),
        ih hls (fun _ next hmem => hnext next hmem hline)]
    next => rw [ih hls (fun h => absurd h Bool.false_ne_true)]

/-- The lines of a tidy text, but for the empty one at its end. -/
structure AreTidy (ls : List (List Char)) : Prop where
  stripped : ∀ line ∈ ls, stripEnd line = line
  not_mem : ∀ line ∈ ls, '\n' ∉ line
  single : ls.IsChain IsSingle
  start : ∀ line ∈ ls.head?, line ≠ []
  last : ∀ line ∈ ls.getLast?, line ≠ []

/-- The lines that tidying keeps. -/
def tidyLines (s : List Char) : List (List Char) :=
  ((collapseFrom false ((lines s).map stripEnd)).dropWhile List.isEmpty).rdropWhile List.isEmpty

theorem areTidy_tidyLines (s : List Char) : AreTidy (tidyLines s) := by
  have hinit := List.rdropWhile_prefix List.isEmpty
    (l := (collapseFrom false ((lines s).map stripEnd)).dropWhile List.isEmpty)
  have hsuffix := List.dropWhile_suffix List.isEmpty
    (l := collapseFrom false ((lines s).map stripEnd))
  have hline : ∀ line ∈ tidyLines s, ∃ l ∈ lines s, stripEnd l = line := fun line hmem =>
    List.mem_map.mp ((collapseFrom_sublist _ _).subset (hsuffix.subset (hinit.subset hmem)))
  refine ⟨?_, ?_, ?_, ?_, ?_⟩
  · intro line hmem
    obtain ⟨l, -, rfl⟩ := hline line hmem
    exact stripEnd_stripEnd l
  · intro line hmem
    obtain ⟨l, hl, rfl⟩ := hline line hmem
    exact not_mem_stripEnd (not_mem_of_mem_cutAt hl)
  · exact List.IsChain.prefix ((isChain_collapseFrom false _).1.suffix hsuffix) hinit
  · intro line hmem hempty
    obtain ⟨rest, hrest⟩ := List.head?_eq_some_iff.mp hmem
    -- The first line is the first that was not dropped.
    obtain ⟨more, hmore⟩ := hinit
    change tidyLines s ++ more = _ at hmore
    have hdrop := List.dropWhile_idempotent List.isEmpty
      (collapseFrom false ((lines s).map stripEnd))
    rw [← hmore, hrest, hempty, List.cons_append, List.dropWhile_cons_of_pos rfl] at hdrop
    have hlength := (List.dropWhile_suffix List.isEmpty (l := rest ++ more)).length_le
    rw [hdrop, List.length_cons] at hlength
    omega
  · intro line hmem hempty
    have hne : tidyLines s ≠ [] := fun hnil => absurd hmem (by simp [hnil])
    refine List.rdropWhile_last_not List.isEmpty _ hne ?_
    rw [Option.mem_def, List.getLast?_eq_some_getLast hne, Option.some.injEq] at hmem
    exact List.isEmpty_iff.mpr (hmem.trans hempty)

theorem tidy_eq (s : List Char) : tidy s = unlines (tidyLines s) ++ ['\n'] := by
  rw [tidy, stripOf_unlines]
  · rfl
  · exact fun line => not_mem_of_mem_collapseFrom

namespace AreTidy

variable {ls : List (List Char)}

theorem lines_eq (h : AreTidy ls) (hne : ls ≠ []) : lines (unlines ls ++ ['\n']) = ls ++ [[]] := by
  rw [← unlines_concat hne, lines_unlines _ (by simp)]
  exact List.forall_mem_append.mpr ⟨h.not_mem, List.forall_mem_singleton.mpr List.not_mem_nil⟩

theorem map_stripEnd (h : AreTidy ls) : ls.map stripEnd = ls := by
  rw [List.map_congr_left h.stripped, List.map_id']

/-- **Tidying changes no lines that are tidy.** -/
theorem tidy_eq (h : AreTidy ls) : tidy (unlines ls ++ ['\n']) = unlines ls ++ ['\n'] := by
  cases ls with
  | nil => rfl
  | cons line rest =>
    have hsingle : ((line :: rest) ++ [[]]).IsChain IsSingle :=
      List.isChain_append.mpr ⟨h.single, .singleton [], fun l hl _ _ he => absurd he (h.last l hl)⟩
    rw [Layout.tidy_eq (unlines (line :: rest) ++ ['\n']), tidyLines, h.lines_eq (by simp),
      List.map_append, h.map_stripEnd]
    have hcollapse : collapseFrom false ((line :: rest) ++ [[]].map stripEnd)
        = (line :: rest) ++ [[]] := collapseFrom_eq_self hsingle (by simp)
    -- Neither the first line nor the one before the empty line is dropped.
    have hfirst : ¬ line.isEmpty = true := by simpa using h.start line rfl
    have hlast : (line :: rest).rdropWhile List.isEmpty = line :: rest := by
      refine List.rdropWhile_eq_self_iff.mpr fun hne hempty => ?_
      exact h.last _ (List.getLast?_eq_some_getLast hne) (List.isEmpty_iff.mp hempty)
    rw [hcollapse, List.cons_append, List.dropWhile_cons_of_neg hfirst, ← List.cons_append,
      List.rdropWhile_concat_pos _ _ _ rfl, hlast]

end AreTidy

/-- **A tidy text stays as it is.** -/
theorem tidy_tidy (s : List Char) : tidy (tidy s) = tidy s := by
  rw [tidy_eq s, (areTidy_tidyLines s).tidy_eq]

theorem lines_tidy {s : List Char} (h : tidyLines s ≠ []) :
    lines (tidy s) = tidyLines s ++ [[]] := by
  rw [tidy_eq, (areTidy_tidyLines s).lines_eq h]

theorem tidy_of_tidyLines_eq_nil {s : List Char} (h : tidyLines s = []) : tidy s = ['\n'] := by
  rw [tidy_eq, h]
  rfl

theorem isNormal_tidy (s : List Char) : IsNormal (tidy s) := by
  have htidy := areTidy_tidyLines s
  by_cases h : tidyLines s = []
  · rw [tidy_of_tidyLines_eq_nil h]
    exact isNormal_of_lines (List.cons_ne_nil [] []) rfl (by decide) (.singleton [])
  · refine isNormal_of_lines h (lines_tidy h) htidy.stripped ?_
    refine htidy.single.imp_of_mem_imp fun line next hline hnext hsingle => ?_
    rw [isAllBlank_of_stripEnd_eq (htidy.stripped line hline),
      isAllBlank_of_stripEnd_eq (htidy.stripped next hnext), List.isEmpty_iff, List.isEmpty_iff]
    exact hsingle

theorem contents_tidy (s : List Char) : contents (tidy s) = contents s := by
  have hkept : (lines (tidy s)).filter (fun line => !isAllBlank line) = contentLines (tidy s) :=
    List.filter_congr fun line hline => by
      rw [isAllBlank_of_stripEnd_eq ((isNormal_tidy s).stripped line hline)]
  have hblank : (fun line => !List.isEmpty line) ∘ stripEnd = fun line => !isAllBlank line := by
    funext line
    rw [Function.comp_apply, ← isAllBlank_of_stripEnd_eq (stripEnd_stripEnd line),
      isAllBlank_stripEnd]
  rw [contents, hkept, contentLines_tidy, List.filter_map, hblank, List.map_map, contents]
  refine List.map_congr_left fun line _ => ?_
  rw [Function.comp_apply, content, content, stripEnd_stripEnd]

/-- A tidy text starts with a blank line only if there is nothing else. -/
theorem isAllBlank_of_start {s : List Char} {line : List Char}
    (hline : line ∈ (lines (tidy s)).head?) (hblank : isAllBlank line = true) :
    isAllBlank s = true := by
  by_cases h : tidyLines s = []
  · -- Nothing was left, so no line had content.
    have hnone := contents_tidy s
    rw [tidy_of_tidyLines_eq_nil h] at hnone
    rw [isAllBlank_iff_lines]
    intro l hl
    by_contra hcontent
    have hmem : content l ∈ contents s :=
      List.mem_map_of_mem (List.mem_filter.mpr ⟨hl, by simpa using hcontent⟩)
    have hempty : contents ['\n'] = [] := by decide
    rw [← hnone, hempty] at hmem
    exact absurd hmem List.not_mem_nil
  · have htidy := areTidy_tidyLines s
    rw [lines_tidy h, List.head?_append_of_ne_nil _ h] at hline
    rw [isAllBlank_of_stripEnd_eq (htidy.stripped line (List.mem_of_mem_head? hline)),
      List.isEmpty_iff] at hblank
    exact absurd hblank (htidy.start line hline)

/-! ## §6. Laid out texts. -/

/-- A text that was laid out with some width, beside the same text with the width that it is
written with. -/
structure IsLaidOut (width : Int) (s written text : List Char) : Prop where
  isNormal : IsNormal text
  /-- It starts with a blank line only if nothing else was there. -/
  start : ∀ line ∈ (lines text).head?, isAllBlank line = true → isAllBlank s = true
  contents_eq : contents text = contents s
  moved : List.Forall₂ (IsMoved width) (lines written) (lines text)

theorem isLaidOut_tidy (s : List Char) : IsLaidOut 4 s (tidy s) (tidy s) where
  isNormal := isNormal_tidy s
  start _ := isAllBlank_of_start
  contents_eq := contents_tidy s
  moved := List.forall₂_same.mpr fun line _ => IsMoved.refl line

/-- The lines of a text with another width are those of the tidy text, moved. -/
theorem forall₂_of_reindent [Machine] {width : Int} {s text : List Char}
    (h : reindent width s = .ok text) :
    List.Forall₂ (IsMoved width) (lines s) (lines text) := by
  obtain ⟨ls, hls, rfl⟩ := map_eq_ok.mp h
  have hmoved := mapM_eq_ok.mp hls
  have hne : ls ≠ [] := by
    rintro rfl
    exact cutAt_ne_nil '\n' s (List.forall₂_nil_right_iff.mp hmoved)
  rw [lines_unlines _ hne]
  · exact hmoved.imp fun _ _ => isMoved_of_reindentLine
  · intro l hl
    obtain ⟨line, hline, hmove⟩ := exists_right_of_forall₂ hmoved.flip hl
    exact not_mem_of_reindentLine hmove (not_mem_of_mem_cutAt hline)

theorem isLaidOut_of_forall₂ {width : Int} {s text : List Char}
    (h : List.Forall₂ (IsMoved width) (lines (tidy s)) (lines text)) :
    IsLaidOut width s (tidy s) text where
  isNormal := (isNormal_tidy s).move h
  start := by
    intro line hline hblank
    generalize hls : lines (tidy s) = ls at h
    generalize lines text = ms at h hline
    cases h with
    | nil => exact absurd hline (by simp)
    | @cons first _ _ _ hmove _ =>
      rw [List.head?_cons, Option.mem_some_iff] at hline
      have hfirst : first ∈ (lines (tidy s)).head? := by rw [hls]; rfl
      refine isAllBlank_of_start hfirst ?_
      rwa [← hmove.isAllBlank_eq, hline]
  contents_eq := by
    rw [contents_of_forall₂ (isNormal_tidy s).stripped h, contents_tidy]
  moved := h

theorem format_written [Machine] (s : String) :
    format (.int 4) s = .ok (String.ofList (tidy s.toList)) := rfl

theorem isLaidOut_of_format [Machine] {width : Int} {s text : String}
    (h : format (.int width) s = .ok text) :
    IsLaidOut width s.toList (tidy s.toList) text.toList := by
  by_cases hwidth : width = 4
  · subst hwidth
    rw [format_written, Except.ok.injEq] at h
    rw [← h, String.toList_ofList]
    exact isLaidOut_tidy s.toList
  · have hwritten : ¬ isWrittenWidth (.int width) = true := by simp [isWrittenWidth, hwidth]
    rw [format, if_neg hwritten] at h
    obtain ⟨moved, hmoved, rfl⟩ := map_eq_ok.mp h
    rw [String.toList_ofList]
    exact isLaidOut_of_forall₂ (forall₂_of_reindent hmoved)

/-- **Laying out gives a normal form and keeps the content.**  There is a text wherever the
indentation of every line can be counted with and kept; it is in normal form, it holds what was
there, and its lines stand as far in as the width asks for.  With the width that text is written
with there always is a text, and laying it out again does not change it. -/
theorem format_isLaidOut [Machine] (width : Int) (s : String) :
    ((∃ text, format (.int width) s = .ok text) ↔ CanFormat width s) ∧
      ∃ written, format (.int 4) s = .ok written ∧ format (.int 4) written = .ok written ∧
        ∀ text, format (.int width) s = .ok text →
          IsLaidOut width s.toList written.toList text.toList := by
  refine ⟨exists_format_iff width s, String.ofList (tidy s.toList), format_written s, ?_, ?_⟩
  · rw [format_written, String.toList_ofList, tidy_tidy]
  · intro text h
    rw [String.toList_ofList]
    exact isLaidOut_of_format h

section Usual

attribute [local instance] Machine.usual

/-- Blank lines in front and in a row, blanks behind, and a line that stands a level and two
spaces in. -/
theorem format_isLaidOut_block :
    format (.int 2) " \n\x7b\t\n\n\t\n      b" = .ok "\x7b\n\n    b\n" ∧
      ∃ written, format (.int 4) " \n\x7b\t\n\n\t\n      b" = .ok written ∧
        format (.int 4) written = .ok written ∧
        IsLaidOut 2 " \n\x7b\t\n\n\t\n      b".toList written.toList
          "\x7b\n\n    b\n".toList := by
  have htext : format (.int 2) " \n\x7b\t\n\n\t\n      b" = .ok "\x7b\n\n    b\n" := by decide
  obtain ⟨-, written, hwritten, hagain, hlaid⟩ :=
    format_isLaidOut 2 " \n\x7b\t\n\n\t\n      b"
  exact ⟨htext, written, hwritten, hagain, hlaid _ htext⟩

/-- **A width below zero takes from the spaces that are left over**: what is left is not the
`w % 4` spaces beyond the last full level. -/
theorem leftover_spaces_taken :
    ¬ ∀ (width : Int) (s written text : String), format (.int 4) s = .ok written →
      format (.int width) s = .ok text →
      List.Forall₂ (fun line moved => isAllBlank line = false →
          (leading moved : Int) = max width 0 * (leading line / 4 : Nat) + (leading line % 4 : Nat))
        (lines written.toList) (lines text.toList) := by
  intro h
  have hmoved := h (-1) "      x" "      x\n" " x\n" (by decide) (by decide)
  obtain ⟨hline, -⟩ := List.forall₂_cons.mp hmoved
  exact absurd (hline (by decide)) (by decide)

end Usual

end ScriptingBindings.Layout
