/-
  ScriptingBindings.Proofs.Identifier.Words
  ──────────────────────────────────
  **WORDS ARE MAXIMAL RUNS.**

  Punctuation is replaced one character after the other, each in the whole
  name.  No replacement brings in a character that is replaced itself, so all
  of them can be made at once, and their order is free:

      replaceAll punctuation name = name.flatMap (replacement punctuation)

  The words are then found in one scan: they are the runs of word characters
  other than the underscore that cannot be made longer on either side.

      copy & paste_v2 (C#)  →  copy And paste_v2 CHash  →  copy, And, paste, v2, CHash
-/
import ScriptingBindings.Identifier.Words
import ScriptingBindings.Proofs.Text.CodePoints

namespace ScriptingBindings.Identifier

open Text

/-! ## §1. Replacing at once. -/

section Replacing

variable {table order : List (Char × String)} {e : Char × String} {c : Char} {s : List Char}

/-- What a table puts in the place of a character: the text listed for it, or itself. -/
def replacement (table : List (Char × String)) (c : Char) : List Char :=
  ((table.lookup c).map String.toList).getD [c]

/-- No character is listed twice, and no text that is put in holds a listed character. -/
structure IsIndependent (table : List (Char × String)) : Prop where
  nodup : (table.map Prod.fst).Nodup
  apart : ∀ e ∈ table, ∀ c ∈ e.2.toList, c ∉ table.map Prod.fst

/-- The replacements of punctuation are independent of each other. -/
theorem isIndependent_punctuation : IsIndependent punctuation where
  nodup := by decide
  apart := by
    have hall : punctuation.all (fun e => e.2.toList.all fun c =>
        !(punctuation.map Prod.fst).contains c) = true := by decide
    intro e he c hc hmem
    have hc := List.all_eq_true.mp (List.all_eq_true.mp hall e he) c hc
    rw [List.contains_iff_mem.mpr hmem] at hc
    exact absurd hc (by decide)

theorem IsIndependent.tail (h : IsIndependent (e :: table)) : IsIndependent table where
  nodup := (List.nodup_cons.mp h.nodup).2
  apart := fun d hd c hc hmem =>
    h.apart d (List.mem_cons_of_mem e hd) c hc (List.mem_cons_of_mem e.1 hmem)

theorem IsIndependent.of_perm (h : IsIndependent table) (horder : order.Perm table) :
    IsIndependent order where
  nodup := (horder.map Prod.fst).nodup_iff.mpr h.nodup
  apart := fun d hd c hc hmem =>
    h.apart d (horder.mem_iff.mp hd) c hc ((horder.map Prod.fst).mem_iff.mp hmem)

theorem replacement_cons (e : Char × String) (table : List (Char × String)) (c : Char) :
    replacement (e :: table) c = if c = e.1 then e.2.toList else replacement table c := by
  unfold replacement
  rw [List.lookup_cons]
  by_cases hc : c = e.1
  · rw [if_pos hc, beq_iff_eq.mpr hc]
    rfl
  · rw [if_neg hc, beq_eq_false_iff_ne.mpr hc]

/-- A character that is not listed stays. -/
theorem replacement_of_not_mem (h : c ∉ table.map Prod.fst) : replacement table c = [c] := by
  induction table with
  | nil => rfl
  | cons e table ih =>
    obtain ⟨hne, hrest⟩ := not_or.mp (mt List.mem_cons.mpr h)
    rw [replacement_cons, if_neg hne, ih hrest]

/-- Of a listed character its text is put in. -/
theorem replacement_of_mem (hnodup : (table.map Prod.fst).Nodup) (h : e ∈ table) :
    replacement table e.1 = e.2.toList := by
  induction table with
  | nil => exact absurd h List.not_mem_nil
  | cons d table ih =>
    obtain ⟨hd, hrest⟩ := List.nodup_cons.mp hnodup
    rw [replacement_cons]
    rcases List.mem_cons.mp h with rfl | h
    · rw [if_pos rfl]
    · have hne : e.1 ≠ d.1 := fun heq => hd (heq ▸ List.mem_map_of_mem h)
      rw [if_neg hne, ih hrest h]

/-- What is put in does not depend on the order of a table. -/
theorem replacement_of_perm (hnodup : (table.map Prod.fst).Nodup) (horder : order.Perm table) :
    replacement order = replacement table := by
  have hkeys := horder.map Prod.fst
  funext c
  by_cases hc : c ∈ table.map Prod.fst
  · obtain ⟨e, he, rfl⟩ := List.mem_map.mp hc
    rw [replacement_of_mem hnodup he,
      replacement_of_mem (hkeys.nodup_iff.mpr hnodup) (horder.mem_iff.mpr he)]
  · rw [replacement_of_not_mem hc, replacement_of_not_mem (mt hkeys.mem_iff.mp hc)]

/-- A text without listed characters stays. -/
theorem flatMap_replacement_of_forall (h : ∀ c ∈ s, c ∉ table.map Prod.fst) :
    s.flatMap (replacement table) = s := by
  rw [List.flatMap_congr fun c hc => replacement_of_not_mem (h c hc), List.flatMap_singleton']

/-- **Independent replacements are made at once.** -/
theorem replaceAll_eq_flatMap (h : IsIndependent table) (s : List Char) :
    replaceAll table s = s.flatMap (replacement table) := by
  -- The text is free: each replacement leaves another one for the rest of the table.
  induction table generalizing s with
  | nil => exact (List.flatMap_singleton' s).symm
  | cons e table ih =>
    have hstep : replaceAll (e :: table) s = replaceAll table (replaceChar e.1 e.2.toList s) := rfl
    rw [hstep, ih h.tail, replaceChar, List.flatMap_assoc]
    refine List.flatMap_congr fun d _ => ?_
    rw [replacement_cons]
    by_cases hd : d = e.1
    · -- What is put in for the first character is not touched again.
      have hkept : ∀ c ∈ e.2.toList, c ∉ table.map Prod.fst := fun c hc hmem =>
        h.apart e List.mem_cons_self c hc (List.mem_cons_of_mem e.1 hmem)
      rw [if_pos hd, if_pos hd, flatMap_replacement_of_forall hkept]
    · rw [if_neg hd, if_neg hd, List.flatMap_singleton]

/-- **The order of independent replacements is free.** -/
theorem replaceAll_of_perm (h : IsIndependent table) (horder : order.Perm table) (s : List Char) :
    replaceAll order s = s.flatMap (replacement table) := by
  rw [replaceAll_eq_flatMap (h.of_perm horder), replacement_of_perm h.nodup horder]

end Replacing

/-! ## §2. Maximal runs. -/

section Runs

variable {kind : Char → Bool} {c : Char} {first rest s run before after : List Char} {place : Nat}
  {runs : List (Nat × List Char)}

/-- A run of characters of a kind between two texts, which cannot be made longer on either
side. -/
structure IsMaximalRun (kind : Char → Bool) (before run after : List Char) : Prop where
  ne_nil : run ≠ []
  inside : ∀ c ∈ run, kind c = true
  left : ∀ c ∈ before.getLast?, kind c = false
  right : ∀ c ∈ after.head?, kind c = false

/-- A maximal run stands in a text behind so many characters. -/
def HasRunAt (kind : Char → Bool) (s : List Char) (place : Nat) (run : List Char) : Prop :=
  ∃ before after, s = before ++ (run ++ after) ∧ before.length = place ∧
    IsMaximalRun kind before run after

/-- All maximal runs of a text with their places, in order. -/
structure ListsRuns (kind : Char → Bool) (s : List Char) (runs : List (Nat × List Char)) :
    Prop where
  ascending : runs.Pairwise fun r q => r.1 < q.1
  mem_iff : ∀ place run, (place, run) ∈ runs ↔ HasRunAt kind s place run

/-- What a text starts with of a kind. -/
theorem takeWhile_append_eq (hfirst : ∀ c ∈ first, kind c = true)
    (hrest : ∀ c ∈ rest.head?, kind c = false) : (first ++ rest).takeWhile kind = first := by
  rw [List.takeWhile_append_of_pos hfirst]
  cases rest with
  | nil => rw [List.takeWhile_nil, List.append_nil]
  | cons c rest =>
    have hc : ¬ kind c = true := Bool.eq_false_iff.mp (hrest c (Option.mem_some_self c))
    rw [List.takeWhile_cons_of_neg hc, List.append_nil]

/-- A run starts with a character of its kind. -/
theorem IsMaximalRun.kind_of_cons (h : IsMaximalRun kind before run after)
    (hs : c :: s = run ++ after) : kind c = true := by
  cases hrun : run with
  | nil => exact absurd hrun h.ne_nil
  | cons d run =>
    rw [hrun, List.cons_append] at hs
    rw [(List.cons.inj hs).1]
    exact h.inside d (hrun ▸ List.mem_cons_self)

/-- No run starts behind a character of its kind. -/
theorem IsMaximalRun.eq_nil_of_forall (h : IsMaximalRun kind before run after)
    (hbefore : ∀ c ∈ before, kind c = true) : before = [] := by
  cases hlast : before.getLast? with
  | none => exact List.getLast?_eq_none_iff.mp hlast
  | some c =>
    have htrue : kind c = true := hbefore c (List.mem_of_getLast? hlast)
    rw [h.left c hlast] at htrue
    exact absurd htrue Bool.false_ne_true

/-- **A run that starts among the first characters of a text**, if these are of its kind and the
rest does not go on with it, is all of them. -/
theorem IsMaximalRun.eq_first (h : IsMaximalRun kind before run after)
    (hfirst : ∀ c ∈ before ++ first, kind c = true) (hrest : ∀ c ∈ rest.head?, kind c = false)
    (hs : run ++ after = first ++ rest) : before = [] ∧ run = first := by
  obtain ⟨hbefore, hfirst⟩ := List.forall_mem_append.mp hfirst
  refine ⟨h.eq_nil_of_forall hbefore, ?_⟩
  calc run = (run ++ after).takeWhile kind := (takeWhile_append_eq h.inside h.right).symm
    _ = (first ++ rest).takeWhile kind := by rw [hs]
    _ = first := takeWhile_append_eq hfirst hrest

/-- A text of one kind is one run, if it is not empty. -/
theorem hasRunAt_of_forall (hs : ∀ c ∈ s, kind c = true) :
    HasRunAt kind s place run ↔ place = 0 ∧ run = s ∧ s ≠ [] := by
  constructor
  · rintro ⟨before, after, rfl, rfl, h⟩
    have hrest : ∀ c ∈ ([] : List Char).head?, kind c = false := by simp
    obtain ⟨rfl, hrun⟩ := h.eq_first hs hrest (List.append_nil _).symm
    exact ⟨rfl, hrun, List.append_ne_nil_of_left_ne_nil h.ne_nil after⟩
  · rintro ⟨rfl, rfl, hne⟩
    exact ⟨[], [], (List.append_nil run).symm, rfl, hne, hs, by simp, by simp⟩

/-- A character of another kind bounds what stands behind it. -/
theorem forall_getLast?_append_cons (hc : kind c = false) :
    (∀ d ∈ (first ++ c :: s).getLast?, kind d = false) ↔ ∀ d ∈ s.getLast?, kind d = false := by
  rw [List.getLast?_append_cons, List.getLast?_cons]
  cases s.getLast? with
  | none => simp [hc]
  | some d => simp

/-- **The runs of a text that is cut at a character of another kind**: what stands before it, if
that is of the kind, and the runs behind it. -/
theorem hasRunAt_append_cons (hfirst : ∀ c ∈ first, kind c = true) (hc : kind c = false) :
    HasRunAt kind (first ++ c :: s) place run ↔
      (place = 0 ∧ run = first ∧ first ≠ []) ∨
        ∃ q, place = first.length + 1 + q ∧ HasRunAt kind s q run := by
  have hlength : ∀ t : List Char, (first ++ c :: t).length = first.length + 1 + t.length := by
    intro t
    rw [List.length_append, List.length_cons]
    omega
  constructor
  · rintro ⟨before, after, hs, rfl, h⟩
    rcases List.append_eq_append_iff.mp hs with ⟨t, rfl, hrest⟩ | ⟨t, rfl, hrest⟩
    · -- The place is behind the first characters, and not at the one that cuts the text.
      cases t with
      | nil =>
        have htrue : kind c = true := h.kind_of_cons hrest
        rw [hc] at htrue
        exact absurd htrue Bool.false_ne_true
      | cons d t =>
        obtain ⟨rfl, rfl⟩ := List.cons.inj hrest
        exact .inr ⟨t.length, hlength t, t, after, rfl, rfl, h.ne_nil, h.inside,
          (forall_getLast?_append_cons hc).mp h.left, h.right⟩
    · -- The place is among the first characters.
      obtain ⟨rfl, rfl⟩ := h.eq_first hfirst (by simpa using hc) hrest
      exact .inl ⟨rfl, rfl, h.ne_nil⟩
  · rintro (⟨rfl, rfl, hne⟩ | ⟨_, rfl, before, after, rfl, rfl, h⟩)
    · exact ⟨[], c :: s, rfl, rfl, hne, hfirst, by simp, by simpa using hc⟩
    · exact ⟨first ++ c :: before, after, by simp, hlength before, h.ne_nil, h.inside,
        (forall_getLast?_append_cons hc).mpr h.left, h.right⟩

theorem mem_closeRun_iff : run ∈ closeRun s ↔ run = s ∧ s ≠ [] := by
  unfold closeRun
  split
  next h => simp [List.isEmpty_iff.mp h]
  next h =>
    rw [List.mem_singleton, and_iff_left]
    exact fun hnil => h (List.isEmpty_iff.mpr hnil)

theorem flatten_closeRun (s : List Char) : (closeRun s).flatten = s := by
  cases s with
  | nil => rfl
  | cons c s => exact List.append_nil (c :: s)

/-- The run that is open at the end of a text is its last. -/
theorem listsRuns_closeRun (hs : ∀ c ∈ s, kind c = true) :
    ListsRuns kind s ((closeRun s).map fun run => (0, run)) where
  ascending := by
    unfold closeRun
    split
    next => exact List.Pairwise.nil
    next => exact List.pairwise_singleton _ _
  mem_iff := by
    intro place run
    rw [hasRunAt_of_forall hs, List.mem_map]
    constructor
    · rintro ⟨_, hrun, heq⟩
      obtain ⟨rfl, rfl⟩ := Prod.mk.inj heq
      exact ⟨rfl, mem_closeRun_iff.mp hrun⟩
    · rintro ⟨rfl, hrun⟩
      exact ⟨run, mem_closeRun_iff.mpr hrun, rfl⟩

/-- **A character of another kind closes the open run**, and the runs behind it follow. -/
theorem ListsRuns.append_cons (hfirst : ∀ c ∈ first, kind c = true) (hc : kind c = false)
    (h : ListsRuns kind s runs) :
    ListsRuns kind (first ++ c :: s)
      ((closeRun first).map (fun run => (0, run))
        ++ runs.map fun r => (first.length + 1 + r.1, r.2)) where
  ascending := by
    refine List.pairwise_append.mpr ⟨(listsRuns_closeRun hfirst).ascending, ?_, ?_⟩
    · rw [List.pairwise_map]
      exact h.ascending.imp fun hlt => Nat.add_lt_add_left hlt _
    · intro r hr q hq
      obtain ⟨_, -, rfl⟩ := List.mem_map.mp hr
      obtain ⟨_, -, rfl⟩ := List.mem_map.mp hq
      show 0 < _
      omega
  mem_iff := by
    intro place run
    rw [hasRunAt_append_cons hfirst hc, List.mem_append,
      (listsRuns_closeRun hfirst).mem_iff, hasRunAt_of_forall hfirst, List.mem_map]
    refine or_congr_right ?_
    constructor
    · rintro ⟨⟨q, _⟩, hq, heq⟩
      obtain ⟨rfl, rfl⟩ := Prod.mk.inj heq
      exact ⟨q, rfl, (h.mem_iff q _).mp hq⟩
    · rintro ⟨q, rfl, hrun⟩
      exact ⟨(q, run), (h.mem_iff q run).mpr hrun, rfl⟩

end Runs

/-! ## §3. One scan. -/

section Scanning

variable {c : Char} {name run s word : List Char}

/-- A word character other than the underscore. -/
def isInWord (c : Char) : Bool :=
  isWordChar c && c != '_'

/-- No blank is a word character. -/
theorem isBlank_of_isWordChar (h : isWordChar c = true) : isBlank c = false := by
  have htable : IsTable blankRanges := by decide
  have hdisjoint : setOfRanges alphanumericRanges &&& setOfRanges blankRanges = 0 := by
    decide +kernel
  rw [isWordChar, Bool.or_eq_true, beq_iff_eq] at h
  rcases h with h | rfl
  · rw [isAlphanumeric, isTable_alphanumericRanges.inRanges_iff_testBit] at h
    rw [isBlank, Bool.eq_false_iff, ne_eq, htable.inRanges_iff_testBit]
    exact Bool.eq_false_iff.mp (testBit_of_and_eq_zero hdisjoint h)
  · decide

/-- **What separates words** is what belongs to none. -/
theorem isSeparator_blankOut (c : Char) : isSeparator (blankOut c) = !isInWord c := by
  unfold blankOut isInWord isSeparator
  by_cases hword : isWordChar c = true
  · -- A word character stays as it is, and of these only the underscore separates.
    have hhyphen : c ≠ '-' := by
      rintro rfl
      exact absurd hword (by decide +kernel)
    rw [hword, Bool.true_or, Bool.true_or, if_pos rfl, isBlank_of_isWordChar hword,
      beq_eq_false_iff_ne.mpr hhyphen, Bool.false_or, Bool.false_or, Bool.true_and, bne,
      Bool.not_not]
  · rw [Bool.not_eq_true] at hword
    rw [hword, Bool.false_or, Bool.false_and, Bool.not_false]
    split
    next hkept => rw [hkept, Bool.true_or]
    next => decide

theorem blankOut_of_isInWord (h : isInWord c = true) : blankOut c = c := by
  have hword : isWordChar c = true := (Bool.and_eq_true _ _ ▸ h).1
  rw [blankOut, hword, Bool.true_or, Bool.true_or, if_pos rfl]

/-- One step of the scan: a separator closes the run that is open, any other character is added
to it. -/
theorem runsFrom_blankOut (run : List Char) (c : Char) (s : List Char) :
    runsFrom run ((c :: s).map blankOut)
      = if isInWord c then runsFrom (run ++ [c]) (s.map blankOut)
        else closeRun run ++ runsFrom [] (s.map blankOut) := by
  rw [List.map_cons, runsFrom, isSeparator_blankOut]
  by_cases hc : isInWord c = true
  · rw [hc, if_neg (by decide), if_pos rfl, blankOut_of_isInWord hc]
  · rw [Bool.not_eq_true] at hc
    rw [hc, if_pos (by decide), if_neg (by decide)]

/-- **The scan finds the maximal runs** of a text, of which the first characters are open. -/
theorem exists_listsRuns (hrun : ∀ c ∈ run, isInWord c = true) (s : List Char) :
    ∃ runs, ListsRuns isInWord (run ++ s) runs ∧
      runsFrom run (s.map blankOut) = runs.map Prod.snd := by
  -- The open run is free: it grows with each character and is empty behind a separator.
  induction s generalizing run with
  | nil =>
    rw [List.append_nil]
    refine ⟨_, listsRuns_closeRun hrun, ?_⟩
    rw [List.map_nil, runsFrom, List.map_map]
    exact (List.map_id (closeRun run)).symm
  | cons c s ih =>
    rw [runsFrom_blankOut]
    by_cases hc : isInWord c = true
    · rw [if_pos hc, List.append_cons]
      exact ih (List.forall_mem_append.mpr ⟨hrun, List.forall_mem_singleton.mpr hc⟩)
    · rw [if_neg hc]
      rw [Bool.not_eq_true] at hc
      obtain ⟨runs, hruns, hscan⟩ := ih (List.forall_mem_nil _)
      refine ⟨_, hruns.append_cons hrun hc, ?_⟩
      rw [hscan, List.map_append, List.map_map, List.map_map]
      exact congrArg (· ++ _) (List.map_id (closeRun run)).symm

/-- The scan leaves out nothing but what separates words. -/
theorem flatten_runsFrom (run s : List Char) :
    (runsFrom run (s.map blankOut)).flatten = run ++ s.filter isInWord := by
  induction s generalizing run with
  | nil => rw [List.map_nil, runsFrom, flatten_closeRun, List.filter_nil, List.append_nil]
  | cons c s ih =>
    rw [runsFrom_blankOut, List.filter_cons]
    by_cases hc : isInWord c = true
    · rw [if_pos hc, if_pos hc, ih, List.append_assoc, List.singleton_append]
    · rw [if_neg hc, if_neg hc, List.flatten_append, flatten_closeRun, ih, List.nil_append]

theorem flatten_words (name : List Char) :
    (words name).flatten = (replacePunctuation name).filter isInWord := by
  rw [words, flatten_runsFrom, List.nil_append]

/-- The words of a name are the maximal runs of what is left of it. -/
theorem exists_listsRuns_words (name : List Char) :
    ∃ runs, ListsRuns isInWord (replacePunctuation name) runs ∧
      words name = runs.map Prod.snd := by
  have hruns := exists_listsRuns (List.forall_mem_nil _) (replacePunctuation name)
  rwa [List.nil_append] at hruns

/-- A word is a maximal run. -/
theorem exists_isMaximalRun_of_mem_words (h : word ∈ words name) :
    ∃ before after, IsMaximalRun isInWord before word after := by
  obtain ⟨runs, hruns, hwords⟩ := exists_listsRuns_words name
  rw [hwords] at h
  obtain ⟨⟨place, run⟩, hmem, rfl⟩ := List.mem_map.mp h
  obtain ⟨before, after, -, -, hrun⟩ := (hruns.mem_iff place run).mp hmem
  exact ⟨before, after, hrun⟩

theorem ne_nil_of_mem_words (h : word ∈ words name) : word ≠ [] := by
  obtain ⟨_, _, hrun⟩ := exists_isMaximalRun_of_mem_words h
  exact hrun.ne_nil

theorem isInWord_of_mem_words (h : word ∈ words name) : ∀ c ∈ word, isInWord c = true := by
  obtain ⟨_, _, hrun⟩ := exists_isMaximalRun_of_mem_words h
  exact hrun.inside

/-- **A name is split exactly.**  Its punctuation is replaced at once, in whatever order the
replacements are made.  Its words are, in order, the maximal runs of word characters other than
the underscore in what is left; so no word is empty, and together they are what is left without
all other characters. -/
theorem words_areMaximalRuns (name : List Char) (order : List (Char × String))
    (horder : order.Perm punctuation) :
    replaceAll order name = name.flatMap (replacement punctuation) ∧
      replacePunctuation name = name.flatMap (replacement punctuation) ∧
      (∃ runs, ListsRuns isInWord (replacePunctuation name) runs ∧
        words name = runs.map Prod.snd) ∧
      (∀ word ∈ words name, word ≠ []) ∧
      (words name).flatten = (replacePunctuation name).filter isInWord :=
  ⟨replaceAll_of_perm isIndependent_punctuation horder name,
    replaceAll_eq_flatMap isIndependent_punctuation name, exists_listsRuns_words name,
    fun _ => ne_nil_of_mem_words, flatten_words name⟩

/-- A name with all that is replaced or separates: punctuation, blanks and an underscore. -/
def mixedName : List Char := "copy & paste_v2 (C#)".toList

theorem words_areMaximalRuns_mixedName :
    punctuation.reverse.Perm punctuation ∧
      replaceAll punctuation.reverse mixedName = mixedName.flatMap (replacement punctuation) ∧
      replacePunctuation mixedName = mixedName.flatMap (replacement punctuation) ∧
      (∃ runs, ListsRuns isInWord (replacePunctuation mixedName) runs ∧
        words mixedName = runs.map Prod.snd) ∧
      (∀ word ∈ words mixedName, word ≠ []) ∧
      (words mixedName).flatten = (replacePunctuation mixedName).filter isInWord :=
  ⟨punctuation.reverse_perm,
    words_areMaximalRuns mixedName punctuation.reverse punctuation.reverse_perm⟩

end Scanning

end ScriptingBindings.Identifier
