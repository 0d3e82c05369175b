/-
  ScriptingBindings.Proofs.Console.Text
  ──────────────────────────────────
  **TEXT THAT CAN BE SHOWN.**

  Only tags can keep a line from being shown, and every tag has a bracket.  So
  a text without brackets can be put between the tags of a line: it is read as
  text, and it leaves the styles that are open as they are.
-/
import Mathlib.Data.List.TakeWhile
import ScriptingBindings.Console.Text
import ScriptingBindings.Proofs.Success

namespace ScriptingBindings.Console

/-! ## §1. Pieces. -/

/-- A piece without a tag. -/
def Piece.IsText (p : Piece) : Prop := ∃ s, p = .text s

theorem isText_of_mem_ofRead {read : List Char} {p : Piece} (h : p ∈ Piece.ofRead read) :
    p.IsText := by
  unfold Piece.ofRead at h
  split at h
  next => exact absurd h List.not_mem_nil
  next => exact ⟨_, List.mem_singleton.mp h⟩

/-- Characters that start no tag and are no backslashes are read one by one. -/
theorem piecesAfter_append {s : List Char} (h : ∀ c ∈ s, c ≠ '[' ∧ c ≠ '\\')
    (read rest : List Char) : piecesAfter read 0 (s ++ rest) = piecesAfter (s.reverse ++ read) 0 rest := by
  induction s generalizing read with
  | nil => rfl
  | cons c s ih =>
    obtain ⟨⟨hbracket, hslash⟩, hs⟩ := List.forall_mem_cons.mp h
    rw [List.cons_append, piecesAfter, if_neg hslash, if_neg hbracket]
    show piecesAfter (c :: read) 0 (s ++ rest) = _
    rw [ih hs, List.reverse_cons, List.append_assoc]
    rfl

/-- A tag ends the text before it. -/
theorem piecesAfter_tag {read rest inside following : List Char}
    (h : tag? rest = some (inside, following)) :
    piecesAfter read 0 ('[' :: rest)
      = Piece.ofRead read ++ .ofTag inside :: piecesAfter [] 0 following := by
  rw [piecesAfter, if_neg (by decide), if_pos rfl]
  split
  next inside' following' h' =>
    obtain ⟨rfl, rfl⟩ := Prod.mk.inj (Option.some.inj (h.symm.trans h'))
    show Piece.ofRead read ++ Piece.ofRead [] ++ _ = _
    rw [show Piece.ofRead [] = [] from rfl, List.append_nil]
    rfl
  next h' => exact absurd (h.symm.trans h') (by simp)

/-- A text without brackets is text, and so is the end of it. -/
theorem isText_of_mem_piecesAfter {s : List Char} (h : '[' ∉ s) {read : List Char} {slashes : Nat} :
    ∀ p ∈ piecesAfter read slashes s, p.IsText := by
  induction s generalizing read slashes with
  | nil =>
    intro p hp
    rw [piecesAfter] at hp
    exact isText_of_mem_ofRead hp
  | cons c s ih =>
    have hc : c ≠ '[' := fun he => h (he ▸ List.mem_cons_self)
    have hs : '[' ∉ s := fun hm => h (List.mem_cons_of_mem c hm)
    rw [piecesAfter]
    split
    next => exact ih hs
    next => exact ih hs

/-- A tag behind a text without brackets ends it, or is text itself. -/
theorem piecesAfter_text_tag {s rest inside : List Char} (h : '[' ∉ s)
    (htag : tag? rest = some (inside, [])) (read : List Char) (slashes : Nat) :
    ∃ before last, piecesAfter read slashes (s ++ '[' :: rest) = before ++ [last] ∧
      (∀ p ∈ before, p.IsText) ∧ (last = .ofTag inside ∨ last.IsText) := by
  induction s generalizing read slashes with
  | nil =>
    rw [List.nil_append, piecesAfter, if_neg (by decide), if_pos rfl]
    split
    next inside' following' h' =>
      obtain ⟨rfl, rfl⟩ := Prod.mk.inj (Option.some.inj (htag.symm.trans h'))
      have hend : piecesAfter [] 0 [] = [] := by
        rw [piecesAfter]
        rfl
      refine ⟨Piece.ofRead read ++ Piece.ofRead (List.replicate (slashes / 2) '\\'), _,
        by rw [← hend], ?_, ?_⟩
      · intro p hp
        exact (List.mem_append.mp hp).elim isText_of_mem_ofRead isText_of_mem_ofRead
      · split
        next => exact .inr ⟨_, rfl⟩
        next => exact .inl rfl
    next h' => exact absurd (htag.symm.trans h') (by simp)
  | cons c s ih =>
    have hc : c ≠ '[' := fun he => h (he ▸ List.mem_cons_self)
    have hs : '[' ∉ s := fun hm => h (List.mem_cons_of_mem c hm)
    rw [List.cons_append, piecesAfter]
    split
    next => exact ih hs _ _
    next => exact ih hs _ _

/-! ## §2. Readings. -/

/-- Pieces can be read from one reading to another, which has the same open styles and more styles
by some. -/
def Reads (ps : List Piece) (r : Reading) (opened : List OpenStyle) : Prop :=
  ∃ r', ps.foldlM Reading.add r = .ok r' ∧ r'.styles = r.styles ∧ r'.all = opened ++ r.all

theorem reads_text {ps : List Piece} (h : ∀ p ∈ ps, p.IsText) (r : Reading) : Reads ps r [] := by
  induction ps generalizing r with
  | nil => exact ⟨r, rfl, rfl, rfl⟩
  | cons p ps ih =>
    obtain ⟨⟨s, rfl⟩, hps⟩ := List.forall_mem_cons.mp h
    rw [Reads, List.foldlM_cons]
    exact ih hps { r with text := (withEmoji (unescaped s)).reverse ++ r.text }

theorem Reads.append {ps qs : List Piece} {r : Reading} {opened more : List OpenStyle}
    (hp : Reads ps r opened)
    (hq : ∀ r' : Reading, r'.styles = r.styles → Reads qs r' more) :
    Reads (ps ++ qs) r (more ++ opened) := by
  obtain ⟨r', hr', hstyles, hall⟩ := hp
  obtain ⟨r'', hr'', hstyles', hall'⟩ := hq r' hstyles
  refine ⟨r'', ?_, hstyles'.trans hstyles, ?_⟩
  · rw [List.foldlM_append, hr', ok_bind]
    exact hr''
  · rw [hall', hall, List.append_assoc]

/-- A style that a tag opens and that its closing tag closes. -/
structure IsStyle (style : List Char) (name : String) : Prop where
  letters : ∀ c ∈ style, 'a' ≤ c ∧ c ≤ 'z'
  visible : Text.isAllBlank style = false
  opens : normalStyle style = .ok name
  closes : normalStyle (style.dropWhile Text.isBlank) = .ok name
  plain : name.startsWith "@" = false

variable {style : List Char} {name : String}

theorem IsStyle.canClose (h : IsStyle style name) (parameters : List Char) :
    OpenStyle.canClose ⟨name, parameters⟩ = true := by
  rw [OpenStyle.canClose, h.plain]
  rfl

/-- Opening a style adds it. -/
theorem IsStyle.add_opening (h : IsStyle style name) (r : Reading) :
    r.add (.opening style []) = .ok { r with
      styles := ⟨name, []⟩ :: r.styles, all := ⟨name, []⟩ :: r.all } := by
  rw [Reading.add, h.opens]

/-- Closing the last style takes it away. -/
theorem IsStyle.add_closing (h : IsStyle style name) {r : Reading} {styles : List OpenStyle}
    (hr : r.styles = ⟨name, []⟩ :: styles) :
    r.add (.closing style) = .ok { r with styles := styles } := by
  have hfind : r.styles.find? (·.name = name) = some ⟨name, []⟩ := by
    rw [hr, List.find?_cons_of_pos (by simp)]
  have herase : r.styles.erase ⟨name, []⟩ = styles := by
    rw [hr, List.erase_cons_head]
  rw [Reading.add, h.closes]
  dsimp only
  rw [hfind]
  dsimp only
  rw [Reading.close, if_pos (h.canClose []), herase]

/-- What stands in a style is read with the style around it. -/
theorem IsStyle.reads (h : IsStyle style name) {ps : List Piece} (hps : ∀ p ∈ ps, p.IsText)
    (r : Reading) : Reads (.opening style [] :: (ps ++ [.closing style])) r [⟨name, []⟩] := by
  obtain ⟨r', hr', hstyles, hall⟩ := reads_text hps
    { r with styles := ⟨name, []⟩ :: r.styles, all := ⟨name, []⟩ :: r.all }
  refine ⟨{ r' with styles := r.styles }, ?_, rfl, hall⟩
  rw [List.foldlM_cons, h.add_opening, ok_bind, List.foldlM_append, hr', ok_bind,
    List.foldlM_cons, h.add_closing hstyles]
  rfl

/-! ## §3. Tags of styles. -/

/-- A tag reaches up to the first closing bracket. -/
theorem tag?_append {c : Char} {cs : List Char} (hc : startsTag c = true)
    (h : ∀ d ∈ c :: cs, d ≠ ']' ∧ d ≠ '[') (rest : List Char) :
    tag? (c :: cs ++ ']' :: rest) = some (c :: cs, rest) := by
  have htake : (c :: cs ++ ']' :: rest).takeWhile (fun d => d != ']' && d != '[') = c :: cs := by
    rw [List.takeWhile_append_of_pos fun d hd => by simp [h d hd]]
    simp
  unfold tag?
  rw [List.cons_append] at htake ⊢
  dsimp only
  rw [htake, ← List.cons_append, List.drop_left]
  exact if_pos hc

namespace IsStyle

theorem ne_of_mem (h : IsStyle style name) {c d : Char} (hc : c ∈ style)
    (hd : ¬ ('a' ≤ d ∧ d ≤ 'z')) : c ≠ d := by
  rintro rfl
  exact hd (h.letters c hc)

theorem exists_cons (h : IsStyle style name) :
    ∃ c cs, style = c :: cs ∧ 'a' ≤ c ∧ c ≤ 'z' := by
  cases style with
  | nil => exact absurd h.visible (by decide)
  | cons c cs => exact ⟨c, cs, rfl, h.letters c List.mem_cons_self⟩

theorem tag?_opening (h : IsStyle style name) (rest : List Char) :
    tag? (style ++ ']' :: rest) = some (style, rest) := by
  obtain ⟨c, cs, rfl, hlow, hhigh⟩ := h.exists_cons
  refine tag?_append (by simp [startsTag, hlow, hhigh]) (fun d hd => ⟨?_, ?_⟩) rest
  · exact h.ne_of_mem hd (by decide)
  · exact h.ne_of_mem hd (by decide)

theorem tag?_closing (h : IsStyle style name) (rest : List Char) :
    tag? ('/' :: style ++ ']' :: rest) = some ('/' :: style, rest) := by
  refine tag?_append (by decide) (fun d hd => ?_) rest
  rcases List.mem_cons.mp hd with rfl | hd
  · decide
  · exact ⟨h.ne_of_mem hd (by decide), h.ne_of_mem hd (by decide)⟩

theorem ofTag_opening (h : IsStyle style name) : Piece.ofTag style = .opening style [] := by
  have hname : style.takeWhile (· != '=') = style :=
    List.takeWhile_eq_self_iff.mpr fun c hc => by simpa using h.ne_of_mem hc (by decide)
  obtain ⟨c, cs, rfl, hlow, hhigh⟩ := h.exists_cons
  have hslash : c ≠ '/' := h.ne_of_mem List.mem_cons_self (by decide)
  have hdrop : (c :: cs).drop ((c :: cs).length + 1) = [] := List.drop_eq_nil_of_le (by simp)
  unfold Piece.ofTag
  rw [hname]
  dsimp only
  split
  next heq => exact absurd (List.cons.inj heq).1 hslash
  next => rw [hdrop]

theorem ofTag_closing (h : IsStyle style name) : Piece.ofTag ('/' :: style) = .closing style := by
  have hname : ('/' :: style).takeWhile (· != '=') = '/' :: style := by
    refine List.takeWhile_eq_self_iff.mpr fun c hc => ?_
    rcases List.mem_cons.mp hc with rfl | hc
    · decide
    · simpa using h.ne_of_mem hc (by decide)
  unfold Piece.ofTag
  rw [hname]
  show (if Text.isAllBlank style = true then Piece.closingLast else .closing style) = _
  rw [if_neg (by simp [h.visible])]

end IsStyle

/-! ## §4. Lines. -/

/-- A text that is read can be shown if its styles can be looked at. -/
theorem exists_shown {s : String} {r : Reading}
    (h : (piecesAfter [] 0 s.toList).foldlM Reading.add {} = .ok r)
    (hall : r.all.all OpenStyle.canShow = true) : ∃ text, shown s = .ok text := by
  have hplain : ∃ text, plain s.toList = .ok text := by
    unfold plain
    split
    next => exact ⟨_, rfl⟩
    next => exact ⟨_, by rw [h, ok_bind, if_pos hall]; rfl⟩
  obtain ⟨text, htext⟩ := hplain
  exact ⟨_, by rw [shown, htext]; rfl⟩

/-- Characters that neither start a tag nor escape one. -/
def IsPlain (s : List Char) : Prop := ∀ c ∈ s, c ≠ '[' ∧ c ≠ '\\'

instance (s : List Char) : Decidable (IsPlain s) :=
  List.decidableBAll (fun c => c ≠ '[' ∧ c ≠ '\\') s

/-- The start of a line: a label in a style, perhaps indented. -/
def labelled (indent style label : List Char) : List Char :=
  indent ++ '[' :: (style ++ ']' :: (label ++ '[' :: ('/' :: style ++ [']'])))

/-- The rest of a line is read behind its label. -/
theorem IsStyle.reads_labelled (h : IsStyle style name) {indent label : List Char}
    (hindent : IsPlain indent) (hlabel : IsPlain label) (rest : List Char) :
    ∃ ps, piecesAfter [] 0 (labelled indent style label ++ rest) = ps ++ piecesAfter [] 0 rest ∧
      Reads ps {} [⟨name, []⟩] := by
  have hassoc : labelled indent style label ++ rest
      = indent ++ '[' :: (style ++ ']' :: (label ++ '[' :: ('/' :: style ++ ']' :: rest))) := by
    simp [labelled]
  have hpieces : piecesAfter [] 0 (labelled indent style label ++ rest)
      = Piece.ofRead (indent.reverse ++ []) ++ .opening style [] ::
        (Piece.ofRead (label.reverse ++ []) ++ .closing style :: piecesAfter [] 0 rest) := by
    rw [hassoc, piecesAfter_append hindent, piecesAfter_tag (h.tag?_opening _),
      piecesAfter_append hlabel, piecesAfter_tag (h.tag?_closing _), h.ofTag_opening,
      h.ofTag_closing]
  refine ⟨Piece.ofRead (indent.reverse ++ []) ++ .opening style [] ::
    (Piece.ofRead (label.reverse ++ []) ++ [.closing style]), by rw [hpieces]; simp, ?_⟩
  exact (reads_text (fun _ => isText_of_mem_ofRead) {}).append
    fun r' _ => h.reads (fun _ => isText_of_mem_ofRead) r'

/-- **A text without brackets can be shown behind a label.** -/
theorem IsStyle.exists_shown_labelled (h : IsStyle style name) {indent label : List Char}
    (hindent : IsPlain indent) (hlabel : IsPlain label)
    (hshow : OpenStyle.canShow ⟨name, []⟩ = true) {s : String} {t : List Char} (ht : '[' ∉ t)
    (hs : s.toList = labelled indent style label ++ t) : ∃ text, shown s = .ok text := by
  obtain ⟨ps, hps, hreads⟩ := h.reads_labelled hindent hlabel t
  obtain ⟨r, hr, -, hall⟩ := hreads.append fun r' _ => reads_text (isText_of_mem_piecesAfter ht) r'
  refine exists_shown (r := r) (by rw [hs, hps]; exact hr) ?_
  rw [hall]
  simpa using hshow

/-- **What cannot be shown behind a label holds a bracket.** -/
theorem IsStyle.bracket_of_labelled (h : IsStyle style name) {indent label : List Char}
    (hindent : IsPlain indent) (hlabel : IsPlain label)
    (hshow : OpenStyle.canShow ⟨name, []⟩ = true) {start text : String} {e : TextError}
    (hstart : start.toList = labelled indent style label ++ [' '])
    (hfailed : shown (start ++ text) = .error e) : '[' ∈ text.toList := by
  by_contra htext
  obtain ⟨line, hline⟩ := h.exists_shown_labelled hindent hlabel hshow (s := start ++ text)
    (t := ' ' :: text.toList) (by simp [htext]) (by rw [String.toList_append, hstart]; simp)
  exact absurd (hline.symm.trans hfailed) (by simp)

/-- A text without brackets in a style is read, also if its end makes text of the closing tag. -/
theorem IsStyle.reads_enclosed (h : IsStyle style name) {before t : List Char}
    (hbefore : IsPlain before) (ht : '[' ∉ t) (r : Reading) :
    ∃ r', (piecesAfter [] 0
        (before ++ '[' :: (style ++ ']' :: (t ++ '[' :: ('/' :: style ++ [']']))))).foldlM
      Reading.add r = .ok r' ∧ r'.all = ⟨name, []⟩ :: r.all := by
  obtain ⟨ps, last, hps, htexts, hlast⟩ := piecesAfter_text_tag ht (h.tag?_closing []) [] 0
  have hread : ∀ p ∈ Piece.ofRead (before.reverse ++ []), p.IsText :=
    fun _ => isText_of_mem_ofRead
  obtain ⟨r₁, hr₁, hstyles₁, hall₁⟩ := reads_text hread r
  obtain ⟨r₂, hr₂, hstyles₂, hall₂⟩ := reads_text htexts
    { r₁ with styles := ⟨name, []⟩ :: r₁.styles, all := ⟨name, []⟩ :: r₁.all }
  have hend : ∃ r', r₂.add last = .ok r' ∧ r'.all = r₂.all := by
    rcases hlast with rfl | ⟨text, rfl⟩
    · rw [h.ofTag_closing, h.add_closing hstyles₂]
      exact ⟨_, rfl, rfl⟩
    · exact ⟨_, rfl, rfl⟩
  obtain ⟨r', hr', hall'⟩ := hend
  refine ⟨r', ?_, ?_⟩
  · rw [piecesAfter_append hbefore, piecesAfter_tag (h.tag?_opening _), h.ofTag_opening, hps,
      List.foldlM_append, hr₁, ok_bind, List.foldlM_cons, h.add_opening, ok_bind,
      List.foldlM_append, hr₂, ok_bind, List.foldlM_cons, hr']
    rfl
  · rw [hall', hall₂]
    show ⟨name, []⟩ :: r₁.all = _
    rw [hall₁]
    rfl

/-- **A text without brackets can be shown in a style behind a label.** -/
theorem IsStyle.exists_shown_enclosed {other : List Char} {otherName : String}
    (h : IsStyle style name) (ho : IsStyle other otherName) {indent label before t : List Char}
    (hindent : IsPlain indent) (hlabel : IsPlain label) (hbefore : IsPlain before) (ht : '[' ∉ t)
    (hshow : [OpenStyle.mk otherName [], ⟨name, []⟩].all OpenStyle.canShow = true) {s : String}
    (hs : s.toList = labelled indent style label ++
      (before ++ '[' :: (other ++ ']' :: (t ++ '[' :: ('/' :: other ++ [']']))))) :
    ∃ text, shown s = .ok text := by
  obtain ⟨ps, hps, r, hr, -, hall⟩ := h.reads_labelled hindent hlabel
    (before ++ '[' :: (other ++ ']' :: (t ++ '[' :: ('/' :: other ++ [']']))))
  obtain ⟨r', hr', hall'⟩ := ho.reads_enclosed hbefore ht r
  refine exists_shown (r := r') (by rw [hs, hps, List.foldlM_append, hr, ok_bind]; exact hr') ?_
  rw [hall', hall]
  exact hshow

/-! ## §5. The styles of a run. -/

theorem letters_of_all {style : List Char}
    (h : (style.all fun c => 'a' ≤ c ∧ c ≤ 'z') = true) : ∀ c ∈ style, 'a' ≤ c ∧ c ≤ 'z' :=
  fun c hc => of_decide_eq_true (List.all_eq_true.mp h c hc)

theorem isStyle_red : IsStyle "red".toList "red" :=
  ⟨letters_of_all (by decide), by decide, by decide +kernel, by decide +kernel, by decide +kernel⟩

theorem isStyle_yellow : IsStyle "yellow".toList "yellow" :=
  ⟨letters_of_all (by decide), by decide, by decide +kernel, by decide +kernel, by decide +kernel⟩

theorem isStyle_green : IsStyle "green".toList "green" :=
  ⟨letters_of_all (by decide), by decide, by decide +kernel, by decide +kernel, by decide +kernel⟩

theorem isStyle_cyan : IsStyle "cyan".toList "cyan" :=
  ⟨letters_of_all (by decide), by decide, by decide +kernel, by decide +kernel, by decide +kernel⟩

end ScriptingBindings.Console
