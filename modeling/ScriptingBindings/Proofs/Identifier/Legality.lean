/-
  ScriptingBindings.Proofs.Identifier.Legality
  ──────────────────────────────────
  **WHICH NAMES MAKE AN IDENTIFIER.**

  A name is refused if it has no words.  It is refused, too, if writing its
  words in their case brings in a combining mark: marks separate the words of
  a name, but none is looked for once the words are joined.

      İstanbul  camel  →  i, U+0307, s, t, …     refused

  All other names give an identifier: word characters, the first of them no
  decimal digit, and in the pattern of the sanitizer exactly if it is a
  reserved word and escaping is asked for.
-/
import ScriptingBindings.Proofs.Identifier.Memory
import ScriptingBindings.Proofs.Identifier.OneLine
import ScriptingBindings.Proofs.Text.Letters

namespace ScriptingBindings.Identifier

open Text

/-! ## §1. Words are of letters and numbers. -/

variable {name word : List Char}

/-- **A word is of letters and numbers.** -/
theorem isAlphanumeric_of_mem_words (h : word ∈ words name) :
    ∀ c ∈ word, isAlphanumeric c = true := by
  intro c hc
  have hword := isInWord_of_mem_words h c hc
  rw [isInWord, Bool.and_eq_true, isWordChar, Bool.or_eq_true, bne_iff_ne, beq_iff_eq] at hword
  exact hword.1.resolve_right hword.2

/-! ## §2. Marks in joined words. -/

/-- A word that starts with a letter whose upper case is spelled with combining marks. -/
def StartsMarked (word : List Char) : Prop :=
  ∃ c ∈ word.head?, c.toNat ∈ markedSmalls

/-- Joining the words in a style brings in a combining mark. -/
def BringsMark : Style → List (List Char) → Prop
  | .camel, [] => False
  | .camel, first :: rest => dottedCapital ∈ first ∨ ∃ word ∈ rest, StartsMarked word
  | .pascal, ws => ∃ word ∈ ws, StartsMarked word

theorem startsMarked_cons (c : Char) (rest : List Char) :
    StartsMarked (c :: rest) ↔ c.toNat ∈ markedSmalls := by
  simp [StartsMarked]

theorem laterWord_ne_nil (h : word ≠ []) : laterWord word ≠ [] := by
  obtain ⟨c, rest, rfl⟩ := List.exists_cons_of_ne_nil h
  unfold laterWord
  extract_lets capitals
  split
  next => exact List.append_ne_nil_of_left_ne_nil (upperOf_ne_nil c) _
  next => exact List.append_ne_nil_of_left_ne_nil (upperOf_ne_nil c) _

theorem lowerChars_ne_nil (h : word ≠ []) : lowerChars word ≠ [] := by
  obtain ⟨c, rest, rfl⟩ := List.exists_cons_of_ne_nil h
  refine List.append_ne_nil_of_left_ne_nil ?_ _
  rcases lowerIn_cases [] c rest with ⟨d, hd⟩ | hd <;> simp [hd]

theorem all_isWordChar_capitalizeFirst_iff (h : ∀ c ∈ word, isAlphanumeric c = true) :
    (∀ d ∈ capitalizeFirst word, isWordChar d = true) ↔ ¬ StartsMarked word := by
  cases word with
  | nil => simp [capitalizeFirst, StartsMarked]
  | cons c rest =>
    obtain ⟨hc, hrest⟩ := List.forall_mem_cons.mp h
    rw [capitalizeFirst, List.forall_mem_append, all_isWordChar_upperOf_iff hc, startsMarked_cons]
    exact and_iff_left (fun d hd => isWordChar_of_isAlphanumeric (hrest d hd))

/-- A later word keeps to word characters unless its first letter is marked in upper case. -/
theorem all_isWordChar_laterWord_iff (h : ∀ c ∈ word, isAlphanumeric c = true) :
    (∀ d ∈ laterWord word, isWordChar d = true) ↔ ¬ StartsMarked word := by
  have hacronyms : ∀ a ∈ acronyms, a.toList.all isWordChar = true := by decide +kernel
  unfold laterWord
  extract_lets capitals
  split
  next hcontains =>
    -- No acronym holds a mark, so its word does not start with a marked letter.
    have hcapitals : ∀ d ∈ capitals, isWordChar d = true := by
      intro d hd
      refine List.all_eq_true.mp (hacronyms _ (List.contains_iff_mem.mp hcontains)) d ?_
      rwa [String.toList_ofList]
    refine iff_of_true hcapitals ?_
    rintro ⟨c, hc, hmarked⟩
    obtain ⟨rest, rfl⟩ := List.head?_eq_some_iff.mp hc
    have hupper : ∀ d ∈ upperOf c, isWordChar d = true :=
      fun d hd => hcapitals d (List.mem_append_left _ hd)
    exact (all_isWordChar_upperOf_iff (h c List.mem_cons_self)).mp hupper hmarked
  next => exact all_isWordChar_capitalizeFirst_iff h

theorem all_isWordChar_flatMap_laterWord_iff {ws : List (List Char)}
    (h : ∀ word ∈ ws, ∀ c ∈ word, isAlphanumeric c = true) :
    (∀ d ∈ ws.flatMap laterWord, isWordChar d = true) ↔ ¬ ∃ word ∈ ws, StartsMarked word := by
  rw [List.forall_mem_flatMap, not_exists]
  refine forall_congr' fun word => ?_
  rw [not_and]
  exact forall_congr' fun hword => all_isWordChar_laterWord_iff (h word hword)

/-- **Joined words are of word characters** unless joining brings in a mark. -/
theorem all_isWordChar_join_iff (style : Style) (name : List Char) :
    (∀ d ∈ style.join name, isWordChar d = true) ↔ ¬ BringsMark style (words name) := by
  have hwords : ∀ word ∈ words name, ∀ c ∈ word, isAlphanumeric c = true :=
    fun word => isAlphanumeric_of_mem_words
  cases style with
  | camel =>
    show (∀ d ∈ camelCase name, _) ↔ _
    unfold camelCase
    cases hname : words name with
    | nil => simp [BringsMark]
    | cons first rest =>
      rw [hname] at hwords
      obtain ⟨hfirst, hrest⟩ := List.forall_mem_cons.mp hwords
      rw [List.forall_mem_append, lowerChars, all_isWordChar_lowerAfter_iff [] hfirst,
        all_isWordChar_flatMap_laterWord_iff hrest]
      exact not_or.symm
  | pascal => exact all_isWordChar_flatMap_laterWord_iff hwords

/-- Nothing is left of the words only if there are none. -/
theorem join_eq_nil_iff (style : Style) (name : List Char) :
    style.join name = [] ↔ words name = [] := by
  cases style with
  | camel =>
    show camelCase name = [] ↔ _
    unfold camelCase
    cases hname : words name with
    | nil => exact iff_of_true rfl rfl
    | cons first rest =>
      have hfirst : first ≠ [] := ne_nil_of_mem_words (hname ▸ List.mem_cons_self)
      exact iff_of_false (List.append_ne_nil_of_left_ne_nil (lowerChars_ne_nil hfirst) _)
        (List.cons_ne_nil _ _)
  | pascal =>
    show (words name).flatMap laterWord = [] ↔ _
    rw [List.flatMap_eq_nil_iff, List.eq_nil_iff_forall_not_mem]
    exact forall_congr' fun word => ⟨fun hnil hword =>
      laterWord_ne_nil (ne_nil_of_mem_words hword) (hnil hword), fun h hword => absurd hword h⟩

/-! ## §3. Legal identifiers. -/

/-- Word characters, at least one, and the first of them no decimal digit. -/
structure IsIdentifier (s : List Char) : Prop where
  ne_nil : s ≠ []
  isWordChar : ∀ c ∈ s, isWordChar c = true
  isDecimal : ∀ c ∈ s.head?, isDecimal c = false

/-- In one line, what is legal is an identifier. -/
theorem isLegal_iff_isIdentifier {s : List Char} (hs : '\n' ∉ s) :
    isLegal s = true ↔ IsIdentifier s := by
  cases s with
  | nil => exact iff_of_false Bool.false_ne_true (fun h => h.ne_nil rfl)
  | cons c rest =>
    -- A line feed at the end would be legal, but there is none.
    have hfeed : rest.dropWhile isWordChar ≠ ['\n'] := by
      intro hend
      have hmem : '\n' ∈ rest := (List.dropWhile_sublist _).mem (hend ▸ List.mem_singleton_self _)
      exact hs (List.mem_cons_of_mem c hmem)
    have hlegal : isLegal (c :: rest) = true ↔
        (isWordChar c = true ∧ isDecimal c = false) ∧ rest.dropWhile isWordChar = [] := by
      rw [isLegal, Bool.and_eq_true, Bool.and_eq_true, Bool.not_eq_true']
      refine and_congr_right' ?_
      split
      next hnil => exact iff_of_true rfl hnil
      next hend => exact absurd hend hfeed
      next hne _ => exact iff_of_false Bool.false_ne_true hne
    rw [hlegal, List.dropWhile_eq_nil_iff]
    constructor
    · rintro ⟨⟨hc, hdecimal⟩, hall⟩
      exact ⟨List.cons_ne_nil c rest, List.forall_mem_cons.mpr ⟨hc, hall⟩,
        fun d hd => Option.mem_some_iff.mp hd ▸ hdecimal⟩
    · rintro ⟨-, hall, hdecimal⟩
      obtain ⟨hc, hall⟩ := List.forall_mem_cons.mp hall
      exact ⟨⟨hc, hdecimal c rfl⟩, hall⟩

/-- With its guard, a text of word characters is an identifier, and no other is. -/
theorem isIdentifier_guardDigit_iff (s : List Char) :
    IsIdentifier (guardDigit s) ↔ s ≠ [] ∧ ∀ c ∈ s, isWordChar c = true := by
  cases s with
  | nil => exact iff_of_false (fun h => h.ne_nil rfl) (fun h => h.1 rfl)
  | cons c rest =>
    rw [and_iff_right (List.cons_ne_nil c rest), guardDigit]
    split
    next =>
      have hunderscore : isWordChar '_' = true ∧ isDecimal '_' = false := by decide +kernel
      constructor
      · exact fun h => (List.forall_mem_cons.mp h.isWordChar).2
      · exact fun hall => ⟨List.cons_ne_nil _ _, List.forall_mem_cons.mpr ⟨hunderscore.1, hall⟩,
          fun d hd => Option.mem_some_iff.mp hd ▸ hunderscore.2⟩
    next hdigit =>
      refine ⟨IsIdentifier.isWordChar, fun hall => ⟨List.cons_ne_nil c rest, hall, fun d hd => ?_⟩⟩
      rw [← Option.mem_some_iff.mp hd, Bool.eq_false_iff]
      exact mt isDigit_of_isDecimal hdigit

/-! ## §4. What a sanitizer answers. -/

/-- A name of which no identifier can be made in a style. -/
def IsUnusable (style : Style) (name : String) : Prop :=
  words name.toList = [] ∨ BringsMark style (words name.toList)

/-- The words of a name joined in a style, behind a guard if they start with a digit. -/
def converted (style : Style) (name : String) : String :=
  String.ofList (guardDigit (style.join name.toList))

theorem isIdentifier_converted_iff (style : Style) (name : String) :
    IsIdentifier (converted style name).toList ↔ ¬ IsUnusable style name := by
  rw [converted, String.toList_ofList, isIdentifier_guardDigit_iff, all_isWordChar_join_iff,
    ne_eq, join_eq_nil_iff]
  exact not_or.symm

theorem isLegal_converted_iff (style : Style) (name : String) :
    isLegal (guardDigit (style.join name.toList)) = true ↔ ¬ IsUnusable style name := by
  rw [isLegal_iff_isIdentifier (not_mem_guardDigit (not_mem_join style name.toList)),
    ← isIdentifier_converted_iff, converted, String.toList_ofList]

theorem identifier_of_isUnusable {style : Style} {name : String} (h : IsUnusable style name) :
    identifier style name = .error ⟨name⟩ :=
  if_neg (fun hlegal => (isLegal_converted_iff style name).mp hlegal h)

theorem identifier_of_not_isUnusable {style : Style} {name : String}
    (h : ¬ IsUnusable style name) : identifier style name = .ok (converted style name) :=
  if_pos ((isLegal_converted_iff style name).mpr h)

/-- **What a conversion has to be answered**: a refusal of an unusable name, and for any other
name an identifier, in the pattern exactly if it is reserved and escaping is asked for. -/
structure IsSettled (s : Sanitizer) (c : Conversion) (answer : Except Refusal String) : Prop where
  refused_iff : (∃ e, answer = .error (.invalid e)) ↔ IsUnusable c.style c.name
  refusal : IsUnusable c.style c.name → answer = .error (.invalid ⟨c.name⟩)
  isIdentifier : ¬ IsUnusable c.style c.name → IsIdentifier (converted c.style c.name).toList
  made : ¬ IsUnusable c.style c.name →
    answer = if c.escaped ∧ converted c.style c.name ∈ s.reserved
      then (s.pattern.fill (converted c.style c.name)).mapError .pattern
      else .ok (converted c.style c.name)

theorem convert_of_isUnusable (s : Sanitizer) {c : Conversion} (h : IsUnusable c.style c.name) :
    s.convert c = .error (.invalid ⟨c.name⟩) := by
  rw [Sanitizer.convert, Sanitizer.sanitize, identifier_of_isUnusable h]
  rfl

theorem convert_of_not_isUnusable (s : Sanitizer) {c : Conversion}
    (h : ¬ IsUnusable c.style c.name) :
    s.convert c = if c.escaped ∧ converted c.style c.name ∈ s.reserved
      then (s.pattern.fill (converted c.style c.name)).mapError .pattern
      else .ok (converted c.style c.name) := by
  rw [Sanitizer.convert, Sanitizer.sanitize, identifier_of_not_isUnusable h]
  show (if c.escaped then (s.escape (converted c.style c.name)).mapError Refusal.pattern
    else .ok (converted c.style c.name)) = _
  cases c.escaped with
  | false => rfl
  | true =>
    rw [if_pos rfl, Sanitizer.escape]
    by_cases hreserved : converted c.style c.name ∈ s.reserved
    · rw [if_pos (List.contains_iff_mem.mpr hreserved), if_pos ⟨rfl, hreserved⟩]
    · rw [if_neg (mt List.contains_iff_mem.mp hreserved), if_neg (fun h => hreserved h.2)]
      rfl

theorem isSettled_convert (s : Sanitizer) (c : Conversion) : IsSettled s c (s.convert c) := by
  refine ⟨⟨?_, fun h => ⟨_, convert_of_isUnusable s h⟩⟩, convert_of_isUnusable s,
    (isIdentifier_converted_iff c.style c.name).mpr, convert_of_not_isUnusable s⟩
  rintro ⟨e, hanswer⟩
  by_contra h
  rw [convert_of_not_isUnusable s h] at hanswer
  split at hanswer
  next => exact absurd hanswer (by cases s.pattern.fill _ <;> simp [Except.mapError])
  next => exact absurd hanswer (by simp)

/-- **A name is refused exactly if it is unusable**, whatever a sanitizer was asked for before,
and else gives an identifier. -/
theorem recallAll_isSettled (s : Sanitizer) (asked : List Conversion) :
    List.Forall₂ (IsSettled s) asked (s.recallAll [] asked) := by
  rw [recallAll_eq (Memory.isSound_nil s), List.forall₂_map_right_iff]
  exact List.forall₂_same.mpr fun c _ => isSettled_convert s c

/-- A capital I with a dot is a word character, but its lower case is not. -/
theorem dottedCapital_refused :
    words "İstanbul".toList = ["İstanbul".toList] ∧
      Sanitizer.recallAll {} [] [⟨"İstanbul", .camel, true⟩] =
        [.error (.invalid ⟨"İstanbul"⟩)] := by
  decide +kernel

end ScriptingBindings.Identifier
