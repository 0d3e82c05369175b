/-
  ScriptingBindings.Proofs.Swift.RawValues
  ──────────────────────────────────
  **RAW VALUES.**

  A value of an enumeration is declared with the literal for its code:

      case yes = 0x79657320

  Values are told apart by their names alone, of several with one name the
  first is declared.  What the literals denote can be equal: codes may repeat,
  characters outside ASCII all count as zero, and one number has spellings of
  four characters and of hexadecimal digits.  So an enumeration is well formed
  exactly if no two of its values denote the same:

      AreWellFormed d.cases  ↔  codeValue v ≠ codeValue v' for v before v'
-/
import ScriptingBindings.Proofs.FourCharCode
import ScriptingBindings.Proofs.Swift.Aliases
import ScriptingBindings.Proofs.Swift.LineStarts

namespace ScriptingBindings.FourCharCode

open Text

/-! ## §1. Hexadecimal texts. -/

instance (s : List Char) : Decidable (AreDigits s) :=
  List.decidableBAll (fun c : Char => c.toLower ∈ smallDigits) s

theorem isHexDigit_iff (c : Char) : isHexDigit c = true ↔ c.toLower ∈ smallDigits := by
  rw [isHexDigit, hexValue?_eq]
  by_cases hc : c.toLower ∈ smallDigits
  · simp [hc]
  · simp [hc]

/-- A hexadecimal text starts with a digit and goes on with digits up to its end. -/
theorem isHexadecimal_cons (c : Char) (s : List Char) :
    isHexadecimal (c :: s) = true ↔ isHexDigit c = true ∧
      (s.dropWhile isHexDigit = [] ∨ s.dropWhile isHexDigit = ['\n']) := by
  rw [isHexadecimal, List.span_eq_takeWhile_dropWhile]
  by_cases hc : isHexDigit c = true
  · rw [List.takeWhile_cons_of_pos hc, List.dropWhile_cons_of_pos hc, and_iff_right hc]
    generalize s.dropWhile isHexDigit = rest
    split
    next heq => exact absurd (Prod.mk.inj heq).1 (List.cons_ne_nil c _)
    next heq => exact iff_of_true rfl (.inl (Prod.mk.inj heq).2)
    next heq => exact iff_of_true rfl (.inr (Prod.mk.inj heq).2)
    next hnil hfeed =>
      refine iff_of_false Bool.false_ne_true ?_
      rintro (rfl | rfl)
      · exact hnil _ rfl
      · exact hfeed _ rfl
  · rw [List.takeWhile_cons_of_neg hc]
    exact iff_of_false Bool.false_ne_true fun h => hc h.1

/-- **A hexadecimal text** has digits, and a line feed may end it. -/
theorem isHexadecimal_iff (s : List Char) :
    isHexadecimal s = true ↔ withoutEnd s ≠ [] ∧ AreDigits (withoutEnd s) := by
  have hdigits : ∀ t : List Char, AreDigits t ↔ ∀ c ∈ t, isHexDigit c = true := fun t =>
    forall₂_congr fun c _ => (isHexDigit_iff c).symm
  have hfeed : isHexDigit '\n' = false := by decide
  cases s with
  | nil => exact iff_of_false Bool.false_ne_true fun h => h.1 rfl
  | cons c s =>
    rw [isHexadecimal_cons, dropWhile_isEnd_iff hfeed, hdigits]
    by_cases hc : c = '\n'
    · -- A line feed is no digit, so a text of one starts without any.
      subst hc
      refine iff_of_false (fun h => absurd (h.1.symm.trans hfeed) (by simp)) fun h => ?_
      rcases withoutEnd_cases ('\n' :: s) with hs | hs
      · rw [hs] at h
        exact absurd ((h.2 '\n' List.mem_cons_self).symm.trans hfeed) (by simp)
      · obtain ⟨d, rest, hd⟩ := List.exists_cons_of_ne_nil h.1
        rw [hd] at hs h
        rw [← (List.cons.inj hs).1] at h
        exact absurd ((h.2 '\n' List.mem_cons_self).symm.trans hfeed) (by simp)
    · rw [withoutEnd_cons hc, List.forall_mem_cons, and_iff_right (List.cons_ne_nil c _)]

/-- A text with a prefix is no number without it. -/
theorem isHexadecimal_of_hasPrefix {s : List Char} (h : hasPrefix s = true) :
    isHexadecimal s = false := by
  rw [Bool.eq_false_iff]
  intro hhex
  obtain ⟨-, hdigits⟩ := (isHexadecimal_iff s).mp hhex
  obtain ⟨rest, rfl | rfl⟩ := (hasPrefix_iff s).mp h
  · exact absurd (hdigits 'x' (mem_withoutEnd (by simp) (by decide))) (by decide)
  · exact absurd (hdigits 'X' (mem_withoutEnd (by simp) (by decide))) (by decide)

/-! ## §2. What literals and codes denote. -/

/-- What a literal denotes. -/
inductive RawValue where
  | number (n : Nat)
  | text (s : List Char)
  deriving Repr, DecidableEq

/-- The value of a literal: the number after `0x` or else the text between quotes.  A line feed
behind digits ends the line and is no part of the number. -/
def denoted : List Char → RawValue
  | '0' :: 'x' :: digits => .number (numberOf (withoutEnd digits))
  | literal => .text (literal.drop 1).dropLast

/-- The digits of a code that spells a number, with a prefix or without. -/
def numeral (code : List Char) : List Char := withoutEnd (withoutPrefix code)

/-- The value of a code: the number that four characters are packed into, the number that another
code spells, or the code itself. -/
def codeValue (code : List Char) : RawValue :=
  if code.length = 4 then .number (packed code)
  else if numeral code ≠ [] ∧ AreDigits (numeral code) then .number (numberOf (numeral code))
  else .text code

theorem denoted_digits (digits : List Char) :
    denoted ('0' :: 'x' :: digits) = .number (numberOf (withoutEnd digits)) := rfl

theorem denoted_quoted (code : List Char) : denoted ('\'' :: code ++ ['\'']) = .text code := by
  rw [denoted.eq_2]
  · rw [List.cons_append, List.drop_one, List.tail_cons, List.dropLast_concat]
  · intro digits h
    exact absurd (List.cons.inj h).1 (by decide)

/-- The literal for a code that spells a number, or is not four characters. -/
theorem denoted_encodeChars_of_length_ne {code : List Char} (h : code.length ≠ 4) :
    denoted (encodeChars code)
      = if isHexadecimal (withoutPrefix code) then .number (numberOf (numeral code))
        else .text code := by
  unfold encodeChars numeral
  rw [if_neg h]
  by_cases hprefixed : hasPrefix code = true
  · have hdrop : withoutPrefix code = code.drop 2 := if_pos hprefixed
    rw [hprefixed, Bool.true_and, hdrop, isHexadecimal_of_hasPrefix hprefixed]
    by_cases hhex : isHexadecimal (code.drop 2) = true
    · rw [if_pos hhex, if_pos hhex, denoted_digits]
    · rw [if_neg hhex, if_neg hhex, if_neg Bool.false_ne_true, denoted_quoted]
  · have hkeep : withoutPrefix code = code := if_neg hprefixed
    rw [Bool.not_eq_true] at hprefixed
    rw [hprefixed, Bool.false_and, if_neg Bool.false_ne_true, hkeep]
    by_cases hhex : isHexadecimal code = true
    · rw [if_pos hhex, if_pos hhex, denoted_digits]
    · rw [if_neg hhex, if_neg hhex, denoted_quoted]

/-- **The literal for a code denotes the value of the code.** -/
theorem denoted_encode (code : String) :
    denoted (encode code).toList = codeValue code.toList := by
  unfold codeValue
  by_cases hlength : code.toList.length = 4
  · obtain ⟨digits, hliteral, -, hsmall, hnumber, -⟩ :=
      exists_digits_of_encode (String.length_toList.symm.trans hlength)
    have hfeed : '\n' ∉ digits := fun hmem => absurd (hsmall '\n' hmem) (by decide)
    rw [if_pos hlength, hliteral, denoted_digits, withoutEnd_of_not_mem hfeed, hnumber]
  · rw [if_neg hlength, encode, String.toList_ofList, denoted_encodeChars_of_length_ne hlength]
    exact if_congr (isHexadecimal_iff _) rfl rfl

/-! ## §3. Codes with one value. -/

/-- Codes of one length are packed into one number exactly if they agree, characters outside ASCII
aside. -/
theorem packed_eq_iff {a b : List Char} (h : a.length = b.length) :
    packed a = packed b ↔ a.map asciiNumber = b.map asciiNumber := by
  have hlt : ∀ s : List Char, ∀ n ∈ (s.map asciiNumber).reverse, n < 256 := by
    intro s n hn
    obtain ⟨c, -, rfl⟩ := List.mem_map.mp (List.mem_reverse.mp hn)
    exact asciiNumber_lt c
  constructor
  · intro hsame
    refine List.reverse_injective (Nat.ofDigits_inj_of_len_eq (by decide) ?_ (hlt a) (hlt b) hsame)
    rw [List.length_reverse, List.length_reverse, List.length_map, List.length_map, h]
  · intro hsame
    rw [packed, packed, hsame]

theorem codeValue_of_length {code : List Char} (h : code.length = 4) :
    codeValue code = .number (packed code) := if_pos h

/-- **Codes of four characters share a value** exactly if they agree, characters outside ASCII
aside. -/
theorem codeValue_eq_iff {a b : List Char} (ha : a.length = 4) (hb : b.length = 4) :
    codeValue a = codeValue b ↔ a.map asciiNumber = b.map asciiNumber := by
  rw [codeValue_of_length ha, codeValue_of_length hb, RawValue.number.injEq,
    packed_eq_iff (ha.trans hb.symm)]

/-- Different codes of ASCII have different values. -/
theorem codeValue_inj {a b : String} (ha : IsAsciiCode a) (hb : IsAsciiCode b) :
    codeValue a.toList = codeValue b.toList ↔ a = b := by
  constructor
  · intro hsame
    rw [codeValue_eq_iff (by rw [String.length_toList, ha.1])
      (by rw [String.length_toList, hb.1])] at hsame
    -- The numbers of characters of ASCII are those of the characters.
    have hback : ∀ s : String, IsAsciiCode s → (s.toList.map asciiNumber).map Char.ofNat
        = s.toList := by
      intro s hs
      rw [List.map_map]
      refine (List.map_congr_left fun c hc => ?_).trans (List.map_id _)
      rw [Function.comp_apply, asciiNumber_of_lt (hs.2 c hc), Char.ofNat_toNat, id]
    rw [← String.toList_inj, ← hback a ha, ← hback b hb, hsame]
  · intro hsame
    rw [hsame]

end ScriptingBindings.FourCharCode

namespace ScriptingBindings.Swift

open Dictionary Template Text FourCharCode

/-! ## §4. The values of an enumeration. -/

/-- What the literal of a value denotes. -/
def CaseDeclaration.rawValue (c : CaseDeclaration) : RawValue := denoted (encode c.code).toList

/-- Values that make an enumeration: some, with different names and different raw values. -/
structure AreWellFormed (cases : List CaseDeclaration) : Prop where
  ne_nil : cases ≠ []
  nodup_names : (cases.map CaseDeclaration.name).Nodup
  nodup_values : (cases.map CaseDeclaration.rawValue).Nodup

/-- No two declared values of an enumeration have codes of one value. -/
def HasApartCodes (e : Enumeration) : Prop :=
  (declaredValues e).Pairwise fun v v' => codeValue v.code.toList ≠ codeValue v'.code.toList

/-- What is declared for the values of an enumeration: the first of each name, at least one, and
well formed exactly if their codes have different values. -/
structure DeclaresValues (e : Enumeration) (d : EnumerationDeclaration) : Prop where
  firsts : d.cases = (declaredValues e).map valueDeclaration
  ne_nil : d.cases ≠ []
  nodup_names : (d.cases.map CaseDeclaration.name).Nodup
  wellFormed_iff : AreWellFormed d.cases ↔ HasApartCodes e
  wellFormed_iff_of_ascii : (∀ v ∈ declaredValues e, IsAsciiCode v.code) →
    (AreWellFormed d.cases ↔ ((declaredValues e).map Enumerator.code).Nodup)

section Values

variable {names : Names} {e : Enumeration} {d : EnumerationDeclaration}

theorem name_valueDeclaration (v : Enumerator) : (valueDeclaration v).name = valueName v := by
  simp only [valueDeclaration]

theorem rawValue_valueDeclaration (v : Enumerator) :
    (valueDeclaration v).rawValue = codeValue v.code.toList :=
  denoted_encode v.code

/-- Some value of an enumeration that has values is declared. -/
theorem declaredValues_ne_nil (h : e.enumerators ≠ []) : declaredValues e ≠ [] := by
  obtain ⟨v, rest, heq⟩ := List.exists_cons_of_ne_nil h
  rw [declaredValues, heq, firstOfEach_cons_of_not_mem valueName List.not_mem_nil]
  exact List.cons_ne_nil _ _

/-- Raw values are different exactly if those of the codes are. -/
theorem nodup_rawValues_iff (vs : List Enumerator) :
    ((vs.map valueDeclaration).map CaseDeclaration.rawValue).Nodup ↔
      vs.Pairwise fun v v' => codeValue v.code.toList ≠ codeValue v'.code.toList := by
  rw [List.map_map, List.Nodup, List.pairwise_map]
  simp only [Function.comp_apply, rawValue_valueDeclaration]

/-- Codes of ASCII have different values exactly if they are different. -/
theorem hasApartCodes_iff_of_ascii (h : ∀ v ∈ declaredValues e, IsAsciiCode v.code) :
    HasApartCodes e ↔ ((declaredValues e).map Enumerator.code).Nodup := by
  rw [HasApartCodes, List.Nodup, List.pairwise_map]
  refine List.Pairwise.iff_of_mem fun {v v'} hv hv' => ?_
  exact not_congr (codeValue_inj (h v hv) (h v' hv'))

/-- **What is declared for the values of an enumeration.** -/
theorem declaresValues_of_declared (he : e.enumerators ≠ [])
    (h : (declareEnumeration names e).outcome = .ok d) : DeclaresValues e d := by
  obtain ⟨-, hcases, -⟩ := cases_of_declareEnumeration h
  have hne : d.cases ≠ [] := by
    rw [hcases]
    exact mt List.map_eq_nil_iff.mp (declaredValues_ne_nil he)
  have hnames : (d.cases.map CaseDeclaration.name).Nodup := by
    simp only [hcases, List.map_map, Function.comp_def, name_valueDeclaration]
    exact nodup_map_firstOfEach valueName [] e.enumerators
  have hiff : AreWellFormed d.cases ↔ HasApartCodes e := by
    have hvalues := nodup_rawValues_iff (declaredValues e)
    rw [← hcases] at hvalues
    exact ⟨fun hw => hvalues.mp hw.nodup_values, fun ha => ⟨hne, hnames, hvalues.mpr ha⟩⟩
  exact ⟨hcases, hne, hnames, hiff, fun hascii => hiff.trans (hasApartCodes_iff_of_ascii hascii)⟩

end Values

/-! ## §5. The fixed save options. -/

/-- The declarations of the save options. -/
def saveDeclarations : List CaseDeclaration := saveCases.map fun c => ⟨c.1, c.2, none⟩

/-- **The save options are well formed.** -/
theorem areWellFormed_saveDeclarations : AreWellFormed saveDeclarations :=
  ⟨by decide, by decide, by decide +kernel⟩

/-- The line of a save option, which also shows its code. -/
def CaseDeclaration.annotatedHead (c : CaseDeclaration) : String :=
  c.head ++ "  // '" ++ c.code ++ "'"

/-- The title above the save options. -/
def saveTitle : String := "Save Options Enum"

/-- The remark above the save options. -/
def saveNote : String := "/// Save options for documents"

/-- The lines of the save options. -/
def saveLines (addComments : Bool) (f : FixedNames) : List (List Char) :=
  titleLines saveTitle ++ (noteLines addComments saveNote
    ++ (linesOf ("@objc public enum " ++ f.saveOptions ++ ": AEKeyword \x7b")
      ++ (saveDeclarations.flatMap (fun c => linesOf c.annotatedHead) ++ [closingLine])))

section Texts

variable {scope : Scope}

theorem fillNodes_saveTitle :
    fillNodes [line "", line "// MARK: - Save Options Enum", line ""] scope
      = .ok (ofLines (titleLines saveTitle)) := by
  rw [ofLines_titleLines]
  rfl

/-- The values that a save option is filled from. -/
def saveValues (c : CaseDeclaration) : Json := .obj [("name", .str c.name), ("code", .str c.code)]

theorem fillNodes_saveOption (c : CaseDeclaration) :
    fillNodes
      [.text "    case ", part "case" "name", .text " = ", part "case" "code" [.fourCharCode],
       .text "  // '", part "case" "code", line "'"]
      (("case", saveValues c) :: scope) = .ok (ofLines (linesOf c.annotatedHead)) := by
  have hname : Ref.find (("case", saveValues c) :: scope) ⟨"case", some "name"⟩
      = .ok (.str c.name) := rfl
  have hcode : Ref.find (("case", saveValues c) :: scope) ⟨"case", some "code"⟩
      = .ok (.str c.code) := rfl
  have hliteral : filtered [.fourCharCode] (.str c.code) = .ok (.str (encode c.code)) := rfl
  unfold CaseDeclaration.annotatedHead CaseDeclaration.head
  rw [← append_lineFeed]
  simp only [fillNodes_cons_cons, fillNodes_singleton, fillNode, line, part, hname, hcode, hliteral,
    filtered_nil, ok_bind, pure_eq_ok, Json.display_str, String.append_assoc]

end Texts

/-- The values that the standard declarations are filled from. -/
def standardScope (addComments : Bool) (f : FixedNames) : Scope :=
  [("add_comments", .bool addComments), ("save_options", .str f.saveOptions),
   ("generic_methods", .str f.genericMethods),
   ("save_cases", .arr (saveDeclarations.map saveValues))]

/-- The template of the standard declarations starts with the save options. -/
theorem standardTemplate_eq_append :
    standardTemplate = standardTemplate.take 9 ++ standardTemplate.drop 9 := rfl

/-- **The standard declarations start with the save options.** -/
theorem exists_standardText_eq {addComments : Bool} {f : FixedNames} {text : String}
    (h : standardText addComments f = .ok text) :
    ∃ back, text = ofLines (saveLines addComments f) ++ back := by
  have hfill := (page_eq_ok (t := standardTemplate) rfl rfl).mp h
  rw [standardTemplate_eq_append] at hfill
  obtain ⟨front, back, hfront, -, rfl⟩ := fillNodes_append_eq_ok.mp hfill
  refine ⟨back, congrArg (· ++ back) (Except.ok.inj (hfront.symm.trans ?_))⟩
  refine fillNodes_append_of fillNodes_saveTitle ?_
  refine fillNodes_cons_of (fillNode_remark rfl rfl) ?_
  refine fillNodes_append_of (fillNodes_slotLine "@objc public enum " ": AEKeyword \x7b" rfl) ?_
  have hcases : Ref.find (standardScope addComments f) ⟨"save_cases", none⟩
      = .ok (.arr (saveDeclarations.map saveValues)) := rfl
  exact fillNodes_cons_of (fillNode_each_of hcases fillNodes_saveOption) rfl

/-! ## §6. The enumerations of a file. -/

section Files

variable {o : Options} {names : Names} {basename : String} {d : Dictionary} {p : Plan}
  {es : List EnumerationDeclaration} {ps : List ProtocolDeclaration} {w : Parts}

/-- The enumerations of a plan have values. -/
theorem enumerators_ne_nil_of_plan (h : (plan d basename).value = (names, .ok p)) :
    ∀ e ∈ p.enumerations, e.enumerators ≠ [] := by
  intro e he
  rw [(enumerations_of_plan h).1] at he
  obtain ⟨hvalued, -⟩ := mem_of_mem_firstOfEach names.enumerationOf he
  have hkept := (List.mem_filter.mp hvalued).2
  simpa using hkept

/-- The enumerations of a file. -/
theorem Contents.declaresValues (hplan : (plan d basename).value = (names, .ok p))
    (h : Contents o names basename p es ps w) : List.Forall₂ DeclaresValues p.enumerations es := by
  refine List.forall₂_iff_get.mpr ?_
  obtain ⟨hlength, hdeclared⟩ := List.forall₂_iff_get.mp h.enumerations
  refine ⟨hlength, fun i hi hi' => ?_⟩
  exact declaresValues_of_declared
    (enumerators_ne_nil_of_plan hplan _ (List.get_mem p.enumerations ⟨i, hi⟩)) (hdeclared i hi hi')

/-- The texts of the enumerations of a file. -/
theorem Contents.enumerationTexts_eq (h : Contents o names basename p es ps w) :
    w.enumerations = es.map fun e => ofLines (e.lines o.addComments) := by
  have htexts := h.enumerationTexts
  clear h
  generalize w.enumerations = texts at htexts
  induction htexts with
  | nil => rfl
  | cons ht _ ih =>
    rw [EnumerationDeclaration.text_eq, Except.ok.injEq] at ht
    rw [List.map_cons, ih, ht]

end Files

/-- **The enumerations of a file.**  The save options are well formed.  Every other enumeration
that is declared has at least one value and no name twice, and it is well formed exactly if the
codes of its values denote different values; codes of ASCII do so if they are different. -/
theorem generate_declaresValues (o : Options) (d : Dictionary) (basename text : String)
    (names : Names) (h : (generate o d basename).value = (names, .ok text)) :
    ∃ p es ps w, (plan d basename).value = (names, .ok p) ∧
      Contents o names basename p es ps w ∧ text = joinParts w.all ∧
      (∃ back, w.standard = ofLines (saveLines o.addComments (.of basename)) ++ back) ∧
      AreWellFormed saveDeclarations ∧
      w.enumerations = es.map (fun e => ofLines (e.lines o.addComments)) ∧
      List.Forall₂ DeclaresValues p.enumerations es := by
  obtain ⟨p, es, ps, w, hplan, hw, htext⟩ := contents_of_generate h
  exact ⟨p, es, ps, w, hplan, hw, htext, exists_standardText_eq hw.standard,
    areWellFormed_saveDeclarations, hw.enumerationTexts_eq, hw.declaresValues hplan⟩

theorem generate_declaresValues_player :
    ∃ names text, (generate richOptions playerDictionary "Music").value = (names, .ok text) ∧
      ∃ p es ps w, (plan playerDictionary "Music").value = (names, .ok p) ∧
        Contents richOptions names "Music" p es ps w ∧ text = joinParts w.all ∧
        (∃ back, w.standard
          = ofLines (saveLines richOptions.addComments (.of "Music")) ++ back) ∧
        AreWellFormed saveDeclarations ∧
        w.enumerations = es.map (fun e => ofLines (e.lines richOptions.addComments)) ∧
        List.Forall₂ DeclaresValues p.enumerations es := by
  obtain ⟨names, text, h⟩ := exists_text_of_isSome
    (r := (generate richOptions playerDictionary "Music").value) (by decide +kernel)
  exact ⟨names, text, h,
    generate_declaresValues richOptions playerDictionary "Music" text names h⟩

/-- Enumerations with a code that comes twice, with two characters outside ASCII, and with a code
of four characters beside the digits that spell its number. -/
def sharedCodesDictionary : Dictionary :=
  { suites := [
      { name := "Player Suite"
        enumerations := [
          { name := "player state"
            enumerators := [{ name := "stopped", code := "kPSS" },
              { name := "halted", code := "kPSS" }] },
          { name := "accent"
            enumerators := [{ name := "acute", code := "é   " },
              { name := "diaeresis", code := "ü   " }] },
          { name := "spelling"
            enumerators := [{ name := "packed", code := "abcd" },
              { name := "written out", code := "61626364" }] }] }] }

/-- **An enumeration need not be well formed**: values with different names can denote the same. -/
theorem raw_values_shared :
    ∃ names text, (generate richOptions sharedCodesDictionary "Music").value = (names, .ok text) ∧
      ∃ p es ps w, (plan sharedCodesDictionary "Music").value = (names, .ok p) ∧
        Contents richOptions names "Music" p es ps w ∧ text = joinParts w.all ∧
        es.length = 3 ∧ ∀ e ∈ es, ¬ AreWellFormed e.cases := by
  obtain ⟨names, text, h⟩ := exists_text_of_isSome
    (r := (generate richOptions sharedCodesDictionary "Music").value) (by decide +kernel)
  obtain ⟨p, es, ps, w, hplan, hw, htext⟩ := contents_of_generate h
  have hplanned : p.enumerations = sharedCodesDictionary.enumerations := by
    rw [(enumerations_of_plan hplan).1, (plan_eq_ok hplan).1.enumerationOf_eq]
    decide +kernel
  have hdeclares := hw.declaresValues hplan
  rw [hplanned] at hdeclares
  refine ⟨names, text, h, p, es, ps, w, hplan, hw, htext, hdeclares.length_eq.symm, ?_⟩
  intro e he hwell
  obtain ⟨source, hsource, hvalues⟩ := exists_right_of_forall₂ hdeclares.flip he
  have hshared : ∀ e ∈ sharedCodesDictionary.enumerations,
      ¬ ((declaredValues e).map fun v => codeValue v.code.toList).Nodup := by
    decide +kernel
  refine hshared source hsource ?_
  rw [List.Nodup, List.pairwise_map]
  exact hvalues.wellFormed_iff.mp hwell

end ScriptingBindings.Swift
