/-
  ScriptingBindings.Proofs.Json.Tokens
  ──────────────────────────────────
  **TEXTS AND NUMBERS ARE READ BACK.**

  A text is written with escapes and between quotes, so that its end can be
  told.  A number ends where no more of it follows:

      readString (written s ++ rest) = (s, rest)
      readNumber (digits ++ rest) = (number, rest)    if no number goes on in rest

  Integers are read back digit by digit.  A number with a fraction is written
  in one of four layouts, and all of them have the same normal form.
-/
import ScriptingBindings.Json.Reader
import ScriptingBindings.Json.Writer
import ScriptingBindings.Proofs.Decimal.Rounding

namespace ScriptingBindings.Json

open Text

/-! ## §1. Texts. -/

theorem hexValue?_hexDigit {n : Nat} (h : n < 16) : hexValue? (hexDigit n) = some n := by
  have hall : ∀ n < 16, hexValue? (hexDigit n) = some n := by decide
  exact hall n h

/-- Four hexadecimal digits are read back. -/
theorem fourHex?_hexDigits {n : Nat} (h : n < 65536) (rest : List Char) :
    fourHex? (hexDigits 4 n ++ rest) = some (n, rest) := by
  have hvalue (m : Nat) : hexValue? (hexDigit (m % 16)) = some (m % 16) :=
    hexValue?_hexDigit (Nat.mod_lt m (by decide))
  have hdigits : hexDigits 4 n ++ rest = hexDigit (n / 16 / 16 / 16 % 16) ::
      hexDigit (n / 16 / 16 % 16) :: hexDigit (n / 16 % 16) :: hexDigit (n % 16) :: rest := rfl
  have hn : ((n / 16 / 16 / 16 % 16 * 16 + n / 16 / 16 % 16) * 16 + n / 16 % 16) * 16 + n % 16
      = n := by
    omega
  rw [hdigits, fourHex?]
  simp only [hvalue, Option.bind_eq_bind, Option.bind_some, Option.pure_def, hn]

/-- The number of a control character is read back as the character. -/
theorem unicodeEscape?_hexDigits {c : Char} (h : c.toNat < 0x20) (rest : List Char) :
    unicodeEscape? (hexDigits 4 c.toNat ++ rest) = some (.char c, rest) := by
  have hhigh : (decide (0xD800 ≤ c.toNat) && decide (c.toNat ≤ 0xDBFF)) = false := by
    simp only [Bool.and_eq_false_iff, decide_eq_false_iff_not]
    omega
  have hcode : codeOf c.toNat = .char c := by
    rw [codeOf, dif_neg (by omega), Char.ofNat_toNat]
  unfold unicodeEscape?
  simp only [fourHex?_hexDigits (show c.toNat < 65536 by omega), Option.bind_eq_bind,
    Option.bind_some, hhigh, Bool.false_eq_true, if_false, Option.pure_def, hcode]

/-- **A written character is read back.** -/
theorem stringBody?_writtenChar (fuel : Nat) (before : List Code) (c : Char) (s : List Char) :
    stringBody? (fuel + 1) before (writtenChar c ++ s) = stringBody? fuel (.char c :: before) s := by
  unfold writtenChar
  -- One case for each way to write a character, in the order of the writer.
  split_ifs with hquote hbackslash hfeed hreturn htab hback hform hcontrol
  · subst hquote; rfl
  · subst hbackslash; rfl
  · subst hfeed; rfl
  · subst hreturn; rfl
  · subst htab; rfl
  · subst hback; rfl
  · subst hform; rfl
  · have hescape : escape? ('u' :: (hexDigits 4 c.toNat ++ s)) = some (.char c, s) := by
      rw [escape?, unicodeEscape?_hexDigits hcontrol]
    rw [List.cons_append, List.cons_append, stringBody?, hescape]
  · rw [List.singleton_append, stringBody?]
    · rw [if_neg hcontrol]
    · exact fun h => hquote h
    · exact fun h => hbackslash h

theorem stringBody?_flatMap {s : List Char} {fuel : Nat} (h : s.length < fuel)
    (before : List Code) (rest : List Char) :
    stringBody? fuel before (s.flatMap writtenChar ++ '"' :: rest)
      = some (before.reverse ++ s.map .char, rest) := by
  -- The characters read so far are free: each one goes on top of them.
  induction s generalizing fuel before with
  | nil =>
    obtain ⟨fuel, rfl⟩ : ∃ n, fuel = n + 1 := Nat.exists_eq_succ_of_ne_zero (by omega)
    rw [List.map_nil, List.append_nil]
    rfl
  | cons c s ih =>
    rw [List.length_cons] at h
    obtain ⟨fuel, rfl⟩ : ∃ n, fuel = n + 1 := Nat.exists_eq_succ_of_ne_zero (by omega)
    rw [List.flatMap_cons, List.append_assoc, stringBody?_writtenChar, ih (by omega),
      List.reverse_cons, List.append_assoc, List.singleton_append, List.map_cons]

theorem one_le_length_writtenChar (c : Char) : 1 ≤ (writtenChar c).length := by
  unfold writtenChar
  split_ifs <;> simp

theorem length_le_flatMap_writtenChar (s : List Char) :
    s.length ≤ (s.flatMap writtenChar).length := by
  induction s with
  | nil => rfl
  | cons c s ih =>
    rw [List.flatMap_cons, List.length_append, List.length_cons]
    have := one_le_length_writtenChar c
    omega

/-- **A written text is read back**, as its characters. -/
theorem readString_written (s : String) (rest : List Char) :
    readString (s.toList.flatMap writtenChar ++ '"' :: rest) = .ok (s.toList.map .char, rest) := by
  have hfuel : s.toList.length < (s.toList.flatMap writtenChar ++ '"' :: rest).length + 1 := by
    have := length_le_flatMap_writtenChar s.toList
    rw [List.length_append]
    omega
  unfold readString
  rw [stringBody?_flatMap hfuel, List.reverse_nil, List.nil_append]

/-! ## §2. Digits. -/

/-- Digits and nothing else. -/
def AreNumerals (s : List Char) : Prop :=
  ∀ c ∈ s, c.isDigit = true

/-- No digit comes first. -/
def NoNumeralNext (s : List Char) : Prop :=
  ∀ c, s.head? = some c → c.isDigit = false

variable {digits rest : List Char}

theorem areNumerals_toDigits (n : Nat) : AreNumerals (Nat.toDigits 10 n) := by
  intro c hc
  exact Nat.isDigit_of_mem_toDigits (by decide) (by decide) hc

theorem areNumerals_zeros (k : Nat) : AreNumerals (List.replicate k '0') := by
  intro c hc
  rw [List.eq_of_mem_replicate hc]
  decide

theorem AreNumerals.append {more : List Char} (h : AreNumerals digits) (hmore : AreNumerals more) :
    AreNumerals (digits ++ more) := by
  intro c hc
  exact (List.mem_append.mp hc).elim (h c) (hmore c)

theorem span_isDigit (h : AreNumerals digits) (hrest : NoNumeralNext rest) :
    (digits ++ rest).span Char.isDigit = (digits, rest) := by
  rw [List.span_eq_takeWhile_dropWhile]
  have htake : rest.takeWhile Char.isDigit = [] ∧ rest.dropWhile Char.isDigit = rest := by
    cases rest with
    | nil => exact ⟨rfl, rfl⟩
    | cons c rest => simp [hrest c rfl]
  rw [List.takeWhile_append_of_pos h, List.dropWhile_append_of_pos h, htake.1, htake.2,
    List.append_nil]

theorem numeralValue_append (digits more : List Char) :
    numeralValue (digits ++ more) = 10 ^ more.length * numeralValue digits + numeralValue more := by
  show Nat.ofDigitChars 10 (digits ++ more) 0 = _
  rw [Nat.ofDigitChars_append, Nat.ofDigitChars_eq_ofDigitChars_zero]
  rfl

theorem numeralValue_toDigits (n : Nat) : numeralValue (Nat.toDigits 10 n) = n :=
  Nat.ofDigitChars_toDigits (by decide) (by decide)

theorem numeralValue_zeros (k : Nat) : numeralValue (List.replicate k '0') = 0 := by
  show Nat.ofDigitChars 10 (List.replicate k '0') 0 = 0
  rw [Nat.ofDigitChars_replicate_zero, Nat.mul_zero]

/-- Digits in front of a point: a lone zero, or digits of which the first is another one. -/
def IsWhole (digits : List Char) : Prop :=
  digits = ['0'] ∨ AreNumerals digits ∧ ∃ c, digits.head? = some c ∧ c ≠ '0'

theorem head_toDigits {n : Nat} (hn : n ≠ 0) :
    ∃ c, (Nat.toDigits 10 n).head? = some c ∧ c ≠ '0' := by
  -- The first digit is that of the number without its last one.
  induction n using Nat.strongRecOn with
  | ind n ih =>
    rw [Nat.toDigits_eq_if (by decide)]
    split
    next hlt =>
      have hall : ∀ n < 10, n ≠ 0 → Nat.digitChar n ≠ '0' := by decide
      exact ⟨_, rfl, hall n hlt hn⟩
    next hge =>
      obtain ⟨c, hc, hzero⟩ := ih (n / 10) (by omega) (by omega)
      exact ⟨c, by rw [List.head?_append, hc, Option.some_or], hzero⟩

theorem isWhole_toDigits (n : Nat) : IsWhole (Nat.toDigits 10 n) := by
  by_cases hn : n = 0
  · exact .inl (hn ▸ Nat.toDigits_zero 10)
  · exact .inr ⟨areNumerals_toDigits n, head_toDigits hn⟩

theorem wholePart?_append (h : IsWhole digits) (hrest : NoNumeralNext rest) :
    wholePart? (digits ++ rest) = some (digits, rest) := by
  rcases h with rfl | ⟨hall, c, hc, hzero⟩
  · rfl
  · cases digits with
    | nil => exact absurd hc (by simp)
    | cons first digits =>
      obtain rfl := Option.some.inj hc
      have hspan := span_isDigit hall hrest
      rw [List.cons_append] at hspan ⊢
      unfold wholePart?
      split
      next heq => exact absurd (List.cons.inj heq).1 hzero
      next => rw [hspan]

theorem fractionPart_append (hne : digits ≠ []) (h : AreNumerals digits)
    (hrest : NoNumeralNext rest) : fractionPart ('.' :: (digits ++ rest)) = (digits, rest) := by
  cases digits with
  | nil => exact absurd rfl hne
  | cons c digits =>
    rw [fractionPart, span_isDigit h hrest]

theorem fractionPart_of_ne (h : rest.head? ≠ some '.') : fractionPart rest = ([], rest) := by
  unfold fractionPart
  split
  next => exact absurd rfl h
  next => rfl

/-- An exponent is written with a sign and with zeros in front of its digits. -/
theorem toList_exponentText (e : Int) :
    ∃ k, (exponentText e).toList =
      (if e < 0 then '-' else '+') :: (List.replicate k '0' ++ Nat.toDigits 10 e.natAbs) := by
  have hdigits : (toString e.natAbs).toList = Nat.toDigits 10 e.natAbs := Nat.toList_repr
  have hsign : (if e < 0 then "-" else "+").toList = [if e < 0 then '-' else '+'] := by
    split <;> rfl
  unfold exponentText
  rw [String.toList_append, hsign, List.singleton_append]
  by_cases hshort : (toString e.natAbs).length < 2
  · refine ⟨1, ?_⟩
    rw [if_pos hshort, String.toList_append, hdigits]
    rfl
  · refine ⟨0, ?_⟩
    rw [if_neg hshort, hdigits]
    rfl

theorem exponentPart_append (e : Int) (hrest : NoNumeralNext rest) :
    exponentPart ('e' :: ((exponentText e).toList ++ rest)) = (some e, rest) := by
  obtain ⟨k, hk⟩ := toList_exponentText e
  have hall : AreNumerals (List.replicate k '0' ++ Nat.toDigits 10 e.natAbs) :=
    (areNumerals_zeros k).append (areNumerals_toDigits _)
  have hvalue : numeralValue (List.replicate k '0' ++ Nat.toDigits 10 e.natAbs) = e.natAbs := by
    rw [numeralValue_append, numeralValue_zeros, numeralValue_toDigits, Nat.mul_zero, Nat.zero_add]
  have hne : List.replicate k '0' ++ Nat.toDigits 10 e.natAbs ≠ [] :=
    List.append_ne_nil_of_right_ne_nil _ Nat.toDigits_ne_nil
  rw [hk, List.cons_append]
  generalize List.replicate k '0' ++ Nat.toDigits 10 e.natAbs = digits at hall hvalue hne
  cases digits with
  | nil => exact absurd rfl hne
  | cons c digits =>
    by_cases hneg : e < 0
    · have he : -(e.natAbs : Int) = e := by omega
      rw [if_pos hneg]
      unfold exponentPart
      simp only [span_isDigit hall hrest, hvalue, he, decide_true, Bool.true_or, if_true]
    · have he : (e.natAbs : Int) = e := by omega
      rw [if_neg hneg]
      unfold exponentPart
      simp only [span_isDigit hall hrest, hvalue, he, decide_true, Bool.true_or, if_true,
        Bool.false_eq_true, if_false]

theorem exponentPart_of_ne (h : ∀ c, rest.head? = some c → c ≠ 'e' ∧ c ≠ 'E') :
    exponentPart rest = (none, rest) := by
  cases rest with
  | nil => rfl
  | cons c rest =>
    obtain ⟨hsmall, hcapital⟩ := h c rfl
    unfold exponentPart
    simp [hsmall, hcapital]

/-! ## §3. Numbers. -/

/-- No number goes on in a text. -/
def EndsNumber (rest : List Char) : Prop :=
  ∀ c, rest.head? = some c → c.isDigit = false ∧ c ≠ '.' ∧ c ≠ 'e' ∧ c ≠ 'E'

namespace EndsNumber

theorem noNumeralNext (h : EndsNumber rest) : NoNumeralNext rest :=
  fun c hc => (h c hc).1

theorem fractionPart_eq (h : EndsNumber rest) : fractionPart rest = ([], rest) :=
  fractionPart_of_ne fun hc => (h '.' hc).2.1 rfl

theorem exponentPart_eq (h : EndsNumber rest) : exponentPart rest = (none, rest) :=
  exponentPart_of_ne fun c hc => (h c hc).2.2

end EndsNumber

theorem noNumeralNext_cons {c : Char} (h : c.isDigit = false) (s : List Char) :
    NoNumeralNext (c :: s) := by
  intro c' hc'
  exact Option.some.inj hc' ▸ h

/-- Digits without point and exponent are an integer. -/
theorem readUnsigned_digits (negative : Bool) (h : IsWhole digits)
    (hlength : digits.length ≤ digitLimit) (hrest : EndsNumber rest) :
    readUnsigned negative (digits ++ rest)
      = .ok (.int (if negative then -(numeralValue digits : Int) else numeralValue digits),
        rest) := by
  unfold readUnsigned
  rw [wholePart?_append h hrest.noNumeralNext]
  dsimp only
  rw [hrest.fractionPart_eq]
  dsimp only
  rw [hrest.exponentPart_eq]
  dsimp only
  rw [if_neg (not_lt.mpr hlength)]
  rfl

/-- The parts of a number with a fraction or an exponent are put together. -/
theorem readUnsigned_parts (negative : Bool) {s s₁ s₂ whole fraction : List Char}
    {exponent : Option Int} (hwhole : wholePart? s = some (whole, s₁))
    (hfraction : fractionPart s₁ = (fraction, s₂)) (hexponent : exponentPart s₂ = (exponent, rest))
    (h : (fraction.isEmpty && exponent.isNone) = false) :
    readUnsigned negative s = .ok (.fractional (.ofDecimal (.ofParts negative
      (numeralValue (whole ++ fraction)) (exponent.getD 0 - fraction.length))), rest) := by
  unfold readUnsigned
  rw [hwhole]
  dsimp only
  rw [hfraction]
  dsimp only
  rw [hexponent]
  dsimp only
  rw [h]
  rfl

theorem IsWhole.head (h : IsWhole digits) {c : Char} (hc : digits.head? = some c) :
    IsWhole [c] ∧ c.isDigit = true := by
  rcases h with rfl | ⟨hall, c', hc', hzero⟩
  · obtain rfl := Option.some.inj hc
    exact ⟨.inl rfl, by decide⟩
  · obtain rfl := Option.some.inj (hc.symm.trans hc')
    have hdigit : c.isDigit = true := hall c (List.mem_of_mem_head? hc)
    refine ⟨.inr ⟨fun c' hc' => ?_, c, rfl, hzero⟩, hdigit⟩
    rwa [List.mem_singleton.mp hc']

theorem IsWhole.areNumerals (h : IsWhole digits) : AreNumerals digits := by
  rcases h with rfl | ⟨hall, -⟩
  · exact areNumerals_zeros 1
  · exact hall

/-- Digits and a point, and digits behind it. -/
structure IsPointed (text whole fraction : List Char) : Prop where
  text_eq : text = whole ++ '.' :: fraction
  isWhole : IsWhole whole
  areNumerals : AreNumerals fraction
  ne_nil : fraction ≠ []

theorem readUnsigned_pointed {text whole fraction : List Char} (h : IsPointed text whole fraction)
    (negative : Bool) (hrest : EndsNumber rest) :
    readUnsigned negative (text ++ rest) = .ok (.fractional (.ofDecimal (.ofParts negative
      (numeralValue (whole ++ fraction)) (-(fraction.length : Int)))), rest) := by
  have hdot : NoNumeralNext ('.' :: (fraction ++ rest)) := noNumeralNext_cons (by decide) _
  have hparts := readUnsigned_parts negative (wholePart?_append h.isWhole hdot)
    (fractionPart_append h.ne_nil h.areNumerals hrest.noNumeralNext) hrest.exponentPart_eq
    (by simp [h.ne_nil])
  rw [Option.getD_none, zero_sub] at hparts
  rw [h.text_eq, List.append_assoc, List.cons_append]
  exact hparts

/-- The digits around a point are those of a number. -/
def Denotes (d : Decimal) (text : List Char) : Prop :=
  ∃ (whole fraction : List Char) (k : Nat), IsPointed text whole fraction ∧
    numeralValue (whole ++ fraction) = d.digits * 10 ^ k ∧
      -(fraction.length : Int) = d.exponent - k

variable {d : Decimal}

/-- Zeros stand between the point and the digits. -/
theorem denotes_zeros_append (h : d.point ≤ 0) : Denotes d
    ('0' :: '.' :: (List.replicate (-d.point).toNat '0' ++ Nat.toDigits 10 d.digits)) := by
  have hpoint := d.point_eq
  refine ⟨['0'], _, 0, ⟨rfl, .inl rfl, ?_, ?_⟩, ?_, ?_⟩
  · exact (areNumerals_zeros _).append (areNumerals_toDigits _)
  · exact List.append_ne_nil_of_right_ne_nil _ Nat.toDigits_ne_nil
  · rw [numeralValue_append, numeralValue_append, numeralValue_zeros, numeralValue_toDigits]
    simp [numeralValue]
  · rw [List.length_append, List.length_replicate]
    omega

/-- Zeros stand between the digits and the point. -/
theorem denotes_append_zeros (h : (Nat.toDigits 10 d.digits).length ≤ d.point.toNat)
    (hpos : 0 < d.point) : Denotes d (Nat.toDigits 10 d.digits
      ++ List.replicate (d.point.toNat - (Nat.toDigits 10 d.digits).length) '0' ++ ['.', '0']) := by
  have hpoint := d.point_eq
  refine ⟨_, ['0'], d.point.toNat - (Nat.toDigits 10 d.digits).length + 1,
    ⟨rfl, ?_, areNumerals_zeros 1, by simp⟩, ?_, ?_⟩
  · by_cases hd : d.digits = 0
    · -- The number is zero, and its only digit stands before the point.
      have hexponent : d.exponent = 0 :=
        d.normal.elim (fun hdigit => absurd (by rw [hd]) hdigit) fun hzero => hzero.2
      have hnone : d.point.toNat - (Nat.toDigits 10 d.digits).length = 0 := by omega
      rw [hnone, hd]
      exact .inl rfl
    · obtain ⟨c, hc, hzero⟩ := head_toDigits hd
      refine .inr ⟨(areNumerals_toDigits _).append (areNumerals_zeros _), c, ?_, hzero⟩
      rw [List.head?_append, hc, Option.some_or]
  · rw [numeralValue_append, numeralValue_append, numeralValue_zeros, numeralValue_toDigits,
      List.length_replicate]
    simp [numeralValue]
    ring
  · rw [List.length_singleton]
    omega

/-- The point stands among the digits. -/
theorem denotes_take_drop (h : d.point.toNat < (Nat.toDigits 10 d.digits).length)
    (hpos : 0 < d.point) : Denotes d ((Nat.toDigits 10 d.digits).take d.point.toNat
      ++ '.' :: (Nat.toDigits 10 d.digits).drop d.point.toNat) := by
  have hpoint := d.point_eq
  have hall := areNumerals_toDigits d.digits
  refine ⟨_, _, 0, ⟨rfl, ?_, ?_, ?_⟩, ?_, ?_⟩
  · have hd : d.digits ≠ 0 := by
      intro hd
      rw [hd, Nat.toDigits_zero, List.length_singleton] at h
      omega
    obtain ⟨c, hc, hzero⟩ := head_toDigits hd
    refine .inr ⟨fun x hx => hall x (List.mem_of_mem_take hx), c, ?_, hzero⟩
    rw [List.head?_take, if_neg (by omega), hc]
  · exact fun c hc => hall c (List.mem_of_mem_drop hc)
  · exact List.ne_nil_of_length_pos (by rw [List.length_drop]; omega)
  · rw [List.take_append_drop, numeralValue_toDigits, pow_zero, mul_one]
  · rw [List.length_drop]
    omega

/-- The digits of a number stand around a point, wherever that is. -/
theorem denotes_positionalText (d : Decimal) :
    Denotes d (positionalText (Nat.toDigits 10 d.digits) d.point) := by
  unfold positionalText
  split
  next h => exact denotes_zeros_append h
  next hpos =>
    split
    next h => exact denotes_append_zeros h (not_le.mp hpos)
    next h => exact denotes_take_drop (not_le.mp h) (not_le.mp hpos)

/-- **A number in positional layout is read back.** -/
theorem readUnsigned_positionalText (d : Decimal) (hrest : EndsNumber rest) :
    readUnsigned d.negative (positionalText (Nat.toDigits 10 d.digits) d.point ++ rest)
      = .ok (.fractional (.ofDecimal d), rest) := by
  obtain ⟨whole, fraction, k, hpointed, hvalue, hexponent⟩ := denotes_positionalText d
  rw [readUnsigned_pointed hpointed d.negative hrest, d.ofParts_eq k hvalue hexponent]

/-- **A number in scientific layout is read back.** -/
theorem readUnsigned_scientificText (d : Decimal) (hrest : EndsNumber rest) :
    readUnsigned d.negative (scientificText (Nat.toDigits 10 d.digits) (d.point - 1) ++ rest)
      = .ok (.fractional (.ofDecimal d), rest) := by
  have hall := areNumerals_toDigits d.digits
  have hvalue := numeralValue_toDigits d.digits
  have hpoint := d.point_eq
  have hwhole := isWhole_toDigits d.digits
  have hexponent := exponentPart_append (d.point - 1) hrest.noNumeralNext
  have he : NoNumeralNext ('e' :: ((exponentText (d.point - 1)).toList ++ rest)) :=
    noNumeralNext_cons (by decide) _
  generalize hdigits : Nat.toDigits 10 d.digits = digits at hall hvalue hpoint hwhole
  unfold scientificText
  match digits with
  | [] => exact absurd hdigits Nat.toDigits_ne_nil
  | [c] =>
    have hparts := readUnsigned_parts d.negative (wholePart?_append hwhole he)
      (fractionPart_of_ne (by simp)) hexponent rfl
    rw [d.ofParts_eq 0 (by rw [List.append_nil, hvalue, pow_zero, mul_one])] at hparts
    · rw [List.append_assoc]
      exact hparts
    · rw [Option.getD_some, List.length_nil]
      rw [List.length_singleton] at hpoint
      omega
  | c :: c' :: digits =>
    have hfirst := (hwhole.head rfl).1
    have hparts := readUnsigned_parts d.negative
      (wholePart?_append hfirst (noNumeralNext_cons (by decide) _))
      (fractionPart_append (by simp) (fun x hx => hall x (List.mem_cons_of_mem c hx)) he) hexponent
      (by simp)
    rw [d.ofParts_eq 0 (by rw [List.singleton_append, hvalue, pow_zero, mul_one])] at hparts
    · rw [List.append_assoc]
      exact hparts
    · rw [Option.getD_some, hpoint, List.length_cons]
      omega

/-- A digit comes first. -/
def StartsWithNumeral (s : List Char) : Prop :=
  ∃ c t, s = c :: t ∧ c.isDigit = true

theorem IsWhole.startsWithNumeral (h : IsWhole digits) (more : List Char) :
    StartsWithNumeral (digits ++ more) := by
  cases digits with
  | nil => exact h.elim (fun h => absurd h (by simp)) fun h => absurd h.2 (by simp)
  | cons c digits => exact ⟨c, digits ++ more, rfl, h.areNumerals c List.mem_cons_self⟩

theorem readNumber_of_startsWithNumeral {s : List Char} (h : StartsWithNumeral s) :
    readNumber s = readUnsigned false s ∧ readNumber ('-' :: s) = readUnsigned true s := by
  obtain ⟨c, t, rfl, hc⟩ := h
  have hminus : c ≠ '-' := by rintro rfl; exact absurd hc (by decide)
  have hword : c ≠ 'I' := by rintro rfl; exact absurd hc (by decide)
  constructor
  · unfold readNumber
    split
    next heq => exact absurd (List.cons.inj heq).1 hminus
    next heq => exact absurd (List.cons.inj heq).1 hminus
    next => rfl
  · unfold readNumber
    split
    next heq => exact absurd (List.cons.inj (List.cons.inj heq).2).1 hword
    next heq => rw [(List.cons.inj heq).2]
    next hother => exact absurd rfl (hother _)

/-- A number with a sign in front if it is negative. -/
def signed (negative : Bool) (body : List Char) : List Char :=
  if negative then '-' :: body else body

/-- A number that is read without its sign is read with it. -/
theorem readNumber_signed {negative : Bool} {body : List Char} {v : Json}
    (hstart : StartsWithNumeral (body ++ rest))
    (h : readUnsigned negative (body ++ rest) = .ok (v, rest)) :
    readNumber (signed negative body ++ rest) = .ok (v, rest) := by
  obtain ⟨hplain, hnegative⟩ := readNumber_of_startsWithNumeral hstart
  cases negative with
  | false => exact hplain.trans h
  | true => exact hnegative.trans h

theorem toList_toString (n : Int) :
    (toString n).toList = signed (decide (n < 0)) (Nat.toDigits 10 n.natAbs) := by
  cases n with
  | ofNat n => exact Nat.toList_repr
  | negSucc n =>
    rw [decide_eq_true (Int.negSucc_lt_zero n)]
    show ("-" ++ Nat.repr (n + 1)).toList = '-' :: Nat.toDigits 10 (n + 1)
    rw [String.toList_append, Nat.toList_repr]
    rfl

/-- **A written integer is read back.** -/
theorem readNumber_int {n : Int} (hn : (Nat.toDigits 10 n.natAbs).length ≤ digitLimit)
    (hrest : EndsNumber rest) : readNumber ((toString n).toList ++ rest) = .ok (.int n, rest) := by
  have hwhole := isWhole_toDigits n.natAbs
  have hvalue : (if decide (n < 0) then -(n.natAbs : Int) else n.natAbs) = n := by
    simp only [decide_eq_true_eq]
    split <;> omega
  have hread := readUnsigned_digits (decide (n < 0)) hwhole hn hrest
  rw [numeralValue_toDigits, hvalue] at hread
  rw [toList_toString]
  exact readNumber_signed (hwhole.startsWithNumeral rest) hread

theorem startsWithNumeral_positionalText (d : Decimal) (more : List Char) :
    StartsWithNumeral (positionalText (Nat.toDigits 10 d.digits) d.point ++ more) := by
  obtain ⟨whole, fraction, -, hpointed, -⟩ := denotes_positionalText d
  rw [hpointed.text_eq, List.append_assoc]
  exact hpointed.isWhole.startsWithNumeral _

theorem startsWithNumeral_scientificText (d : Decimal) (e : Int) (more : List Char) :
    StartsWithNumeral (scientificText (Nat.toDigits 10 d.digits) e ++ more) := by
  have hwhole := isWhole_toDigits d.digits
  generalize hdigits : Nat.toDigits 10 d.digits = digits at hwhole
  unfold scientificText
  match digits with
  | [] => exact absurd hdigits Nat.toDigits_ne_nil
  | [c] => exact ⟨c, _, rfl, (hwhole.head rfl).2⟩
  | c :: c' :: digits => exact ⟨c, _, rfl, (hwhole.head rfl).2⟩

theorem toList_text (d : Decimal) : ∃ body, d.text.toList = signed d.negative body ∧
    ∀ rest, StartsWithNumeral (body ++ rest) ∧ (EndsNumber rest →
      readUnsigned d.negative (body ++ rest) = .ok (.fractional (.ofDecimal d), rest)) := by
  unfold Decimal.text
  dsimp only
  rw [String.toList_ofList]
  refine ⟨_, rfl, fun rest => ?_⟩
  split
  next => exact ⟨startsWithNumeral_positionalText d rest, readUnsigned_positionalText d⟩
  next => exact ⟨startsWithNumeral_scientificText d _ rest, readUnsigned_scientificText d⟩

/-- **A written decimal number is read back**, rounded to one that is kept. -/
theorem readNumber_decimal (d : Decimal) (hrest : EndsNumber rest) :
    readNumber (d.text.toList ++ rest) = .ok (.fractional (.ofDecimal d), rest) := by
  obtain ⟨body, htext, hbody⟩ := toList_text d
  rw [htext]
  exact readNumber_signed (hbody rest).1 ((hbody rest).2 hrest)

/-- A number starts with a digit or a sign. -/
def StartsNumber (s : List Char) : Prop :=
  ∃ c t, s = c :: t ∧ (c.isDigit = true ∨ c = '-')

theorem startsNumber_signed (negative : Bool) {body : List Char} (h : StartsWithNumeral body) :
    StartsNumber (signed negative body) := by
  cases negative with
  | false =>
    obtain ⟨c, t, rfl, hc⟩ := h
    exact ⟨c, t, rfl, .inl hc⟩
  | true => exact ⟨'-', body, rfl, .inr rfl⟩

theorem startsNumber_int (n : Int) : StartsNumber (toString n).toList := by
  have hstart := (isWhole_toDigits n.natAbs).startsWithNumeral []
  rw [List.append_nil] at hstart
  rw [toList_toString]
  exact startsNumber_signed _ hstart

theorem startsNumber_decimal (d : Decimal) : StartsNumber d.text.toList := by
  obtain ⟨body, htext, hbody⟩ := toList_text d
  have hstart := (hbody []).1
  rw [List.append_nil] at hstart
  rw [htext]
  exact startsNumber_signed _ hstart

end ScriptingBindings.Json
