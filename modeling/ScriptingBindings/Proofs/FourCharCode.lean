/-
  ScriptingBindings.Proofs.FourCharCode
  ──────────────────────────────────
  **CODES AND THEIR LITERALS.**

  A literal is eight hexadecimal digits, with `0x` or `0X` in front or without.
  It denotes a number below 2³², and the four bytes of this number are the
  characters that it stands for:

      decode literal = .ok code  ↔  literal is one, and code has its bytes

  A code of four characters becomes the literal of the number that packs them.
  So a code of ASCII comes back from its literal, and a literal comes back, with
  small digits and `0x` in front, from a code of ASCII.
-/
import Mathlib.Data.List.TakeDrop
import Mathlib.Data.List.TakeWhile
import Mathlib.Data.Nat.Digits.Defs
import ScriptingBindings.FourCharCode
import ScriptingBindings.Proofs.Success
import ScriptingBindings.Proofs.Text.Casing

namespace ScriptingBindings.FourCharCode

open Text

/-! ## §1. Digits. -/

/-- The small hexadecimal digits in order. -/
def smallDigits : List Char := "0123456789abcdef".toList

/-- The value of a digit is its place among the small digits. -/
def digitValue (c : Char) : Nat := smallDigits.idxOf c.toLower

/-- Texts of hexadecimal digits, small or capital. -/
def AreDigits (s : List Char) : Prop := ∀ c ∈ s, c.toLower ∈ smallDigits

/-- The number that digits denote, the highest first. -/
def numberOf (digits : List Char) : Nat := Nat.ofDigits 16 (digits.map digitValue).reverse

/-- A character that is no capital of ASCII is its own small form. -/
theorem toLower_of_not_isUpper {c : Char} (h : ¬ c.isUpper = true) : c.toLower = c :=
  dif_neg (mt decide_eq_true h)

/-- Digits are characters of ASCII. -/
theorem toNat_lt_of_mem_smallDigits {c : Char} (h : c.toLower ∈ smallDigits) : c.toNat < 128 := by
  have hsmall : smallDigits.all (fun d => d.toNat < 128) = true := by decide
  by_cases hupper : c.isUpper = true
  · exact lt_of_le_of_lt ((isUpper_iff c).mp hupper).2 (by decide)
  · rw [toLower_of_not_isUpper hupper] at h
    exact of_decide_eq_true (List.all_eq_true.mp hsmall c h)

theorem toNat_lt_of_hexValue? {c : Char} {n : Nat} (h : Json.hexValue? c = some n) :
    c.toNat < 128 := by
  have hle : ∀ d : Char, d.toNat < 128 → c ≤ d → c.toNat < 128 := fun d hd hc =>
    lt_of_le_of_lt (UInt32.le_iff_toNat_le.mp hc) hd
  unfold Json.hexValue? at h
  split at h
  next hc => exact hle '9' (by decide) (of_decide_eq_true (Bool.and_eq_true_iff.mp hc).2)
  next =>
    split at h
    next hc => exact hle 'f' (by decide) (by simpa using (Bool.and_eq_true_iff.mp hc).2)
    next =>
      split at h
      next hc => exact hle 'F' (by decide) (by simpa using (Bool.and_eq_true_iff.mp hc).2)
      next => exact absurd h (by simp)

/-- Only characters of ASCII are digits, so the two ways to read a digit are compared there. -/
theorem hexValue?_eq (c : Char) :
    Json.hexValue? c = if c.toLower ∈ smallDigits then some (digitValue c) else none := by
  have hascii : ∀ n < 128, Json.hexValue? (Char.ofNat n)
      = if (Char.ofNat n).toLower ∈ smallDigits then some (digitValue (Char.ofNat n)) else none := by
    decide +kernel
  by_cases hc : c.toNat < 128
  · have hn := hascii c.toNat hc
    rwa [Char.ofNat_toNat] at hn
  · rw [if_neg (mt toNat_lt_of_mem_smallDigits hc)]
    cases hvalue : Json.hexValue? c with
    | none => rfl
    | some n => exact absurd (toNat_lt_of_hexValue? hvalue) hc

/-! ## §2. Bytes. -/

/-- The bytes that a text of digits denotes, two digits each. -/
structure AreBytesOf (digits : List Char) (bytes : List Nat) : Prop where
  areDigits : AreDigits digits
  length : digits.length = 2 * bytes.length
  lt : ∀ b ∈ bytes, b < 256
  number : Nat.ofDigits 256 bytes.reverse = numberOf digits
  written : bytes.flatMap (hexDigits 2) = digits.map Char.toLower

theorem numberOf_cons (c : Char) (digits : List Char) :
    numberOf (c :: digits) = numberOf digits + 16 ^ digits.length * digitValue c := by
  rw [numberOf, List.map_cons, Nat.ofDigits_reverse_cons, List.length_map]
  rfl

/-- The small form of a digit is the digit of its value. -/
theorem hexDigit_digitValue {c : Char} (h : c.toLower ∈ smallDigits) :
    digitValue c < 16 ∧ hexDigit (digitValue c) = c.toLower := by
  have hall : smallDigits.all (fun d =>
      smallDigits.idxOf d < 16 ∧ hexDigit (smallDigits.idxOf d) = d) = true := by decide
  exact of_decide_eq_true (List.all_eq_true.mp hall c.toLower h)

theorem hexDigits_two (n : Nat) : hexDigits 2 n = [hexDigit (n / 16 % 16), hexDigit (n % 16)] := rfl

theorem areBytesOf_cons {a b : Char} {digits : List Char} {bytes : List Nat}
    (ha : a.toLower ∈ smallDigits) (hb : b.toLower ∈ smallDigits) (h : AreBytesOf digits bytes) :
    AreBytesOf (a :: b :: digits) ((16 * digitValue a + digitValue b) :: bytes) := by
  obtain ⟨hhigh, hahex⟩ := hexDigit_digitValue ha
  obtain ⟨hlow, hbhex⟩ := hexDigit_digitValue hb
  refine ⟨?_, ?_, ?_, ?_, ?_⟩
  · exact List.forall_mem_cons.mpr ⟨ha, List.forall_mem_cons.mpr ⟨hb, h.areDigits⟩⟩
  · rw [List.length_cons, List.length_cons, List.length_cons, h.length]
    omega
  · exact List.forall_mem_cons.mpr ⟨by omega, h.lt⟩
  · have hsquare : 16 ^ 2 = 256 := by decide
    have hpow : 16 ^ digits.length = 256 ^ bytes.length := by rw [h.length, pow_mul, hsquare]
    rw [Nat.ofDigits_reverse_cons, h.number, numberOf_cons, numberOf_cons, List.length_cons, pow_succ,
      hpow]
    ring
  · have h1 : (16 * digitValue a + digitValue b) / 16 % 16 = digitValue a := by omega
    have h2 : (16 * digitValue a + digitValue b) % 16 = digitValue b := by omega
    rw [List.flatMap_cons, h.written, hexDigits_two, h1, h2, hahex, hbhex]
    rfl

theorem bytes?_cons_cons {a b : Char} (ha : a.toLower ∈ smallDigits) (hb : b.toLower ∈ smallDigits)
    (rest : List Char) :
    bytes? (a :: b :: rest)
      = (bytes? rest).map ((16 * digitValue a + digitValue b) :: ·) := by
  rw [bytes?, hexValue?_eq, hexValue?_eq, if_pos ha, if_pos hb]
  cases bytes? rest with
  | none => rfl
  | some bytes => rfl

/-- **What pairs of digits denote** are bytes, and only digits denote some. -/
theorem areBytesOf_of_bytes? {digits : List Char} {bytes : List Nat}
    (h : bytes? digits = some bytes) : AreBytesOf digits bytes := by
  induction digits using bytes?.induct generalizing bytes with
  | case1 =>
    rw [← Option.some.inj h]
    exact ⟨fun c hc => absurd hc List.not_mem_nil, rfl, fun b hb => absurd hb List.not_mem_nil, rfl,
      rfl⟩
  | case2 a b rest ih =>
    by_cases ha : a.toLower ∈ smallDigits
    · by_cases hb : b.toLower ∈ smallDigits
      · rw [bytes?_cons_cons ha hb] at h
        obtain ⟨more, hmore, rfl⟩ := Option.map_eq_some_iff.mp h
        exact areBytesOf_cons ha hb (ih hmore)
      · rw [bytes?, hexValue?_eq a, hexValue?_eq b, if_pos ha, if_neg hb] at h
        exact absurd h (by simp)
    · rw [bytes?, hexValue?_eq a, if_neg ha] at h
      exact absurd h (by simp)
  | case3 c => exact absurd h (by simp [bytes?])

/-- Digits that come in pairs denote bytes. -/
theorem exists_bytes {digits : List Char} (h : AreDigits digits) {n : Nat}
    (hlength : digits.length = 2 * n) : ∃ bytes, bytes? digits = some bytes := by
  induction digits using bytes?.induct generalizing n with
  | case1 => exact ⟨[], rfl⟩
  | case2 a b rest ih =>
    obtain ⟨ha, h⟩ := List.forall_mem_cons.mp h
    obtain ⟨hb, h⟩ := List.forall_mem_cons.mp h
    have hrest : rest.length = 2 * (n - 1) := by
      rw [List.length_cons, List.length_cons] at hlength
      omega
    obtain ⟨bytes, hbytes⟩ := ih h hrest
    exact ⟨_, by rw [bytes?_cons_cons ha hb, hbytes]; rfl⟩
  | case3 c =>
    rw [List.length_singleton] at hlength
    omega

/-! ## §3. Literals. -/

/-- A text is a literal: eight digits, with a prefix in either case or without. -/
def IsLiteral (literal digits : List Char) : Prop :=
  (literal = digits ∨ literal = '0' :: 'x' :: digits ∨ literal = '0' :: 'X' :: digits) ∧
    digits.length = 8 ∧ AreDigits digits

/-- The four bytes of a number, the highest first. -/
structure AreFourBytesOf (number : Nat) (bytes : List Nat) : Prop where
  length : bytes.length = 4
  lt : ∀ b ∈ bytes, b < 256
  number : Nat.ofDigits 256 bytes.reverse = number

/-- A number has its four bytes but once. -/
theorem AreFourBytesOf.unique {number : Nat} {as bs : List Nat} (ha : AreFourBytesOf number as)
    (hb : AreFourBytesOf number bs) : as = bs := by
  refine List.reverse_injective (Nat.ofDigits_inj_of_len_eq (by decide : 1 < 256) ?_ ?_ ?_ ?_)
  · rw [List.length_reverse, List.length_reverse, ha.length, hb.length]
  · exact fun b hmem => ha.lt b (List.mem_reverse.mp hmem)
  · exact fun b hmem => hb.lt b (List.mem_reverse.mp hmem)
  · rw [ha.number, hb.number]

theorem AreBytesOf.areFourBytesOf {digits : List Char} {bytes : List Nat}
    (h : AreBytesOf digits bytes) (hlength : digits.length = 8) :
    AreFourBytesOf (numberOf digits) bytes where
  length := by
    have := h.length
    omega
  lt := h.lt
  number := h.number

/-- Only the digit zero has itself as lower case. -/
theorem eq_of_lowerIn_zero {before after : List Char} {c : Char}
    (h : lowerIn before c after = ['0']) : c = '0' := by
  rcases cases_of_lowerIn_eq h (by decide) (by decide) with hc | ⟨hfirst, -, hc⟩
  · exact hc
  · have hzero : '0'.toNat = 48 := rfl
    omega

theorem cases_of_lowerIn_x {before after : List Char} {c : Char}
    (h : lowerIn before c after = ['x']) : c = 'x' ∨ c = 'X' := by
  rcases cases_of_lowerIn_eq h (by decide) (by decide) with hc | ⟨-, -, hc⟩
  · exact .inl hc
  · have hx : 'x'.toNat = 120 := rfl
    have hn : c.toNat = 88 := by omega
    rw [← Char.ofNat_toNat c, hn]
    exact .inr rfl

/-- Two lower case characters are those of two characters. -/
theorem lowerChars_pair_eq {a b d e : Char} (h : lowerChars [a, b] = [d, e]) (hd : d ≠ 'i') :
    lowerIn [] a [b] = [d] ∧ lowerIn [a] b [] = [e] := by
  simp only [lowerChars, lowerAfter, List.append_nil] at h
  rcases lowerIn_cases [] a [b] with ⟨d', ha⟩ | ha
  · rcases lowerIn_cases [a] b [] with ⟨e', hb⟩ | hb
    · rw [ha, hb, List.singleton_append] at h
      rw [ha, hb]
      simpa using h
    · rw [ha, hb] at h
      exact absurd (congrArg List.length h) (by simp)
  · rw [ha] at h
    exact absurd (List.cons.inj h).1.symm hd

/-- **The prefix** is `0x` or `0X`: no other characters have these in lower case. -/
theorem hasPrefix_iff (s : List Char) :
    hasPrefix s = true ↔ ∃ rest, s = '0' :: 'x' :: rest ∨ s = '0' :: 'X' :: rest := by
  unfold hasPrefix
  rw [decide_eq_true_eq]
  constructor
  · intro h
    match s with
    | [] => exact absurd h (by decide)
    | [c] =>
      rw [List.take_of_length_le (by simp), lowerChars, lowerAfter, lowerAfter, List.append_nil] at h
      rcases lowerIn_cases [] c [] with ⟨d, hd⟩ | hd
      · exact absurd (hd.symm.trans h) (by simp)
      · exact absurd (hd.symm.trans h) (by decide)
    | a :: b :: rest =>
      obtain ⟨ha, hb⟩ := lowerChars_pair_eq (a := a) (b := b) h (by decide)
      rw [eq_of_lowerIn_zero ha]
      rcases cases_of_lowerIn_x hb with rfl | rfl
      · exact ⟨rest, .inl rfl⟩
      · exact ⟨rest, .inr rfl⟩
  · rintro ⟨rest, rfl | rfl⟩
    · exact (by decide : lowerChars ['0', 'x'] = ['0', 'x'])
    · exact (by decide : lowerChars ['0', 'X'] = ['0', 'x'])

/-- Digits alone do not look like a prefix. -/
theorem hasPrefix_of_areDigits {s : List Char} (h : AreDigits s) : hasPrefix s = false := by
  rw [Bool.eq_false_iff]
  intro hprefix
  obtain ⟨rest, rfl | rfl⟩ := (hasPrefix_iff s).mp hprefix
  · exact absurd (h 'x' (by simp)) (by decide)
  · exact absurd (h 'X' (by simp)) (by decide)

/-- What follows the prefix, if there is one. -/
def withoutPrefix (s : List Char) : List Char := if hasPrefix s then s.drop 2 else s

theorem withoutPrefix_of_isLiteral {literal digits : List Char} (h : IsLiteral literal digits) :
    withoutPrefix literal = digits := by
  obtain ⟨rfl | rfl | rfl, -, hdigits⟩ := h
  · rw [withoutPrefix, hasPrefix_of_areDigits hdigits, if_neg Bool.false_ne_true]
  · rw [withoutPrefix, if_pos ((hasPrefix_iff _).mpr ⟨digits, .inl rfl⟩)]
    rfl
  · rw [withoutPrefix, if_pos ((hasPrefix_iff _).mpr ⟨digits, .inr rfl⟩)]
    rfl

theorem isLiteral_withoutPrefix {literal : List Char} (hlength : (withoutPrefix literal).length = 8)
    (hdigits : AreDigits (withoutPrefix literal)) : IsLiteral literal (withoutPrefix literal) := by
  refine ⟨?_, hlength, hdigits⟩
  unfold withoutPrefix
  split
  next hprefix =>
    obtain ⟨rest, rfl | rfl⟩ := (hasPrefix_iff literal).mp hprefix
    · exact .inr (.inl rfl)
    · exact .inr (.inr rfl)
  next => exact .inl rfl

theorem isHexadecimal_of_areDigits {s : List Char} (h : AreDigits s) (hne : s ≠ []) :
    isHexadecimal s = true := by
  have hall : ∀ c ∈ s, isHexDigit c = true := by
    intro c hc
    rw [isHexDigit, hexValue?_eq, if_pos (h c hc)]
    rfl
  rw [isHexadecimal, List.span_eq_takeWhile_dropWhile, List.takeWhile_eq_self_iff.mpr hall,
    List.dropWhile_eq_nil_iff.mpr hall]
  cases s with
  | nil => exact absurd rfl hne
  | cons c s => rfl

/-! ## §4. Decoding. -/

/-- A literal is decoded to the characters of its bytes. -/
theorem decode_of_isLiteral {literal : String} {digits : List Char} {bytes : List Nat}
    (h : IsLiteral literal.toList digits) (hbytes : bytes? digits = some bytes) :
    decode literal = .ok (String.ofList (bytes.map Char.ofNat)) := by
  have hdigits : (if hasPrefix literal.toList then literal.toList.drop 2 else literal.toList)
      = digits := withoutPrefix_of_isLiteral h
  have hne : digits ≠ [] := List.ne_nil_of_length_eq_add_one h.2.1
  simp only [decode, hdigits, h.2.1, isHexadecimal_of_areDigits h.2.2 hne, hbytes, ne_eq,
    not_true_eq_false, decide_false, Bool.not_true, Bool.or_false, Bool.false_eq_true, if_false]

/-- What is decoded is a literal. -/
theorem exists_digits_of_decode {literal code : String} (h : decode literal = .ok code) :
    ∃ digits bytes, IsLiteral literal.toList digits ∧ bytes? digits = some bytes := by
  unfold decode at h
  extract_lets s digits at h
  have hdigits : digits = withoutPrefix literal.toList := rfl
  rw [hdigits] at h
  split at h
  next => exact absurd h (by simp)
  next hrefused =>
    have hlength : (withoutPrefix literal.toList).length = 8 := by
      simp only [Bool.or_eq_true, decide_eq_true_eq, not_or, not_not] at hrefused
      exact hrefused.1
    split at h
    next bytes hbytes =>
      exact ⟨_, bytes, isLiteral_withoutPrefix hlength (areBytesOf_of_bytes? hbytes).areDigits,
        hbytes⟩
    next => exact absurd h (by simp)

/-- **Decoding** accepts exactly the literals, and gives the characters of their four bytes. -/
theorem decode_eq_ok_iff (literal code : String) :
    decode literal = .ok code ↔ ∃ digits bytes, IsLiteral literal.toList digits ∧
      AreFourBytesOf (numberOf digits) bytes ∧ code = String.ofList (bytes.map Char.ofNat) := by
  constructor
  · intro h
    obtain ⟨digits, bytes, hliteral, hbytes⟩ := exists_digits_of_decode h
    rw [decode_of_isLiteral hliteral hbytes] at h
    exact ⟨digits, bytes, hliteral, (areBytesOf_of_bytes? hbytes).areFourBytesOf hliteral.2.1,
      (Except.ok.inj h).symm⟩
  · rintro ⟨digits, bytes, hliteral, hfour, rfl⟩
    obtain ⟨pairs, hpairs⟩ := exists_bytes hliteral.2.2 (n := 4) hliteral.2.1
    rw [decode_of_isLiteral hliteral hpairs,
      hfour.unique ((areBytesOf_of_bytes? hpairs).areFourBytesOf hliteral.2.1)]

/-! ## §5. Encoding. -/

/-- The number that a character counts as. -/
def asciiNumber (c : Char) : Nat := if c.toNat < 128 then c.toNat else 0

theorem asciiNumber_lt (c : Char) : asciiNumber c < 256 := by
  unfold asciiNumber
  split <;> omega

theorem asciiNumber_of_lt {c : Char} (h : c.toNat < 128) : asciiNumber c = c.toNat := if_pos h

theorem encodeChar_eq (c : Char) : encodeChar c = hexDigits 2 (asciiNumber c) := by
  unfold encodeChar asciiNumber
  split
  next => rfl
  next => decide

theorem hexDigit_facts {n : Nat} (h : n < 16) :
    hexDigit n ∈ smallDigits ∧ (hexDigit n).toLower = hexDigit n ∧ digitValue (hexDigit n) = n := by
  have hall : ∀ n < 16, hexDigit n ∈ smallDigits ∧ (hexDigit n).toLower = hexDigit n ∧
      digitValue (hexDigit n) = n := by decide
  exact hall n h

/-- Two digits are read back as the byte that they were written for. -/
theorem bytes?_hexDigits_append {n : Nat} (h : n < 256) (rest : List Char) :
    bytes? (hexDigits 2 n ++ rest) = (bytes? rest).map (n :: ·) := by
  obtain ⟨hhigh, hhighLower, hhighValue⟩ := hexDigit_facts (n := n / 16 % 16) (by omega)
  obtain ⟨hlow, hlowLower, hlowValue⟩ := hexDigit_facts (n := n % 16) (by omega)
  have hn : 16 * (n / 16 % 16) + n % 16 = n := by omega
  rw [hexDigits_two, List.cons_append, List.singleton_append,
    bytes?_cons_cons (hhighLower.symm ▸ hhigh) (hlowLower.symm ▸ hlow), hhighValue, hlowValue, hn]

theorem bytes?_flatMap_hexDigits {ns : List Nat} (h : ∀ n ∈ ns, n < 256) :
    bytes? (ns.flatMap (hexDigits 2)) = some ns := by
  induction ns with
  | nil => rfl
  | cons n ns ih =>
    obtain ⟨hn, hns⟩ := List.forall_mem_cons.mp h
    rw [List.flatMap_cons, bytes?_hexDigits_append hn, ih hns]
    rfl

/-- The digits of the literal for a code of four characters. -/
def codeDigits (code : List Char) : List Char :=
  (code.map asciiNumber).flatMap (hexDigits 2)

theorem encode_of_length {code : String} (h : code.length = 4) :
    (encode code).toList = '0' :: 'x' :: codeDigits code.toList := by
  have hlength : code.toList.length = 4 := by rw [String.length_toList, h]
  rw [encode, String.toList_ofList, encodeChars, if_pos hlength, codeDigits, List.flatMap_map]
  congr 2
  exact List.flatMap_congr fun c _ => encodeChar_eq c

theorem bytes?_codeDigits (code : List Char) :
    bytes? (codeDigits code) = some (code.map asciiNumber) :=
  bytes?_flatMap_hexDigits (List.forall_mem_map.mpr fun c _ => asciiNumber_lt c)

/-- The number that four characters are packed into, the first one highest. -/
def packed (code : List Char) : Nat := Nat.ofDigits 256 (code.map asciiNumber).reverse

theorem packed_lt (code : List Char) : packed code < 256 ^ code.length := by
  have hlt := Nat.ofDigits_lt_base_pow_length (b := 256) (l := (code.map asciiNumber).reverse)
    (by decide) fun n hn => by
      obtain ⟨c, -, rfl⟩ := List.mem_map.mp (List.mem_reverse.mp hn)
      exact asciiNumber_lt c
  rwa [List.length_reverse, List.length_map] at hlt

/-- **The literal of a code** has eight small digits, which denote the packed characters. -/
theorem exists_digits_of_encode {code : String} (h : code.length = 4) :
    ∃ digits, (encode code).toList = '0' :: 'x' :: digits ∧ digits.length = 8 ∧
      (∀ c ∈ digits, c ∈ smallDigits) ∧ numberOf digits = packed code.toList ∧
      numberOf digits < 2 ^ 32 := by
  have hbytes := areBytesOf_of_bytes? (bytes?_codeDigits code.toList)
  have hlength : code.toList.length = 4 := by rw [String.length_toList, h]
  have hnumber : numberOf (codeDigits code.toList) = packed code.toList := hbytes.number.symm
  refine ⟨codeDigits code.toList, encode_of_length h, ?_, ?_, hnumber, ?_⟩
  · rw [hbytes.length, List.length_map, hlength]
  · intro c hc
    -- The digits are written in small letters, so each is its own small form.
    rw [codeDigits, hbytes.written] at hc
    obtain ⟨d, hd, rfl⟩ := List.mem_map.mp hc
    exact hbytes.areDigits d hd
  · have hlt := packed_lt code.toList
    rw [hlength] at hlt
    rw [hnumber]
    exact lt_of_lt_of_eq hlt (by decide)

/-! ## §6. There and back. -/

/-- A code of four characters of ASCII. -/
def IsAsciiCode (code : String) : Prop :=
  code.length = 4 ∧ ∀ c ∈ code.toList, c.toNat < 128

/-- **A code of ASCII comes back from its literal.** -/
theorem decode_encode {code : String} (h : IsAsciiCode code) : decode (encode code) = .ok code := by
  obtain ⟨hlength, hascii⟩ := h
  have hbytes := bytes?_codeDigits code.toList
  have hdigits : (codeDigits code.toList).length = 8 := by
    rw [(areBytesOf_of_bytes? hbytes).length, List.length_map, String.length_toList, hlength]
  have hliteral : IsLiteral (encode code).toList (codeDigits code.toList) :=
    ⟨.inr (.inl (encode_of_length hlength)), hdigits, (areBytesOf_of_bytes? hbytes).areDigits⟩
  have hback : (code.toList.map asciiNumber).map Char.ofNat = code.toList := by
    rw [List.map_map]
    refine (List.map_congr_left fun c hc => ?_).trans (List.map_id _)
    rw [Function.comp_apply, asciiNumber_of_lt (hascii c hc), Char.ofNat_toNat, id]
  rw [decode_of_isLiteral hliteral hbytes, hback, String.ofList_toList]

/-- **A literal comes back from a code of ASCII**, with small digits and `0x` in front. -/
theorem encode_of_isLiteral {literal : String} {digits : List Char} {bytes : List Nat}
    (h : IsLiteral literal.toList digits) (hfour : AreFourBytesOf (numberOf digits) bytes)
    (hascii : ∀ b ∈ bytes, b < 128) :
    encode (String.ofList (bytes.map Char.ofNat))
      = String.ofList ('0' :: 'x' :: digits.map Char.toLower) := by
  have hlength : (String.ofList (bytes.map Char.ofNat)).length = 4 := by
    rw [← String.length_toList, String.toList_ofList, List.length_map, hfour.length]
  have hback : (bytes.map Char.ofNat).map asciiNumber = bytes := by
    rw [List.map_map]
    refine (List.map_congr_left fun b hb => ?_).trans (List.map_id _)
    have hb := hascii b hb
    have hn : (Char.ofNat b).toNat = b := Text.toNat_ofNat (.inl (by omega))
    rw [Function.comp_apply, asciiNumber_of_lt (by omega), hn, id]
  -- The bytes are those that the digits denote in pairs.
  obtain ⟨pairs, hpairs⟩ := exists_bytes h.2.2 (n := 4) h.2.1
  have hdenoted := areBytesOf_of_bytes? hpairs
  rw [hfour.unique (hdenoted.areFourBytesOf h.2.1)] at hback hlength ⊢
  rw [← hdenoted.written, ← String.toList_inj, encode_of_length hlength, String.toList_ofList,
    String.toList_ofList, codeDigits, hback]

/-- **Codes and literals mirror each other.**  Decoding accepts exactly the literals and gives the
characters of their four bytes; encoding gives the literal of the packed characters; a code of
ASCII comes back from its literal, so no two of them share one; and a literal of bytes of ASCII
comes back from its code in the spelling of encoding. -/
theorem encode_decode_mirror :
    (∀ literal code, decode literal = .ok code ↔ ∃ digits bytes,
      IsLiteral literal.toList digits ∧ AreFourBytesOf (numberOf digits) bytes ∧
        code = String.ofList (bytes.map Char.ofNat)) ∧
    (∀ code : String, code.length = 4 → ∃ digits, (encode code).toList = '0' :: 'x' :: digits ∧
      digits.length = 8 ∧ (∀ c ∈ digits, c ∈ smallDigits) ∧
        numberOf digits = packed code.toList ∧ numberOf digits < 2 ^ 32) ∧
    (∀ code, IsAsciiCode code → decode (encode code) = .ok code) ∧
    (∀ a b, IsAsciiCode a → IsAsciiCode b → encode a = encode b → a = b) ∧
    ∀ literal digits bytes, IsLiteral literal.toList digits →
      AreFourBytesOf (numberOf digits) bytes → (∀ b ∈ bytes, b < 128) →
        ∃ code, decode literal = .ok code ∧
          encode code = String.ofList ('0' :: 'x' :: digits.map Char.toLower) := by
  refine ⟨decode_eq_ok_iff, fun code h => exists_digits_of_encode h, fun code h => decode_encode h,
    fun a b ha hb hsame => ?_, fun literal digits bytes h hfour hascii => ?_⟩
  · have hdecoded := decode_encode ha
    rw [hsame, decode_encode hb] at hdecoded
    exact (Except.ok.inj hdecoded).symm
  · exact ⟨_, (decode_eq_ok_iff _ _).mpr ⟨digits, bytes, h, hfour, rfl⟩,
      encode_of_isLiteral h hfour hascii⟩

theorem encode_decode_mirror_yes :
    IsAsciiCode "yes " ∧ encode "yes " = "0x79657320" ∧ decode "0x79657320" = .ok "yes " := by
  have hascii : "yes ".toList.all (fun c => c.toNat < 128) = true := by decide
  have hcode : IsAsciiCode "yes " :=
    ⟨by decide, fun c hc => of_decide_eq_true (List.all_eq_true.mp hascii c hc)⟩
  have hencode : encode "yes " = "0x79657320" := by decide +kernel
  obtain ⟨-, -, hback, -⟩ := encode_decode_mirror
  exact ⟨hcode, hencode, hencode ▸ hback "yes " hcode⟩

end ScriptingBindings.FourCharCode
