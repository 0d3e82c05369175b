/-
  ScriptingBindings.Text.Codes
  ──────────────────────────────────
  **TEXTS WITH HALF A PAIR.**

  JSON spells a character by its code point, or by a pair of surrogates, and
  it can spell one surrogate without the other.  What is read then is no text
  in Unicode.  It can be kept and quoted, but no file can hold it and no
  console can show it:

      "\ud83d\ude00"    a text of one character
      "\ud83d"          half of it, quoted as '\ud83d'
-/
import ScriptingBindings.Text.Quoted

namespace ScriptingBindings.Text

/-! ## §1. Code points. -/

/-- A code point: a character, or a surrogate, counted from U+D800. -/
inductive Code where
  | char (c : Char)
  | half (n : Fin 0x800)
  deriving Repr, DecidableEq

namespace Code

/-- Whether a code point is half of a pair. -/
def isHalf : Code → Bool
  | char _ => false
  | half _ => true

/-- The number of a surrogate. -/
def numberOf (n : Fin 0x800) : Nat := 0xD800 + n

/-- The character that shows a code point, the replacement character for half of a pair. -/
def shown : Code → Char
  | char c => c
  | half _ => '\uFFFD'

/-- A code point as it stands between two `quote`s. -/
def quoted (quote : Char) : Code → List Char
  | char c => quotedChar quote c
  | half n => '\\' :: 'u' :: hexDigits 4 (numberOf n)

/-- A code point in a name.  Half of a pair is spelled after a zero character, which the names
of dictionaries, files and settings do not have. -/
def spelled : Code → List Char
  | char c => [c]
  | half n => '\x00' :: hexDigits 4 (numberOf n)

/-- What a code point becomes when every character is written in some way. -/
def rewritten (f : Char → List Char) : Code → List Code
  | char c => (f c).map char
  | half n => [half n]

end Code

/-- The name that code points spell. -/
def nameOf (codes : List Code) : String :=
  String.ofList (codes.flatMap Code.spelled)

theorem nameOf_map_char (cs : List Char) : nameOf (cs.map .char) = String.ofList cs := by
  rw [nameOf, List.flatMap_map]
  exact congrArg String.ofList (List.flatMap_singleton' cs)

/-- Characters alone have no half of a pair among them. -/
theorem any_isHalf_map_char (cs : List Char) : (cs.map Code.char).any Code.isHalf = false := by
  rw [List.any_map, List.any_eq_false]
  exact fun c _ => Bool.false_ne_true

/-! ## §2. Broken texts. -/

/-- Code points with half of a pair among them. -/
structure Broken where
  codes : List Code
  isBroken : codes.any Code.isHalf = true
  deriving Repr, DecidableEq

namespace Broken

/-- A broken text as far as characters can show it. -/
def shown (b : Broken) : String :=
  String.ofList (b.codes.map Code.shown)

/-- A broken text between quotes. -/
def quoted (b : Broken) : String :=
  let quote := quoteFor b.shown.toList
  String.ofList (quote :: b.codes.flatMap (Code.quoted quote) ++ [quote])

/-- A broken text as a name. -/
def name (b : Broken) : String :=
  nameOf b.codes

/-- A broken text between two others. -/
def within (before after : String) (b : Broken) : Broken where
  codes := before.toList.map .char ++ b.codes ++ after.toList.map .char
  isBroken := by simp [b.isBroken]

/-- A broken text with every character written in some way. -/
def rewritten (f : Char → List Char) (b : Broken) : Broken where
  codes := b.codes.flatMap (Code.rewritten f)
  isBroken := by
    obtain ⟨code, hmem, hhalf⟩ := List.any_eq_true.mp b.isBroken
    refine List.any_eq_true.mpr ⟨code, List.mem_flatMap.mpr ⟨code, hmem, ?_⟩, hhalf⟩
    cases code with
    | char c => exact absurd hhalf Bool.false_ne_true
    | half n => exact List.mem_singleton_self _

theorem shown_within (before after : String) (b : Broken) :
    (b.within before after).shown = before ++ b.shown ++ after := by
  rw [← String.toList_inj]
  simp [shown, within, Function.comp_def, Code.shown]

end Broken

end ScriptingBindings.Text
