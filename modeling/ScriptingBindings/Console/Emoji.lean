/-
  ScriptingBindings.Console.Emoji
  ──────────────────────────────────
  **EMOJI IN TEXT.**

  A name between two colons stands for an emoji.  The name may end in a wish
  for the coloured form or the plain one.  A name that is not known stays as
  it is, with both of its colons.

      withEmoji ":b:"    = "🅱"
      withEmoji ":no:b:" = ":no:b:"
-/
import ScriptingBindings.Console.EmojiNames
import ScriptingBindings.Text.Blank
import ScriptingBindings.Text.Casing

namespace ScriptingBindings.Console

/-! ## §1. Names. -/

/-- The value of a hexadecimal digit in capital letters. -/
def hexValue (c : Char) : Nat :=
  if c.isDigit then c.toNat - '0'.toNat else c.toNat - 'A'.toNat + 10

/-- The character with a code point in hexadecimal digits. -/
def ofHex (digits : String) : Char :=
  Char.ofNat (digits.toList.foldl (fun n c => 16 * n + hexValue c) 0)

/-- Code points in hexadecimal digits as text. -/
def ofCodePoints (codes : String) : String :=
  String.ofList ((codes.splitOn "+").map ofHex)

/-- The entries of the table of names: a name with its code points. -/
def emojiEntries : List (String × String) :=
  (emojiNames.splitOn "\n").flatMap fun line => (line.splitOn " ").filterMap fun entry =>
    match entry.splitOn "=" with
    | [name, codes] => some (name, codes)
    | _ => none

/-- The emoji of a name, which may be in capital letters. -/
def emoji? (name : String) : Option String :=
  (emojiEntries.lookup (Text.lower name)).map ofCodePoints

/-- The forms of an emoji by the end of its name. -/
def emojiForms : List (List Char × Char) :=
  [("-emoji".toList, '\uFE0F'), ("-text".toList, '\uFE0E')]

/-- The emoji for what stands between two colons. -/
def emojiOf? (inside : List Char) : Option (List Char) :=
  match emojiForms.find? (fun form => form.1.isSuffixOf inside) with
  | some (ending, form) =>
    (emoji? (String.ofList (inside.take (inside.length - ending.length)))).map
      (fun e => e.toList ++ [form])
  | none => (emoji? (String.ofList inside)).map String.toList

/-! ## §2. Texts. -/

/-- What stands between a colon that was read and the next one, and what follows that.  A blank
may not stand between them. -/
def toColon? (s : List Char) : Option (List Char × List Char) :=
  let inside := s.takeWhile (fun c => c != ':' && !Text.isBlank c)
  match s.drop inside.length with
  | ':' :: rest => some (inside, rest)
  | _ => none

theorem toColon?_length {s inside rest : List Char} (h : toColon? s = some (inside, rest)) :
    rest.length < s.length := by
  simp only [toColon?] at h
  split at h
  · next heq =>
    simp only [Option.some.injEq, Prod.mk.injEq] at h
    have hlen := congrArg List.length heq
    simp only [List.length_drop, List.length_cons] at hlen
    rw [← h.2]
    omega
  · contradiction

/-- A text with emoji in place of their names, after characters that are done, the last one
first. -/
def withEmojiAfter (done : List Char) (s : List Char) : List Char :=
  match s with
  | [] => done.reverse
  | c :: rest =>
    if c = ':' then
      match h : toColon? rest with
      | some (inside, following) =>
        have := toColon?_length h
        withEmojiAfter
          ((((emojiOf? inside).getD (':' :: inside ++ [':'])).reverse) ++ done) following
      | none => withEmojiAfter (c :: done) rest
    else withEmojiAfter (c :: done) rest
termination_by s.length

/-- A text with emoji in place of their names. -/
def withEmoji (s : List Char) : List Char :=
  withEmojiAfter [] s

end ScriptingBindings.Console
