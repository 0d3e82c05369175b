/-
  ScriptingBindings.Markup.Reference
  ──────────────────────────────────
  **REFERENCES.**

  A text of a document is cut into plain characters, characters given by a
  reference, and references to entities.
-/
import ScriptingBindings.Markup.Character
import ScriptingBindings.Json.Reader

namespace ScriptingBindings.Markup

/-- A piece of a text with references. -/
inductive Piece where
  /-- A character that stands for itself. -/
  | char (c : Char)
  /-- A character given by a reference. -/
  | charRef (c : Char)
  /-- A reference to an entity. -/
  | entityRef (name : List Char)
  deriving Repr, DecidableEq

/-- The character of a code point, if a document may hold it. -/
def documentChar? (n : Nat) : Option Char :=
  if n < 0x110000 ∧ isDocumentChar (Char.ofNat n) ∧ (Char.ofNat n).toNat = n then
    some (Char.ofNat n)
  else none

/-- The number that digits denote in a base; none for no digits or a wrong one. -/
def numberOf? (base : Nat) (digits : List Char) : Option Nat :=
  if digits.isEmpty then none
  else
    digits.foldlM (fun n c => do
      let d ← Json.hexValue? c
      if d < base then some (n * base + d) else none) 0

/-- What stands between `&` and `;`. -/
def reference? (body : List Char) : Option Piece :=
  match body with
  | '#' :: 'x' :: digits => (numberOf? 16 digits).bind documentChar? |>.map .charRef
  | '#' :: digits => (numberOf? 10 digits).bind documentChar? |>.map .charRef
  | name => if isName name then some (.entityRef name) else none

/-- What stands between an `&` that was read and the next `;`, and the text after that. -/
def referenceAt? (s : List Char) : Option (Piece × List Char) := do
  let (body, rest) ← splitAtMark? [';'] s
  return (← reference? body, rest)

/-- The pieces of a text; `read` holds what was read since an `&`, last character first. -/
def piecesFrom (read : Option (List Char)) : List Char → Option (List Piece)
  | [] => if read.isSome then none else some []
  | c :: rest =>
    match read with
    | none =>
      if c = '&' then piecesFrom (some []) rest
      else (piecesFrom none rest).map (.char c :: ·)
    | some body =>
      if c = ';' then do
        let piece ← reference? body.reverse
        let pieces ← piecesFrom none rest
        return piece :: pieces
      else piecesFrom (some (c :: body)) rest

/-- The pieces of a text. -/
def pieces? (s : List Char) : Option (List Piece) :=
  piecesFrom none s

end ScriptingBindings.Markup
