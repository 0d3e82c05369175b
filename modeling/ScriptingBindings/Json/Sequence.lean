/-
  ScriptingBindings.Json.Sequence
  ──────────────────────────────────
  **VALUES AS SEQUENCES.**

  Where a sequence is asked for, an array gives its items, a text its
  characters and an object the names of its members.  Where entries are asked
  for, an object gives its members, and any sequence of pairs will do as well.
-/
import ScriptingBindings.Json.Writer
import ScriptingBindings.Misuse

namespace ScriptingBindings.Json

/-- The values of a sequence in order. -/
def sequence : Json → Except Misuse (List Json)
  | arr vs => .ok vs
  | str s => .ok (s.toList.map (fun c => str (String.singleton c)))
  | broken b => .ok (b.codes.map (fun code => ofCodes [code]))
  | obj fields => .ok (fields.map (fun field => str field.1))
  | _ => .error .wrongKind

/-- A value as the name of an entry.  Sequences other than texts name nothing. -/
def entryName : Json → Except Misuse String
  | str s => .ok s
  | broken b => .ok b.name
  | arr _ | obj _ => .error .wrongKind
  | v => .ok v.compact

/-- A pair as an entry. -/
def entry (v : Json) : Except Misuse (String × Json) := do
  match ← v.sequence with
  | [name, value] => return (← name.entryName, value)
  | _ => throw .wrongValue

/-- The entries of a value; of two of one name the later counts, in the earlier's place. -/
def entries : Json → Except Misuse (OrderedMap Json)
  | obj fields => .ok fields
  | v => do
    let pairs ← (← v.sequence).mapM entry
    return OrderedMap.putAll [] pairs

end ScriptingBindings.Json
