/-
  ScriptingBindings.Identifier.Casing
  ──────────────────────────────────
  **WORDS JOINED INTO ONE.**

  In Pascal case every word starts with a capital; in camel case the first
  word is in lower case.  Acronyms stand in capitals wherever they come, but
  for the first word of a camel case name.  Selectors of commands follow a
  plainer rule that knows spaces only.
-/
import ScriptingBindings.Identifier.Words
import ScriptingBindings.Text.Casing
import ScriptingBindings.Text.Lines

namespace ScriptingBindings.Identifier

open Text

/-! ## §1. Single words. -/

/-- The words that always stand in capitals. -/
def acronyms : List String :=
  ["CD", "DVD", "URL", "ID", "UUID", "HTTP", "HTTPS", "XML", "HTML", "PDF", "UI", "API"]

/-- A word with its first character in upper case and the rest as it is. -/
def capitalizeFirst : List Char → List Char
  | [] => []
  | c :: rest => upperOf c ++ rest

/-- A word that is not the first of a camel case name. -/
def laterWord (word : List Char) : List Char :=
  let capitals := upperChars word
  if acronyms.contains (String.ofList capitals) then capitals else capitalizeFirst word

/-! ## §2. Names. -/

/-- The first word in lower case, the others capitalised. -/
def camelCase (name : List Char) : List Char :=
  match words name with
  | [] => []
  | first :: rest => lowerChars first ++ rest.flatMap laterWord

/-- Every word capitalised. -/
def pascalCase (name : List Char) : List Char :=
  (words name).flatMap laterWord

/-- The selector form of a name: cut at spaces, the first word in lower case, each
later one with a capital and otherwise in lower case.  A name of nothing but
spaces stays as it is. -/
def selectorCase (name : List Char) : List Char :=
  match (cutAt ' ' name).filter (fun word => !word.isEmpty) with
  | [] => name
  | first :: rest => lowerChars first ++ rest.flatMap capitalizeChars

end ScriptingBindings.Identifier
