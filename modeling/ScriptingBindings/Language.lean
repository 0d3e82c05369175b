/-
  ScriptingBindings.Language
  ──────────────────────────────────
  **TARGET LANGUAGES.**

  The languages that code can be generated in, each with a name, other names
  that are accepted for it, and what is known about its files.  Names are
  accepted in any letter case.
-/
import ScriptingBindings.Text.Casing

namespace ScriptingBindings

/-- A target language. -/
inductive Language where
  | swift
  deriving Repr, DecidableEq

namespace Language

/-- All languages in the order of their names. -/
def all : List Language := [swift]

/-- The name of a language. -/
def name : Language → String
  | swift => "swift"

/-- The extension of the files of a language. -/
def fileExtension : Language → String
  | swift => ".swift"

/-- Other names of a language. -/
def aliases : Language → List String
  | swift => ["sw"]

/-- The name under which the generator of a language is shown. -/
def generatorName : Language → String
  | swift => "SwiftGenerator"

/-- The place where the generator of a language is kept. -/
def generatorModule : Language → String
  | swift => "sdef_explorer.codegen.languages.swift.generator"

/-- The language of a name. -/
def find? (s : String) : Option Language :=
  let key := Text.lower s
  all.find? (fun language => language.name == key || language.aliases.contains key)

/-- The names of all languages. -/
def names : List String :=
  all.map name

end Language

end ScriptingBindings
