/-
  ScriptingBindings.Proofs.Generation.Descriptions
  ──────────────────────────────────
  **DESCRIPTIONS CANNOT INFLUENCE CODE.**

  Two dictionaries that are equal except for descriptions are generated alike:
  both fail in the same way, or both give code whose lines are the same once
  the remarks are taken out.  This holds for every text in a description, as
  each of its lines becomes a remark of its own, and for every layout:

      d.undescribed = d'.undescribed  →  Alike SameCode (g d) (g d')
-/
import ScriptingBindings.Generation.Result
import ScriptingBindings.Proofs.Swift.Descriptions

namespace ScriptingBindings

open Dictionary Text

/-! ## §1. Checking. -/

namespace Generation

theorem firstExtension?_undescribed (suites : List Suite) :
    firstExtension? (suites.map Suite.undescribed)
      = (firstExtension? suites).map fun (e, s) => (e.undescribed, s.undescribed) := by
  unfold firstExtension?
  induction suites with
  | nil => rfl
  | cons s suites ih =>
    rw [List.map_cons, List.findSome?_cons, List.findSome?_cons, ih]
    have hhead : s.undescribed.extensions.head? = s.extensions.head?.map Extension.undescribed :=
      List.head?_map
    rw [hhead]
    cases s.extensions.head? <;> rfl

theorem suiteWarnings_undescribed (s : Suite) : suiteWarnings s.undescribed = suiteWarnings s := by
  have hclasses : s.undescribed.classes = s.classes.map Class.undescribed := rfl
  have henumerations : s.undescribed.enumerations = s.enumerations.map Enumeration.undescribed := rfl
  have hcommands : s.undescribed.commands = s.commands.map Command.undescribed := rfl
  have hname : s.undescribed.name = s.name := rfl
  have hwarnings : ∀ c, classWarnings s.name (Class.undescribed c) = classWarnings s.name c :=
    fun _ => rfl
  unfold suiteWarnings
  simp only [hclasses, henumerations, hcommands, hname, List.isEmpty_map, List.flatMap_map,
    hwarnings]

/-- No description is looked at by the check. -/
theorem check_undescribed (d : Dictionary) : check d.undescribed = check d := by
  unfold check
  rw [suites_undescribed, firstExtension?_undescribed]
  cases firstExtension? d.suites with
  | some found => rfl
  | none =>
    simp only [Option.map_none, List.flatMap_map, suiteWarnings_undescribed]

end Generation

/-! ## §2. Generating. -/

theorem Metadata.of_undescribed (language : Language) (d : Dictionary) (basename : String) :
    Metadata.of language d.undescribed basename = Metadata.of language d basename := by
  simp [Metadata.of]

/-- How two generations end whose code differs by remarks alone. -/
inductive SameCode : Generated → Generated → Prop where
  /-- Both with code, and with the same warnings and counts. -/
  | code {s t : String} (h : codeLines s = codeLines t) (warnings : List String)
      (metadata : Metadata) : SameCode (.code s warnings metadata) (.code t warnings metadata)
  /-- Both with code that no file can hold, and with the same warnings and counts. -/
  | unencodable {s t : String} (h : codeLines s = codeLines t) (warnings : List String)
      (metadata : Metadata) : SameCode (.unencodable s warnings metadata)
        (.unencodable t warnings metadata)
  /-- Both without, for the same reason. -/
  | failed (e : GenerationError) : SameCode (.failed e) (.failed e)

namespace SameCode

theorem trans_left {a b c : Generated} (hb : SameCode a b) (hc : SameCode a c) : SameCode b c := by
  cases hb with
  | code h warnings metadata =>
    cases hc with
    | code h' => exact .code (h.symm.trans h') warnings metadata
  | unencodable h warnings metadata =>
    cases hc with
    | unencodable h' => exact .unencodable (h.symm.trans h') warnings metadata
  | failed e =>
    cases hc with
    | failed => exact .failed e

theorem refl : ∀ a, SameCode a a
  | .code _ warnings metadata => .code rfl warnings metadata
  | .unencodable _ warnings metadata => .unencodable rfl warnings metadata
  | .failed e => .failed e

end SameCode

namespace Generator

variable (g : Generator)

/-- A dictionary is generated like itself without descriptions. -/
theorem alike_generate_undescribed [Machine] (d : Dictionary) (basename : String) :
    Alike SameCode (g.generate d.undescribed basename).value.2 (g.generate d basename).value.2 := by
  rw [generate_eq, generate_eq, Generation.check_undescribed]
  cases Generation.check d with
  | error e => exact .refl SameCode.refl _
  | ok warnings =>
    have hcode := Swift.alike_generate g.options d basename
    simp only [Logged.value_bind]
    generalize (Swift.generate g.options d.undescribed basename).value = plain at hcode ⊢
    generalize (Swift.generate g.options d basename).value = full at hcode ⊢
    obtain ⟨names, plain⟩ := plain
    obtain ⟨names', full⟩ := full
    cases hcode with
    | error e => exact .refl SameCode.refl _
    | ok h =>
      refine (h.format g.options.indentSize).map fun _ _ hlaid => ?_
      unfold finish
      rw [Metadata.of_undescribed, Swift.isEncodable_undescribed]
      split
      next => exact .code hlaid.codeLines_eq warnings _
      next => exact .unencodable hlaid.codeLines_eq warnings _

/-- **Descriptions cannot influence code**: dictionaries that are equal except for descriptions
are generated alike, and the code is the same except for remarks. -/
theorem alike_generate_of_undescribed_eq [Machine] {d d' : Dictionary}
    (h : d.undescribed = d'.undescribed) (basename : String) :
    Alike SameCode (g.generate d basename).value.2 (g.generate d' basename).value.2 := by
  have hleft := g.alike_generate_undescribed d basename
  have hright := g.alike_generate_undescribed d' basename
  rw [← h] at hright
  exact hleft.trans_left hright fun _ _ _ => SameCode.trans_left

end Generator

/-- A dictionary that is described by one text throughout. -/
def describedDictionary (description : Option String) : Dictionary :=
  { suites := [
      { name := "Player Suite"
        description := description
        classes := [
          { name := "track"
            description := description
            properties := [
              { name := "name", type := { base := "text", description := description }
                description := description }] }]
        enumerations := [
          { name := "player state"
            description := description
            enumerators := [{ name := "stopped", code := "kPSS", description := description }] }]
        commands := [{ name := "stop", description := description }] }] }

/-- A generator with a width of its own. -/
def narrowGenerator : Generator :=
  { options := { imports := Swift.Options.defaultImports.map Json.str, indentSize := .int 2 } }

theorem undescribed_describedDictionary (description : Option String) :
    (describedDictionary description).undescribed = describedDictionary none := rfl

/-- A description that would end a declaration and start others. -/
def hostileDescription : String := "Ends it.\n\x7d\n\n/// import Darwin"

section Usual

attribute [local instance] Machine.usual

theorem alike_generate_of_undescribed_eq_hostile :
    (describedDictionary none).undescribed
        = (describedDictionary (some hostileDescription)).undescribed ∧
      Alike SameCode (narrowGenerator.generate (describedDictionary none) "Player").value.2
        (narrowGenerator.generate (describedDictionary (some hostileDescription)) "Player").value.2 :=
  have h : (describedDictionary none).undescribed
      = (describedDictionary (some hostileDescription)).undescribed :=
    (undescribed_describedDictionary none).trans (undescribed_describedDictionary _).symm
  ⟨h, narrowGenerator.alike_generate_of_undescribed_eq h "Player"⟩

end Usual

end ScriptingBindings
