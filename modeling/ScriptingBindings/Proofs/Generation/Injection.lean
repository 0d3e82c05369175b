/-
  ScriptingBindings.Proofs.Generation.Injection
  ──────────────────────────────────
  **WHICH TEXTS CAN START LINES OF CODE.**

  A generator that is asked for a class or for an enumeration, after whatever
  else it was asked for, starts each line itself, with two exceptions.  The name
  is written into the title as it is, so its lines after the first are lines of
  the declaration; and so are those of a code that is quoted.  No other text of
  the record starts a line, and where the name and the codes are of one line
  none does:

      IsGuardedBut (linesOf text) (laterLines c.name)
-/
import ScriptingBindings.Proofs.Generation.History
import ScriptingBindings.Proofs.Swift.LineStarts

namespace ScriptingBindings

open Dictionary Text Swift

/-! ## §1. Names after calls. -/

/-- The names of a file are those of its plan, whether or not there is code for it. -/
theorem Swift.names_generate (o : Options) (d : Dictionary) (basename : String) :
    (Swift.generate o d basename).value.1 = (plan d basename).value.1 := by
  rw [Swift.generate_eq, Logged.value_bind]
  obtain ⟨names, p⟩ := (plan d basename).value
  cases p <;> rfl

namespace Instance

/-- No file was asked for under a basename with a line feed. -/
def BasenamesAreFlat (calls : List Call) : Prop :=
  ∀ d basename, Call.generate d basename ∈ calls → IsOneLine basename

theorem areFlat_namesAfter (o : Options) {calls : List Call} (h : BasenamesAreFlat calls) :
    ((new o).generator.namesAfter (lastGeneration? calls)).AreFlat := by
  cases hlast : lastGeneration? calls with
  | none => exact .new
  | some last =>
    -- What a file leaves are its names at the start and what its plan made known.
    have hbase := h last.1 last.2 (generate_mem_of_lastGeneration? hlast)
    show (Swift.generate o last.1 last.2).value.1.AreFlat
    rw [names_generate]
    exact (Names.AreFlat.start hbase).of_learns (learns_plan last.1 last.2)

/-! ## §2. Declarations after calls. -/

theorem answerAfter_protocol [Machine] (o : Options) (calls : List Call) (c : Dictionary.Class) :
    ((new o).answerAfter calls (.protocol c)).value
      = .text (classText o ((new o).generator.namesAfter (lastGeneration? calls)) c).outcome := by
  rw [answerAfter_eq (isSound_new o), Logged.value_map, Generator.value_answer_protocol]
  rfl

theorem answerAfter_enumeration [Machine] (o : Options) (calls : List Call) (e : Enumeration) :
    ((new o).answerAfter calls (.enumeration e)).value
      = .text
          (enumerationText o ((new o).generator.namesAfter (lastGeneration? calls)) e).outcome := by
  rw [answerAfter_eq (isSound_new o), Logged.value_map, Generator.value_answer_enumeration]
  rfl

/-- **Names cannot inject code**, but for line feeds in the names of classes and enumerations and
in quoted codes: the lines behind these are all that the templates do not start. -/
theorem isGuardedBut_answerAfter [Machine] {o : Options} (ho : o.overrides = []) {calls : List Call}
    (hcalls : BasenamesAreFlat calls) :
    (∀ c text, ((new o).answerAfter calls (.protocol c)).value = .text (.ok text) →
      IsGuardedBut (linesOf text) (laterLines c.name)) ∧
    (∀ e text, ((new o).answerAfter calls (.enumeration e)).value = .text (.ok text) →
      IsGuardedBut (linesOf text) (laterLines e.name ++
        (declaredValues e).flatMap fun v => laterLines (FourCharCode.encode v.code))) := by
  have hnames := areFlat_namesAfter o hcalls
  refine ⟨fun c text h => ?_, fun e text h => ?_⟩
  · rw [answerAfter_protocol, Answer.text.injEq] at h
    exact isGuardedBut_classText ho hnames h
  · rw [answerAfter_enumeration, Answer.text.injEq] at h
    exact isGuardedBut_enumerationText hnames h

/-! ## §3. Runs on hostile records. -/

/-- A class that is declared is answered with a text. -/
theorem exists_answerAfter_protocol [Machine] (o : Options) (calls : List Call)
    (c : Dictionary.Class) (h : (declareClass o ((new o).generator.namesAfter (lastGeneration? calls)) c).outcome.isOk
      = true) :
    ∃ text, ((new o).answerAfter calls (.protocol c)).value = .text (.ok text) := by
  obtain ⟨p, hp⟩ := exists_eq_ok_of_isOk h
  exact ⟨_, by rw [answerAfter_protocol, classText_of_declareClass hp]⟩

/-- An enumeration that is declared is answered with a text. -/
theorem exists_answerAfter_enumeration [Machine] (o : Options) (calls : List Call) (e : Enumeration)
    (h : (declareEnumeration ((new o).generator.namesAfter (lastGeneration? calls)) e).outcome.isOk
      = true) :
    ∃ text, ((new o).answerAfter calls (.enumeration e)).value = .text (.ok text) := by
  obtain ⟨declaration, hdeclaration⟩ := exists_eq_ok_of_isOk h
  exact ⟨_, by rw [answerAfter_enumeration, enumerationText_of_declareEnumeration hdeclaration]⟩

/-- One file was asked for, for a dictionary with one enumeration. -/
def playerCalls : List Call :=
  [.generate { suites := [{ name := "Player Suite", enumerations := [
    { name := "state", enumerators := [{ name := "on", code := "kOn " }] }] }] } "Player"]

/-- A class each text of which has a line that would be code. -/
def hostileClass : Dictionary.Class where
  name := "track\nimport A"
  description := some "Ends it.\nimport B"
  inherits := some "item\nimport C"
  properties := [
    { name := "state\nimport D", type := { base := "text\nimport E" }
      description := some "import F\nimport G" },
    { name := "id", type := { base := "import H\nstate", isList := true } }]
  elements := [{ type := "artwork\nimport I" }]

/-- An enumeration each text of which has a line that would be code. -/
def hostileEnumeration : Enumeration where
  name := "state\nimport A"
  description := some "Ends it.\nimport B"
  enumerators := [
    { name := "on\nimport C", code := "kO\nn", description := some "import D\nimport E" },
    { name := "off", code := "k\nimport F" }]

section Usual

attribute [local instance] Machine.usual

/-- Of the hostile records only the name and the code that is quoted start lines. -/
theorem isGuardedBut_answerAfter_hostile :
    (∃ text, ((new {}).answerAfter playerCalls (.protocol hostileClass)).value
        = .text (.ok text) ∧
      IsGuardedBut (linesOf text) ["import A".toList]) ∧
    (∃ text, ((new {}).answerAfter playerCalls (.enumeration hostileEnumeration)).value
        = .text (.ok text) ∧
      IsGuardedBut (linesOf text) ["import A".toList, "import F'".toList]) := by
  have hcalls : BasenamesAreFlat playerCalls := by
    intro d basename h
    rw [playerCalls, List.mem_singleton, Call.generate.injEq] at h
    rw [h.2]
    decide
  have hall := isGuardedBut_answerAfter (o := {}) rfl hcalls
  obtain ⟨text, htext⟩ := exists_answerAfter_protocol {} playerCalls hostileClass
    (by decide +kernel)
  obtain ⟨text', htext'⟩ := exists_answerAfter_enumeration {} playerCalls
    hostileEnumeration (by decide +kernel)
  refine ⟨⟨text, htext, ?_⟩, ⟨text', htext', ?_⟩⟩
  · exact hall.1 hostileClass text htext
  · exact hall.2 hostileEnumeration text' htext'

/-- A class whose name has a line feed. -/
def brokenClass : Dictionary.Class where
  name := "a\nb"

/-- An enumeration with a code that is quoted and has a line feed. -/
def brokenEnumeration : Enumeration where
  name := "state"
  enumerators := [{ name := "on", code := "ab\ncd" }]

/-- **Names and codes can inject code**: what stands behind a line feed starts a line that is not
guarded. -/
theorem name_starts_line :
    (∃ text, ((new {}).answerAfter [] (.protocol brokenClass)).value
        = .text (.ok text) ∧ ¬ ∀ line ∈ linesOf text, isGuarded line = true) ∧
    (∃ text, ((new {}).answerAfter [] (.enumeration brokenEnumeration)).value
        = .text (.ok text) ∧ ¬ ∀ line ∈ linesOf text, isGuarded line = true) := by
  have hcalls : BasenamesAreFlat [] := fun d basename h => absurd h List.not_mem_nil
  have hnames := areFlat_namesAfter {} hcalls
  obtain ⟨text, htext⟩ := exists_answerAfter_protocol {} [] brokenClass
    (by decide +kernel)
  obtain ⟨text', htext'⟩ := exists_answerAfter_enumeration {} [] brokenEnumeration
    (by decide +kernel)
  refine ⟨⟨text, htext, ?_⟩, ⟨text', htext', ?_⟩⟩
  · rw [answerAfter_protocol, Answer.text.injEq] at htext
    rw [(isGuardedBut_classText rfl hnames htext).guarded_iff]
    decide
  · rw [answerAfter_enumeration, Answer.text.injEq] at htext'
    rw [(isGuardedBut_enumerationText hnames htext').guarded_iff]
    decide

end Usual

end Instance

end ScriptingBindings
