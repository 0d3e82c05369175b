/-
  ScriptingBindings.Proofs.Generation.History
  ──────────────────────────────────
  **A GENERATOR FORGETS ITS HISTORY.**

  What a generator answers does not depend on what it was asked before, except
  that it knows the names of the last dictionary that passed the check:

      answer after calls  =  answer after the last checked generation alone

  One call agrees with a generator that has no memory, because what is
  remembered is what would be made.  Such a generator only changes its names,
  and what it changes them to does not depend on those it had.
-/
import ScriptingBindings.Generation.Instance
import ScriptingBindings.Proofs.Swift.Naming

namespace ScriptingBindings

open Dictionary Identifier

/-! ## §1. One call. -/

/-- The answer to a call if nothing is remembered. -/
def Generator.answer [Machine] (g : Generator) (c : Call) : Logged (Generator × Answer) :=
  (g.respond c).made

theorem Generator.answer_generate [Machine] (g : Generator) (d : Dictionary) (basename : String) :
    g.answer (.generate d basename) = do
      let (g, result) ← g.generate d basename
      return (g, .generated result) :=
  Swift.Stage.made_bind _ _

theorem Generator.value_answer_protocol [Machine] (g : Generator) (c : Dictionary.Class) :
    (g.answer (.protocol c)).value
      = (g, .text (Swift.classText g.options g.names c).outcome) := by
  rw [answer, respond, Swift.Stage.made_bind, Logged.value_bind, Swift.Declaring.value_made_run]
  rfl

theorem Generator.value_answer_enumeration [Machine] (g : Generator) (e : Enumeration) :
    (g.answer (.enumeration e)).value
      = (g, .text (Swift.enumerationText g.options g.names e).outcome) := by
  rw [answer, respond, Swift.Stage.made_bind, Logged.value_bind, Swift.Declaring.value_made_run]
  rfl

/-! ## §2. What a call leaves behind. -/

/-- The dictionary and the basename of a generation, if the dictionary passes the check. -/
def Call.checked? : Call → Option (Dictionary × String)
  | .generate d basename =>
    match Generation.check d with
    | .ok _ => some (d, basename)
    | .error _ => none
  | _ => none

/-- The names that a generation leaves; without one the names stay as they are. -/
def Generator.namesAfter (g : Generator) : Option (Dictionary × String) → Swift.Names
  | none => g.names
  | some (d, basename) => (Swift.generate g.options d basename).value.1

namespace Generator

theorem value_generate_fst [Machine] (g : Generator) (d : Dictionary) (basename : String) :
    (g.generate d basename).value.1
      = { g with names := g.namesAfter (Call.generate d basename).checked? } := by
  simp only [generate_eq, Call.checked?]
  cases Generation.check d with
  | error e => rfl
  | ok warnings =>
    rw [Logged.value_bind]
    show _ = { g with names := (Swift.generate g.options d basename).value.1 }
    -- The names are those of the file, whether or not there is code for it.
    cases (Swift.generate g.options d basename).value with
    | mk names code =>
      cases code with
      | error e => rfl
      | ok code => rfl

/-- **A call only changes the names**, and only if it is a generation that passes the check. -/
theorem value_answer_fst [Machine] (g : Generator) (c : Call) :
    (g.answer c).value.1 = { g with names := g.namesAfter c.checked? } := by
  cases c with
  | generate d basename =>
    rw [answer_generate, Logged.value_bind]
    exact g.value_generate_fst d basename
  | _ =>
    simp only [answer, respond, Swift.Stage.made_bind]
    rfl

/-- **A generation does not look at the names of the generations before it.** -/
theorem snd_answer_generate [Machine] (g : Generator) (n : Swift.Names) (d : Dictionary)
    (basename : String) :
    Prod.snd <$> ({ g with names := n } : Generator).answer (.generate d basename)
      = Prod.snd <$> g.answer (.generate d basename) := by
  simp only [answer_generate, generate_eq]
  cases Generation.check d with
  | error e => rfl
  | ok warnings =>
    -- The options are the same, and the names of this file take the place of those before it.
    simp only [map_eq_pure_bind, bind_assoc]

end Generator

namespace Instance

/-- What is remembered is what would be made. -/
def IsSound (i : Instance) : Prop := Memory.IsSound Swift.sanitizer i.memory

theorem isSound_new (o : Swift.Options) : (new o).IsSound := Memory.isSound_nil _

/-- **One call** gives the answer that is given without a memory, and what is remembered stays
true. -/
theorem call_eq [Machine] {i : Instance} (hi : i.IsSound) (c : Call) :
    Prod.snd <$> i.call c = Prod.snd <$> i.generator.answer c ∧
      (i.call c).value.1.generator = (i.generator.answer c).value.1 ∧
      (i.call c).value.1.IsSound := by
  obtain ⟨m, hm, hrecalled⟩ := Swift.Stage.exists_recalled_eq hi (i.generator.respond c)
  -- The call runs from the memory that is there and leaves another sound one.
  unfold call
  rw [hrecalled]
  refine ⟨?_, rfl, hm⟩
  simp only [map_eq_pure_bind, bind_assoc]
  rfl

/-! ## §3. What many calls leave behind. -/

/-- The last generation of a dictionary that passes the check. -/
def lastGeneration? (calls : List Call) : Option (Dictionary × String) :=
  (calls.filterMap Call.checked?).getLast?

theorem lastGeneration?_cons (c : Call) (calls : List Call) :
    lastGeneration? (c :: calls) = (lastGeneration? calls).or c.checked? := by
  unfold lastGeneration?
  rw [List.filterMap_cons]
  cases c.checked? with
  | none => exact Option.or_none.symm
  | some last =>
    rw [List.getLast?_cons]
    cases (calls.filterMap Call.checked?).getLast? with
    | none => rfl
    | some later => rfl

/-- The names after a call and those after it, at once. -/
theorem namesAfter_cons (g : Generator) (c : Call) (calls : List Call) :
    ({ g with names := g.namesAfter c.checked? } : Generator).namesAfter (lastGeneration? calls)
      = g.namesAfter (lastGeneration? (c :: calls)) := by
  rw [lastGeneration?_cons]
  cases lastGeneration? calls with
  | none => rfl
  | some later => rfl

/-- The generator after some calls. -/
def after [Machine] (i : Instance) (calls : List Call) : Instance :=
  (i.callAll calls).value.1

theorem after_cons [Machine] (i : Instance) (c : Call) (calls : List Call) :
    i.after (c :: calls) = (i.call c).value.1.after calls := rfl

/-- **Many calls** leave the names of the last generation that passed the check. -/
theorem after_eq [Machine] {i : Instance} (hi : i.IsSound) (calls : List Call) :
    (i.after calls).generator
        = { i.generator with names := i.generator.namesAfter (lastGeneration? calls) } ∧
      (i.after calls).IsSound := by
  -- The instance is free: the rest of the calls goes on from what the first one left.
  induction calls generalizing i with
  | nil => exact ⟨rfl, hi⟩
  | cons c calls ih =>
    obtain ⟨-, hgenerator, hsound⟩ := call_eq hi c
    rw [Generator.value_answer_fst] at hgenerator
    obtain ⟨hafter, hsound'⟩ := ih hsound
    rw [after_cons]
    refine ⟨?_, hsound'⟩
    rw [hafter, hgenerator, namesAfter_cons]

/-- The answer to a call after some others, with the records that are left for it. -/
def answerAfter [Machine] (i : Instance) (calls : List Call) (c : Call) : Logged Answer :=
  Prod.snd <$> (i.after calls).call c

/-- An answer only depends on the names that the last checked generation left. -/
theorem answerAfter_eq [Machine] {i : Instance} (hi : i.IsSound) (calls : List Call) (c : Call) :
    i.answerAfter calls c
      = Prod.snd <$> Generator.answer
          { i.generator with names := i.generator.namesAfter (lastGeneration? calls) } c := by
  obtain ⟨hafter, hsound⟩ := after_eq hi calls
  unfold answerAfter
  rw [(call_eq hsound c).1, hafter]

/-- The calls that are not forgotten: the last generation that passed the check. -/
def remembered (calls : List Call) : List Call :=
  (lastGeneration? calls).toList.map fun last => .generate last.1 last.2

/-- What is kept of a generation is enough to ask for it again. -/
theorem eq_generate_of_checked? {c : Call} {last : Dictionary × String}
    (h : c.checked? = some last) : c = .generate last.1 last.2 := by
  cases c with
  | generate d basename =>
    have hlast : (d, basename) = last := by
      simp only [Call.checked?] at h
      split at h
      next => exact Option.some.inj h
      next => exact absurd h (by simp)
    rw [← hlast]
  | _ => exact absurd h (by simp [Call.checked?])

/-- The last generation is one of the calls. -/
theorem generate_mem_of_lastGeneration? {calls : List Call} {last : Dictionary × String}
    (h : lastGeneration? calls = some last) : Call.generate last.1 last.2 ∈ calls := by
  obtain ⟨c, hc, hchecked⟩ := List.mem_filterMap.mp (List.mem_of_getLast? h)
  rwa [← eq_generate_of_checked? hchecked]

theorem lastGeneration?_remembered (calls : List Call) :
    lastGeneration? (remembered calls) = lastGeneration? calls := by
  unfold remembered
  cases hlast : lastGeneration? calls with
  | none => rfl
  | some last =>
    obtain ⟨c, -, hc⟩ := List.mem_filterMap.mp (List.mem_of_getLast? hlast)
    simp [lastGeneration?, ← eq_generate_of_checked? hc, hc]

end Instance

/-- **A generator forgets its history.**  After any calls, whatever became of them, a call is
answered as after the last generation of a dictionary that passed the check; a generation is
answered as by a new generator; and an identifier is the one that is made without a memory, for
this sanitizer and for any other. -/
theorem answer_forgets_history [Machine] (o : Swift.Options) (calls : List Call) :
    (∀ c, (Instance.new o).answerAfter calls c
      = (Instance.new o).answerAfter (Instance.remembered calls) c) ∧
    (∀ d basename, (Instance.new o).answerAfter calls (.generate d basename)
      = (Instance.new o).answerAfter [] (.generate d basename)) ∧
    (∀ c, (Instance.new o).answerAfter calls (.convert c)
      = pure (.identifier (Swift.sanitizer.convert c))) ∧
    (∀ (s : Sanitizer) (cs : List Conversion), s.recallAll [] cs = cs.map s.convert) := by
  have hnew := Instance.isSound_new o
  refine ⟨fun c => ?_, fun d basename => ?_, fun c => ?_, fun s cs => ?_⟩
  · rw [Instance.answerAfter_eq hnew, Instance.answerAfter_eq hnew,
      Instance.lastGeneration?_remembered]
  · rw [Instance.answerAfter_eq hnew, Instance.answerAfter_eq hnew]
    exact (Generator.snd_answer_generate _ _ d basename).trans
      (Generator.snd_answer_generate _ _ d basename).symm
  · rw [Instance.answerAfter_eq hnew]
    rfl
  · exact recallAll_eq (Memory.isSound_nil s) cs

end ScriptingBindings
