/-
  ScriptingBindings.Proofs.Command.Generation
  ──────────────────────────────────
  **WHAT A RUN GENERATES.**

  A run has one job for the dictionary that it builds and, if that is asked
  for, one for each dictionary that this one includes.  It has results only if
  every job has one, and until then it changes nothing but the file for the
  records.
-/
import ScriptingBindings.Proofs.Build.Stages
import ScriptingBindings.Proofs.Catalog.Sources
import ScriptingBindings.Proofs.Command.Steps
import ScriptingBindings.Proofs.Generation.Requests
import ScriptingBindings.Proofs.OrderedMap

namespace ScriptingBindings.Command

open Dictionary FileSystem Step

/-! ## §1. Jobs. -/

/-- A generation that is to be made. -/
structure Job where
  basename : String
  config : Config
  dictionary : Dictionary

/-- The result of a job, from a generator for its configuration. -/
def Job.result [Machine] (j : Job) : Except Failure Generated := do
  let g ← makeGenerator {} j.config
  (g.generate j.dictionary j.basename).value.2.mapError .misuse

/-- An entry is the result of a job under its basename. -/
def Job.Gives [Machine] (j : Job) (entry : String × Generated) : Prop :=
  entry.1 = j.basename ∧ j.result = .ok entry.2

/-- The job for an included document. -/
def inclusionJob (c : Config) (i : Inclusion Dictionary) : Job :=
  ⟨i.basename, c.forInclusion, i.content⟩

/-- The jobs of a run, the main one first. -/
def jobs (c : Config) (basename : String) (d : Dictionary) : List Job :=
  ⟨basename, c, d⟩ ::
    if c.generateRecursively.isTruthy then d.inclusions.map (inclusionJob c) else []

/-- A dictionary is built from files that agree, but for some places, with those that are there.
The document and its standard definitions may be read at different times. -/
def IsBuilt (P : Location → Prop) (around : Surroundings) (a : Arguments)
    (settings : BuildSettings) (d : Dictionary) : Prop :=
  ∃ origin document, ∃ fs fs' : FileSystem,
    (Document.Origin.choose a.path (a.value .url)).outcome = .ok origin ∧
      AgreeBut P around.files fs ∧
        (origin.fetch { around with files := fs }).outcome = .ok document ∧
          AgreeBut P around.files fs' ∧
            (Build.ofDocument fs' settings document).outcome = .ok d

/-- Every included document is the standard one. -/
theorem IsBuilt.basename_eq {P : Location → Prop} {around : Surroundings} {a : Arguments}
    {settings : BuildSettings} {d : Dictionary} (h : IsBuilt P around a settings d) :
    ∀ i ∈ d.inclusions, i.basename = Catalog.standardBasename := by
  obtain ⟨_, document, _, fs, -, -, -, -, hbuild⟩ := h
  unfold Build.ofDocument at hbuild
  obtain ⟨_, -, hroot⟩ := Run.outcome_bind_eq_ok.mp hbuild
  obtain ⟨e, place, c, -, -, hc, rfl⟩ := Build.ofRoot_eq_ok.mp hroot
  rw [Build.value_ofSuites]
  intro i hi
  obtain ⟨j, hj, rfl⟩ := List.mem_map.mp hi
  rcases (Catalog.isMadeFrom_resolve hc).inclusions_cases with hnone | ⟨-, root, hone⟩
  · rw [hnone] at hj
    exact absurd hj List.not_mem_nil
  · rw [hone] at hj
    rw [List.mem_singleton.mp hj]
    rfl

/-! ## §2. Quiet steps. -/

variable {g : Generator} {d : Dictionary} {basename : String} {s s' : Session}

theorem isQuiet_generate [Machine] (g : Generator) (d : Dictionary) (basename : String) :
    IsQuiet (generate g d basename) :=
  (IsQuiet.ofLogged _).bind fun _ => .ofExcept _ _

theorem isQuiet_generateInclusions [Machine] (g : Generator) (results : OrderedMap Generated)
    (inclusions : List (Inclusion Dictionary)) :
    IsQuiet (generateInclusions g results inclusions) := by
  induction inclusions generalizing results with
  | nil => exact .pure results
  | cons i rest ih =>
    unfold generateInclusions
    split
    next => exact .throw _
    next => exact (isQuiet_generate g i.content i.basename).bind fun result => ih _

theorem isQuiet_build (around : Surroundings) (a : Arguments) (settings : BuildSettings) :
    IsQuiet (build around a settings) := by
  refine (IsQuiet.ofRun _ _).bind fun origin => (IsQuiet.ofRun _ _).bind fun _ => ?_
  refine IsQuiet.files.bind fun fs => (IsQuiet.ofRun _ _).bind fun document => ?_
  exact IsQuiet.files.bind fun fs' => .ofRun _ _

/-- **Generating changes the file for the records at most.** -/
theorem isQuiet_generateAll [Machine] (around : Surroundings) (a : Arguments) (c : Config)
    (basename : String) : IsQuiet (generateAll around a c basename) := by
  refine (IsQuiet.ofExcept _ _).bind fun g => (isQuiet_build around a _).bind fun d => ?_
  refine (isQuiet_generate g d basename).bind fun result => ?_
  split
  next => exact (IsQuiet.ofExcept _ _).bind fun _ => isQuiet_generateInclusions _ _ _
  next => exact .pure _

/-! ## §3. What the steps give. -/

/-- The files do not matter for a generator with a finished configuration. -/
theorem makeGenerator_eq [Machine] (files : FileSystem) (c : Config) :
    makeGenerator files c = makeGenerator {} c := rfl

/-- There is a generator for a finished configuration where its options can be made. -/
theorem makeGenerator_eq_mapError [Machine] (files : FileSystem) (c : Config) :
    makeGenerator files c
      = (Generator.ofConfig c).mapError fun _ => .creation Request.unusable := by
  unfold makeGenerator
  rw [Request.generator_eq (Request.isSource_ready c) rfl]
  cases Generator.ofConfig c with
  | ok g => rfl
  | error m => rfl

theorem makeGenerator_eq_ok [Machine] {files : FileSystem} {c : Config} :
    makeGenerator files c = .ok g ↔ Generator.ofConfig c = .ok g := by
  rw [makeGenerator_eq_mapError, mapError_eq_ok]

theorem after_generate [Machine] :
    after (generate g d basename) s = ((g.generate d basename).value.2.mapError .misuse,
      s.keep (g.generate d basename).log) := by
  rw [generate, after_bind, after_ofLogged]
  rfl

/-- The results of included documents come behind those that were there, each under a basename
that none of those before it has. -/
theorem generateInclusions_eq_ok [Machine] {results all : OrderedMap Generated}
    {inclusions : List (Inclusion Dictionary)}
    (h : after (generateInclusions g results inclusions) s = (.ok all, s'))
    (hdistinct : results.keys.Nodup) :
    all.keys.Nodup ∧ ∃ more, all = results ++ more ∧
      List.Forall₂ (fun i entry => entry.1 = i.basename ∧
        (g.generate i.content i.basename).value.2 = .ok entry.2) inclusions more := by
  induction inclusions generalizing results s with
  | nil =>
    obtain ⟨rfl⟩ := Except.ok.inj (congrArg Prod.fst h)
    exact ⟨hdistinct, [], (List.append_nil _).symm, .nil⟩
  | cons i rest ih =>
    unfold generateInclusions at h
    split at h
    next => simp at h
    next hfree =>
      obtain ⟨result, between, hresult, h⟩ := after_bind_eq_ok.mp h
      have hput : results.put i.basename result = results ++ [(i.basename, result)] :=
        OrderedMap.put_of_not_has (Bool.not_eq_true _ ▸ hfree) result
      rw [hput] at h
      have hkeys : (results ++ [(i.basename, result)]).keys.Nodup := by
        rw [← hput]
        exact OrderedMap.nodup_keys_put hdistinct i.basename result
      obtain ⟨hall, more, rfl, hmore⟩ := ih h hkeys
      rw [after_generate, Prod.mk.injEq, mapError_eq_ok] at hresult
      exact ⟨hall, (i.basename, result) :: more, List.append_assoc .., .cons ⟨rfl, hresult.1⟩ hmore⟩

theorem isBuilt_of_build {around : Surroundings} {a : Arguments} {settings : BuildSettings}
    (h : after (build around a settings) s = (.ok d, s')) :
    IsBuilt (IsLogPlace s.sink) { around with files := s.files } a settings d := by
  obtain ⟨origin, s₁, horigin, h⟩ := after_bind_eq_ok.mp h
  obtain ⟨_, s₂, hannounce, h⟩ := after_bind_eq_ok.mp h
  obtain ⟨fs, s₃, hfiles, h⟩ := after_bind_eq_ok.mp h
  obtain ⟨document, s₄, hdocument, h⟩ := after_bind_eq_ok.mp h
  obtain ⟨fs', s₅, hfiles', h⟩ := after_bind_eq_ok.mp h
  have hquiet₂ : s.Keeps s₂ :=
    ((IsQuiet.ofRun _ _).keeps horigin).trans ((IsQuiet.ofRun _ _).keeps hannounce)
  obtain ⟨rfl, rfl⟩ : s₂.files = fs ∧ s₂ = s₃ := by simpa using hfiles
  have hquiet₄ : s.Keeps s₄ := hquiet₂.trans ((IsQuiet.ofRun _ _).keeps hdocument)
  obtain ⟨rfl, rfl⟩ : s₄.files = fs' ∧ s₄ = s₅ := by simpa using hfiles'
  rw [after_ofRun, Prod.mk.injEq, mapError_eq_ok] at horigin hdocument h
  exact ⟨origin, document, s₂.files, s₄.files, horigin.1, hquiet₂.files, hdocument.1,
    hquiet₄.files, h.1⟩

/-- **Every job of a run has a result, under a basename of its own.** -/
theorem generateAll_eq_ok [Machine] {around : Surroundings} {a : Arguments} {c : Config}
    {results : OrderedMap Generated}
    (h : after (generateAll around a c basename) s = (.ok results, s')) :
    results.keys.Nodup ∧ ∃ d, IsBuilt (IsLogPlace s.sink) { around with files := s.files } a
      (buildSettings c) d ∧ List.Forall₂ Job.Gives (jobs c basename d) results := by
  obtain ⟨g, s₁, hfirst, h⟩ := after_bind_eq_ok.mp h
  obtain ⟨hg, rfl⟩ := after_ofExcept_eq_ok.mp hfirst
  obtain ⟨d, s₂, hd, h⟩ := after_bind_eq_ok.mp h
  obtain ⟨result, s₃, hresult, h⟩ := after_bind_eq_ok.mp h
  rw [after_generate, Prod.mk.injEq] at hresult
  have hmain : Job.Gives ⟨basename, c, d⟩ (basename, result) := by
    refine ⟨rfl, ?_⟩
    rw [Job.result, ← makeGenerator_eq around.files c, hg, ok_bind]
    exact hresult.1
  have hsingle : (OrderedMap.keys [(basename, result)]).Nodup := by simp [OrderedMap.keys]
  cases hrecursive : c.generateRecursively.isTruthy with
  | true =>
    rw [hrecursive, if_pos rfl] at h
    obtain ⟨g', s₄, hsecond, h⟩ := after_bind_eq_ok.mp h
    obtain ⟨hg', rfl⟩ := after_ofExcept_eq_ok.mp hsecond
    obtain ⟨hall, more, rfl, hmore⟩ := generateInclusions_eq_ok h hsingle
    refine ⟨hall, d, isBuilt_of_build hd, .cons hmain ?_⟩
    rw [if_pos hrecursive, List.forall₂_map_left_iff]
    refine hmore.imp fun i entry hentry => ⟨hentry.1, ?_⟩
    rw [Job.result, inclusionJob, ← makeGenerator_eq around.files c.forInclusion, hg', ok_bind]
    exact mapError_eq_ok.mpr hentry.2
  | false =>
    rw [hrecursive, if_neg Bool.false_ne_true] at h
    obtain ⟨rfl⟩ := Except.ok.inj (congrArg Prod.fst h)
    refine ⟨hsingle, d, isBuilt_of_build hd, .cons hmain ?_⟩
    rw [hrecursive, if_neg Bool.false_ne_true]
    exact .nil

/-- The results of a run, and the configuration that it has them from. -/
structure Arguments.Generates [Machine] (a : Arguments) (around : Surroundings) (c : Config)
    (basename : String) (results : OrderedMap Generated) : Prop where
  configured : a.configure around.files = .ok (c, basename)
  generated : ∃ s, after (generateAll around a c basename)
    { files := around.files, sink := a.sink? } = (.ok results, s)

/-- Every result of a run has a name that a file can have. -/
theorem isBasename_of_gives [Machine] {P : Location → Prop} {around : Surroundings} {a : Arguments}
    {c : Config} {results : OrderedMap Generated} (hshape : Config.isBasename basename = true)
    (hbuilt : IsBuilt P around a (buildSettings c) d)
    (hgives : List.Forall₂ Job.Gives (jobs c basename d) results) :
    ∀ entry ∈ results, Config.isBasename entry.1 = true := by
  intro entry he
  obtain ⟨j, hj, hname, -⟩ := exists_right_of_forall₂ hgives.flip he
  rw [hname]
  rcases List.mem_cons.mp hj with rfl | hj
  · exact hshape
  · split at hj
    next =>
      obtain ⟨i, hi, rfl⟩ := List.mem_map.mp hj
      rw [inclusionJob, hbuilt.basename_eq i hi]
      exact show Config.isBasename Catalog.standardBasename = true by decide
    next => exact absurd hj List.not_mem_nil

end ScriptingBindings.Command
