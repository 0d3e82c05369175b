/-
  ScriptingBindings.Proofs.Command.Escapes
  ──────────────────────────────────
  **WHAT ESCAPES A RUN.**

  A run whose line is accepted ends with status 0 or 1 once the file for the
  records is open, unless something escapes it.  These are all the causes:

      an address      that is refused
      a directory     that cannot be one, or is too deep to be made
      a file          for the configuration, that is not a text
      a value         of such a file, of another kind than its setting or broken
      a width         from such a file, in which code cannot be laid out
      a text          that is told and holds what looks like a style tag

  Each step of the run fails only with what is told on the console, or for one
  of these causes.
-/
import ScriptingBindings.Proofs.Command.Configuration
import ScriptingBindings.Proofs.Command.Ending
import ScriptingBindings.Proofs.Command.Generation
import ScriptingBindings.Proofs.Command.Writing
import ScriptingBindings.Proofs.Console.Text
import ScriptingBindings.Proofs.Loading

namespace ScriptingBindings.Command

open FileSystem Step

/-! ## §1. Causes. -/

/-- The code of a job cannot be laid out in the width of its configuration. -/
def Job.IsTooWide [Machine] (j : Job) : Prop :=
  ∃ g width code, Generator.ofConfig j.config = .ok g ∧ j.config.indentSize = .int width ∧
    (Swift.generate g.options j.dictionary j.basename).value.2 = .ok code ∧
      ¬ Layout.CanFormat width code

/-- The texts that a run tells behind words of its own. -/
inductive Arguments.Tells [Machine] (a : Arguments) (around : Surroundings) : String → Prop where
  /-- What its steps failed with. -/
  | error {e : Failure} {s : Session} {message : String} {recorded : Bool}
      (hsteps : a.steps around = (.error e, s)) (hreport : e.report = .error message recorded) :
      Tells a around message
  /-- What writing failed with. -/
  | output {e : Failure} {s : Session} {message : String}
      (hsteps : a.steps around = (.error e, s)) (hreport : e.report = .output message) :
      Tells a around message
  /-- Why there is no code. -/
  | failed {c : Config} {basename name : String} {results : OrderedMap Generated}
      {e : GenerationError} (hresults : a.Generates around c basename results)
      (hentry : (name, .failed e) ∈ results) : Tells a around e.message
  /-- What is to be warned of in a dictionary. -/
  | warning {c : Config} {basename name w : String} {results : OrderedMap Generated}
      {result : Generated} (hresults : a.Generates around c basename results)
      (hentry : (name, result) ∈ results) (hw : w ∈ result.warnings) : Tells a around w
  /-- Where code was written to. -/
  | written {c : Config} {basename : String} {results : OrderedMap Generated} {directory : Path}
      {entry : String × Generated} (hresults : a.Generates around c basename results)
      (hdirectory : outputDirectory c = .ok directory) (hentry : entry ∈ results) :
      Tells a around (codePath directory entry.1).text

/-- A cause that a value can be: it cannot be used, or what shows it cannot be written. -/
def Escape.IsMisuse : Escape → Prop
  | .misuse _ => True
  | .path e => e.fault = .unencodable
  | .address | .text _ => False

/-- What can escape a run. -/
inductive Arguments.MayEscape [Machine] (a : Arguments) (around : Surroundings) :
    Escape → Prop where
  /-- The address is refused. -/
  | address (hfile : a.path.isEmpty = true) (hurl : Address.read? (a.value .url) = none) :
      MayEscape a around .address
  /-- The directory for the output holds a zero character, or has too many parts. -/
  | directory {c : Config} {basename : String} {directory : Path} {e : PathError}
      (hconfig : a.configure around.files = .ok (c, basename))
      (hdirectory : outputDirectory c = .ok directory)
      (hfault : e.fault = .noPath ∧ directory.HasZero ∨
        e.fault = .tooDeep ∧ Machine.chain < directory.parts.length) : MayEscape a around (.path e)
  /-- The configuration file gives no configuration whose settings are of the declared kinds and
without broken texts. -/
  | unsound {x : Escape} (hmisuse : x.IsMisuse) (hfile : (a.value .config).isEmpty = false)
      (hload : ∀ c, a.load around.files = .ok c → ¬ c.IsWhole) : MayEscape a around x
  /-- The configuration file gives a width that is too far from the usual one. -/
  | tooWide {m : Misuse} {c : Config} {basename : String} {d : Dictionary} {j : Job}
      (hfile : (a.value .config).isEmpty = false)
      (hconfig : a.configure around.files = .ok (c, basename))
      (hbuilt : IsBuilt (IsLogPlace a.sink?) around a (buildSettings c) d)
      (hjob : j ∈ jobs c basename d) (hwide : j.IsTooWide) : MayEscape a around (.misuse m)
  /-- A text that is told holds a bracket. -/
  | told {e : Console.TextError} {text : String} (htold : a.Tells around text)
      (hbracket : '[' ∈ text.toList) : MayEscape a around (.text e)

/-- A failure is told, unless it has a cause that may escape. -/
def Arguments.Explains [Machine] (a : Arguments) (around : Surroundings) (e : Failure) : Prop :=
  ∀ x, e.report = .escaped x → a.MayEscape around x

variable {a : Arguments} {around : Surroundings} {c : Config} {basename : String} {s s' : Session}

/-- A failure that is always told needs no cause. -/
theorem Arguments.Explains.of_told [Machine] {e : Failure} (h : ∀ x, e.report ≠ .escaped x) :
    a.Explains around e :=
  fun x hx => absurd hx (h x)

/-- A path that cannot be asked for is told. -/
theorem Report.ofPath_of_preventsAsking {e : PathError} (h : e.fault.preventsAsking = true) :
    Report.ofPath e = .output e.message := by
  rcases preventsAsking_iff.mp h with h | h
  · rw [Report.ofPath, h]
  · rw [Report.ofPath, h]

/-- What a path with a fault is reported as escapes only as that path. -/
theorem Report.ofPath_eq_escaped {e : PathError} {x : Escape} (h : Report.ofPath e = .escaped x) :
    x = .path e ∧ (e.fault = .noPath ∨ e.fault = .tooDeep ∨ e.fault = .unencodable) := by
  unfold Report.ofPath at h
  split at h
  next hfault => exact ⟨(Report.escaped.inj h).symm, .inl hfault⟩
  next hfault => exact ⟨(Report.escaped.inj h).symm, .inr (.inl hfault)⟩
  next hfault => exact ⟨(Report.escaped.inj h).symm, .inr (.inr hfault)⟩
  next => exact absurd h (by simp)
  next => exact absurd h (by simp)

/-! ## §2. Configuring. -/

namespace Arguments

/-- A value is misused only if a file holds it. -/
theorem MayEscape.of_load [Machine] {x : Escape} (hmisuse : x.IsMisuse)
    (h : ∀ c, a.load around.files = .ok c → ¬ c.IsWhole) : a.MayEscape around x := by
  cases hfile : (a.value .config).isEmpty with
  | false => exact .unsound hmisuse hfile h
  | true =>
    obtain ⟨c, hload, hwhole, -⟩ := a.exists_load around.files hfile
    exact absurd hwhole (h c hload)

theorem explains_misuse [Machine] {m : Misuse}
    (h : ∀ c, a.load around.files = .ok c → ¬ c.IsWhole) : a.Explains around (.misuse m) :=
  fun _ hx => Report.escaped.inj hx ▸ .of_load trivial h

/-- A value is misused only in a configuration that is not whole. -/
theorem explains_misuse_of_load [Machine] {loaded : Config} {m : Misuse}
    (hload : a.load around.files = .ok loaded) (h : ¬ loaded.IsWhole) :
    a.Explains around (.misuse m) :=
  explains_misuse fun _ hc => Except.ok.inj (hload.symm.trans hc) ▸ h

theorem MayEscape.of_configure [Machine] {x : Escape} (hmisuse : x.IsMisuse)
    (hconfig : a.configure around.files = .ok (c, basename)) (h : ¬ c.IsWhole) :
    a.MayEscape around x := by
  obtain ⟨loaded, hload, -, -, rfl, -⟩ := configure_eq_ok.mp hconfig
  refine .of_load hmisuse fun c hc hwhole => h ?_
  obtain rfl := Except.ok.inj (hload.symm.trans hc)
  exact hwhole.withBasename basename

theorem explains_misuse_of_configure [Machine] {m : Misuse}
    (hconfig : a.configure around.files = .ok (c, basename)) (h : ¬ c.IsWhole) :
    a.Explains around (.misuse m) :=
  fun _ hx => Report.escaped.inj hx ▸ .of_configure trivial hconfig h

/-- The input check tells what is wrong. -/
theorem failsOnly_checkInput [Machine] (a : Arguments) (around : Surroundings) :
    FailsOnly (a.Explains around) (a.checkInput around.files) := by
  unfold checkInput
  split
  next =>
    split
    next => exact .error (Explains.of_told fun x => by simp [Failure.report])
    next => exact .ok ()
  next =>
    refine FailsOnly.bind ?_ fun found => ?_
    · refine FailsOnly.mapError (P := fun pe => pe.fault.preventsAsking = true)
        (fun _ => preventsAsking_of_hasPath) fun pe hpe => Explains.of_told fun x => ?_
      rw [Failure.report, Report.ofPath_of_preventsAsking hpe]
      simp
    · split
      next => exact .error (Explains.of_told fun x => by simp [Failure.report])
      next =>
        split
        next => exact .error (Explains.of_told fun x => by simp [Failure.report])
        next => exact .ok ()

/-- There is a basename, or it is told that none is given. -/
theorem failsOnly_basename [Machine] {loaded : Config} (hload : a.load around.files = .ok loaded) :
    FailsOnly (a.Explains around) (a.basename loaded.basename) := by
  unfold basename
  split
  next => exact .ok _
  next hbroken =>
    refine .error (explains_misuse_of_load hload fun hwhole => ?_)
    exact absurd (hbroken ▸ hwhole.basename.isBroken_eq) (by simp [Json.isBroken])
  next =>
    split
    next => exact .error (Explains.of_told fun x => by simp [Failure.report])
    next => exact .ok _
  next hstr _ hnull =>
    refine .error (explains_misuse_of_load hload fun hwhole => ?_)
    exact hwhole.basename.elim hnull fun ⟨s, hs⟩ => hstr s hs

/-- **A run is configured, or tells why not**, unless a file holds values of other
kinds or broken ones. -/
theorem failsOnly_configure [Machine] (a : Arguments) (around : Surroundings) :
    FailsOnly (a.Explains around) (a.configure around.files) := by
  unfold configure
  dsimp only
  cases hload : Config.load around.files Language.swift.name (.obj a.settings)
      (.str (a.value .config)) with
  | error cause =>
    refine .error ?_
    cases cause with
    | error e => exact Explains.of_told fun x => by simp [Failure.ofConfig, Failure.report]
    | path pe =>
      have hprevents := Config.failsOnly_load _ _ _ _ _ hload pe rfl
      refine Explains.of_told fun x => ?_
      rw [Failure.ofConfig, Failure.report, Report.ofPath_of_preventsAsking hprevents]
      simp
    | misuse m => exact explains_misuse fun c hc => absurd (hload.symm.trans hc) (by simp)
  | ok loaded =>
    refine FailsOnly.bind (x := a.basename loaded.basename) (failsOnly_basename hload)
      fun basename => ?_
    split
    next => exact .error (Explains.of_told fun x => by simp [Failure.report])
    next =>
      refine FailsOnly.bind ?_ fun ws => ?_
      · cases hws : Config.warnings { loaded with basename := .str basename } with
        | ok ws => exact .ok ws
        | error m =>
          refine .error (explains_misuse_of_load hload fun hwhole => ?_)
          obtain ⟨ws, hok⟩ := (hwhole.withBasename basename).exists_warnings
          exact absurd (hok.symm.trans hws) (by simp)
      · split
        next => exact .ok _
        next => exact .error (Explains.of_told fun x => by simp [Failure.report])

end Arguments

/-! ## §3. Building. -/

/-- A document that cannot be had is told, unless its address is refused. -/
theorem explains_load [Machine] {e : LoadError}
    (h : e.IsDeclared ∨ Document.IsUndeclared a.path (a.value .url) e) :
    a.Explains around (.load e) := by
  rcases h with h | h
  · refine .of_told fun x => ?_
    cases e with
    | unusable e => exact h.elim
    | refusedAddress => exact h.elim
    | _ => simp [Failure.report, Report.ofLoad]
  · cases h with
    | unusable hfile hfault =>
      refine .of_told fun x => ?_
      rw [Failure.report, Report.ofLoad, Report.ofPath_of_preventsAsking hfault]
      simp
    | refusedAddress hfile hurl =>
      intro x hx
      obtain rfl : Escape.address = x := Report.escaped.inj hx
      exact .address hfile hurl

/-- The place of the standard definitions is a path in a whole configuration. -/
theorem exists_catalog (h : c.IsWhole) : ∃ place, (buildSettings c).catalog? = some place := by
  have hpath : ∃ path, standardPath? c.standardDefinitionsPath = some path := by
    rcases h.standardDefinitionsPath with hnull | ⟨s, hs⟩
    · rw [hnull]
      exact ⟨_, rfl⟩
    · rw [hs]
      unfold standardPath?
      split
      next => exact ⟨_, rfl⟩
      next => exact ⟨_, rfl⟩
  obtain ⟨path, hpath⟩ := hpath
  exact ⟨_, congrArg (Option.map _) hpath⟩

theorem onlyFails_build [Machine] (hconfig : a.configure around.files = .ok (c, basename)) :
    OnlyFails (a.Explains around) (build around a (buildSettings c)) := by
  refine OnlyFails.bind (.ofRun fun e he => ?_) fun s origin s' horigin => ?_
  · exact explains_load (.inl (Document.failsOnly_choose _ _ e he))
  rw [after_ofRun, Prod.mk.injEq, mapError_eq_ok] at horigin
  refine OnlyFails.bind (.ofRun ?_) fun _ _ _ _ => OnlyFails.files.bind fun _ fs _ _ => ?_
  · cases origin with
    | file path => exact .ok ()
    | address url => exact .ok ()
  refine OnlyFails.bind (.ofRun fun e he => ?_) fun _ document _ _ => ?_
  · exact explains_load (Document.failsOnly_fetch { around with files := fs } horigin.1 e he)
  refine OnlyFails.files.bind fun _ fs' _ _ => .ofRun fun e he => ?_
  rcases Build.failsOnly_ofDocument fs' (buildSettings c) document e he with
    ⟨rfl, hnone⟩ | ⟨pe, rfl, hfault⟩
  · refine Arguments.explains_misuse_of_configure hconfig fun hwhole => ?_
    obtain ⟨place, hplace⟩ := exists_catalog hwhole
    exact absurd (hplace.symm.trans hnone) (by simp)
  · refine .of_told fun x => ?_
    rw [Failure.ofBuild, Failure.report, Report.ofLoad, Report.ofPath_of_preventsAsking hfault]
    simp

/-! ## §4. Generating. -/

/-- How the generation of a job with a whole configuration ends. -/
theorem Job.exists_ending [Machine] {j : Job} {g : Generator} (hwhole : j.config.IsWhole)
    (hg : Generator.ofConfig j.config = .ok g) :
    ∃ width, j.config.indentSize = .int width ∧ g.options.IsWhole ∧
      g.Ending width j.dictionary j.basename (g.generate j.dictionary j.basename).value.2 := by
  obtain ⟨g', hg', hbundle, hindent, hoptions⟩ := hwhole.exists_generator
  obtain rfl := Except.ok.inj (hg.symm.trans hg')
  obtain ⟨bundle, hb⟩ := exists_literalValue
    ((hbundle ▸ hwhole.bundleIdentifier).imp_right Json.IsWholeText.isText)
  obtain ⟨width, hwidth⟩ := hwhole.indentSize
  exact ⟨width, hwidth, hoptions, Generator.ending_generate hb (hindent.trans hwidth)⟩

/-- There is no generator for a job, or a value is misused: one of another kind than its setting,
or the width in which the code cannot be laid out. -/
theorem Job.failsOnly_result [Machine] (j : Job) :
    FailsOnly (fun e => (∃ cause, e = .creation cause) ∨
      ∃ m, e = .misuse m ∧ (j.config.IsWhole → j.IsTooWide)) j.result := by
  intro e he
  unfold Job.result at he
  cases hg : makeGenerator {} j.config with
  | error cause =>
    rw [hg] at he
    obtain rfl := Except.error.inj he
    rw [makeGenerator_eq_mapError] at hg
    cases hmade : Generator.ofConfig j.config with
    | ok g => rw [hmade] at hg; exact absurd hg (by simp [Except.mapError])
    | error m => rw [hmade] at hg; exact .inl ⟨_, (Except.error.inj hg).symm⟩
  | ok g =>
    rw [hg, ok_bind] at he
    rw [makeGenerator_eq_ok] at hg
    cases hresult : (g.generate j.dictionary j.basename).value.2 with
    | ok result => rw [hresult] at he; exact absurd he (by simp [Except.mapError])
    | error m =>
      rw [hresult] at he
      refine .inr ⟨m, (Except.error.inj he).symm, fun hwhole => ?_⟩
      obtain ⟨width, hwidth, -, hending⟩ := Job.exists_ending hwhole hg
      rw [hresult] at hending
      cases hending with
      | unformatted hmerged hcode hformat => exact ⟨g, width, _, hg, hwidth, hcode, hformat⟩

/-- A file can hold the code of a job with a whole configuration. -/
theorem Job.isEncodable_result [Machine] {j : Job} {result : Generated}
    (hwhole : j.config.IsWhole) (h : j.result = .ok result) : result.IsEncodable := by
  obtain ⟨g, hg, h⟩ := bind_eq_ok.mp h
  obtain ⟨width, -, hoptions, hending⟩ := Job.exists_ending hwhole (makeGenerator_eq_ok.mp hg)
  rw [mapError_eq_ok.mp h] at hending
  exact hending.isEncodable hoptions

/-- The configuration of a job is that of the run, or the one that it has for inclusions. -/
theorem config_of_mem_jobs {d : Dictionary} {j : Job} (h : j ∈ jobs c basename d) :
    j.config = c ∨ j.config = c.forInclusion := by
  rcases List.mem_cons.mp h with rfl | h
  · exact .inl rfl
  · split at h
    next =>
      obtain ⟨i, -, rfl⟩ := List.mem_map.mp h
      exact .inr rfl
    next => exact absurd h List.not_mem_nil

/-- The jobs of a whole configuration have whole ones, and its width. -/
theorem isWhole_of_mem_jobs {d : Dictionary} {j : Job} (hwhole : c.IsWhole)
    (h : j ∈ jobs c basename d) : j.config.IsWhole ∧ j.config.indentSize = c.indentSize := by
  rcases config_of_mem_jobs h with h | h
  · rw [h]
    exact ⟨hwhole, rfl⟩
  · rw [h]
    exact ⟨hwhole.forInclusion, rfl⟩

/-- A job fails only for what is told, or for what a file sets. -/
theorem explains_job [Machine] (hconfig : a.configure around.files = .ok (c, basename))
    {d : Dictionary} (hbuilt : IsBuilt (IsLogPlace a.sink?) around a (buildSettings c) d) {j : Job}
    (hj : j ∈ jobs c basename d) : FailsOnly (a.Explains around) j.result := by
  intro e he
  rcases j.failsOnly_result e he with ⟨cause, rfl⟩ | ⟨m, rfl, hwide⟩
  · exact .of_told fun x => by simp [Failure.report]
  by_cases hwhole : c.IsWhole
  · have hjob := isWhole_of_mem_jobs hwhole hj
    have hwide := hwide hjob.1
    intro x hx
    obtain rfl : Escape.misuse m = x := Report.escaped.inj hx
    cases hfile : (a.value .config).isEmpty with
    | false => exact .tooWide hfile hconfig hbuilt hj hwide
    | true =>
      -- Without a file a level is four spaces wide, as the code is written.
      obtain ⟨loaded, hload, -, hfour⟩ := a.exists_load around.files hfile
      obtain ⟨loaded', hload', -, -, rfl, -⟩ := configure_eq_ok.mp hconfig
      obtain rfl := Except.ok.inj (hload.symm.trans hload')
      obtain ⟨g, width, code, -, hwidth, -, hformat⟩ := hwide
      have hsame : Json.int width = .int 4 := hwidth.symm.trans (hjob.2.trans hfour)
      exact absurd (.inl (Json.int.inj hsame)) hformat
  · exact Arguments.explains_misuse_of_configure hconfig hwhole

theorem onlyFails_generate [Machine] {P : Failure → Prop} {g : Generator} {d : Dictionary}
    (h : FailsOnly P ((g.generate d basename).value.2.mapError .misuse)) :
    OnlyFails P (generate g d basename) := by
  intro s s' e he
  rw [after_generate] at he
  exact h e (congrArg Prod.fst he)

theorem onlyFails_generateInclusions [Machine] {P : Failure → Prop} {g : Generator}
    {inclusions : List (Dictionary.Inclusion Dictionary)}
    (hclash : ∀ basename href, P (.clash basename href))
    (h : ∀ i ∈ inclusions,
      FailsOnly P ((g.generate i.content i.basename).value.2.mapError .misuse))
    (results : OrderedMap Generated) : OnlyFails P (generateInclusions g results inclusions) := by
  induction inclusions generalizing results with
  | nil => exact .pure results
  | cons i rest ih =>
    obtain ⟨hi, hrest⟩ := List.forall_mem_cons.mp h
    unfold generateInclusions
    split
    next => exact .throw (hclash _ _)
    next => exact (onlyFails_generate hi).bind fun _ _ _ _ => ih hrest _

/-- A generator that cannot be made is told of. -/
theorem onlyFails_makeGenerator [Machine] (files : FileSystem) (c : Config) :
    OnlyFails (a.Explains around) (ofExcept id (makeGenerator files c)) := by
  refine .ofExcept (FailsOnly.mapError (P := fun _ => True) (fun _ _ => trivial) fun _ _ => ?_)
  exact .of_told fun x => by simp [Failure.report]

/-- **A run generates code, or tells why not**, unless there is a cause that may escape. -/
theorem explains_generateAll [Machine] (hconfig : a.configure around.files = .ok (c, basename))
    {e : Failure} (h : after (generateAll around a c basename) { files := around.files, sink := a.sink? }
      = (.error e, s')) : a.Explains around e := by
  rcases after_bind_eq_error.mp h with h | ⟨g, s₁, hmade, h⟩
  · exact onlyFails_makeGenerator _ _ _ _ e h
  obtain ⟨hg, rfl⟩ := after_ofExcept_eq_ok.mp hmade
  rcases after_bind_eq_error.mp h with h | ⟨d, s₂, hd, h⟩
  · exact onlyFails_build hconfig _ _ e h
  have hbuilt := isBuilt_of_build hd
  have hresult {c' : Config} {g' : Generator} (hg' : makeGenerator around.files c' = .ok g')
      {d' : Dictionary} {b : String} (hj : ⟨b, c', d'⟩ ∈ jobs c basename d) :
      FailsOnly (a.Explains around) ((g'.generate d' b).value.2.mapError .misuse) := by
    have hjob := explains_job hconfig hbuilt hj
    rw [Job.result, ← makeGenerator_eq around.files, hg', ok_bind] at hjob
    exact hjob
  rcases after_bind_eq_error.mp h with h | ⟨result, s₃, -, h⟩
  · exact onlyFails_generate (hresult hg List.mem_cons_self) _ _ e h
  split at h
  next hrecursive =>
    rcases after_bind_eq_error.mp h with h | ⟨g', s₄, hmade', h⟩
    · exact onlyFails_makeGenerator _ _ _ _ e h
    obtain ⟨hg', rfl⟩ := after_ofExcept_eq_ok.mp hmade'
    refine onlyFails_generateInclusions (fun _ _ => .of_told fun x => by simp [Failure.report])
      (fun i hi => hresult hg' ?_) _ _ _ e h
    refine List.mem_cons_of_mem _ ?_
    rw [if_pos hrecursive]
    exact List.mem_map.mpr ⟨i, hi, rfl⟩
  next => exact absurd (congrArg Prod.fst h) (by simp)

/-- A file can hold the results of a run with a whole configuration. -/
theorem isEncodable_of_gives [Machine] {d : Dictionary} {results : OrderedMap Generated}
    (hwhole : c.IsWhole) (hgives : List.Forall₂ Job.Gives (jobs c basename d) results) :
    ∀ entry ∈ results, entry.2.IsEncodable := by
  intro entry he
  obtain ⟨j, hj, -, hresult⟩ := exists_right_of_forall₂ hgives.flip he
  exact Job.isEncodable_result (isWhole_of_mem_jobs hwhole hj).1 hresult

/-- A result that no file can hold is there for what a file sets. -/
theorem Arguments.Generates.mayEscape [Machine] {results : OrderedMap Generated}
    (h : a.Generates around c basename results) {entry : String × Generated}
    (hentry : entry ∈ results) (hcode : ¬ entry.2.IsEncodable) {x : Escape}
    (hmisuse : x.IsMisuse) : a.MayEscape around x := by
  obtain ⟨s, hgenerated⟩ := h.generated
  obtain ⟨-, d, -, hgives⟩ := generateAll_eq_ok hgenerated
  exact .of_configure hmisuse h.configured fun hwhole =>
    hcode (isEncodable_of_gives hwhole hgives entry hentry)

/-! ## §5. Delivering. -/

/-- What cannot be told about a failed result holds a bracket. -/
theorem bracket_of_failureLine {message : String} {e : Console.TextError}
    (h : Console.shown ("[red]✗ Code generation failed:[/red] " ++ message) = .error e) :
    '[' ∈ message.toList :=
  Console.isStyle_red.bracket_of_labelled (show Console.IsPlain [] by decide)
    (show Console.IsPlain "✗ Code generation failed:".toList by decide) (by decide +kernel)
    (by decide +kernel) h

theorem bracket_of_warningLine {warning : String} {e : Console.TextError}
    (h : Console.shown ("  [yellow]•[/yellow] " ++ warning) = .error e) :
    '[' ∈ warning.toList :=
  Console.isStyle_yellow.bracket_of_labelled (show Console.IsPlain "  ".toList by decide)
    (show Console.IsPlain "•".toList by decide) (by decide +kernel) (by decide +kernel) h

theorem bracket_of_writtenLine {path : Path} {e : Console.TextError}
    (h : Console.shown (writtenLine path) = .error e) : '[' ∈ path.text.toList := by
  by_contra htext
  obtain ⟨line, hline⟩ := Console.isStyle_green.exists_shown_enclosed Console.isStyle_cyan
    (show Console.IsPlain [] by decide) (show Console.IsPlain "✓".toList by decide)
    (show Console.IsPlain " Generated ".toList by decide) htext (by decide +kernel)
    (s := writtenLine path) (by
      unfold writtenLine
      rw [String.toList_append, String.toList_append]
      have hstart : "[green]✓[/green] Generated [cyan]".toList
          = Console.labelled [] "green".toList "✓".toList
            ++ (" Generated ".toList ++ '[' :: ("cyan".toList ++ [']'])) := by decide +kernel
      have hclosing : "[/cyan]".toList = '[' :: ('/' :: "cyan".toList ++ [']']) := by decide +kernel
      rw [hstart, hclosing]
      simp)
  exact absurd (hline.symm.trans h) (by simp)

/-- A name that a file can have adds no zero character to a path. -/
theorem hasZero_codePath_iff {directory : Path} (hname : Config.isBasename basename = true) :
    (codePath directory basename).HasZero ↔ directory.HasZero := by
  have hslash : '/' ∉ basename.toList :=
    Config.not_mem_of_isBasename hname (by decide) (by decide)
  have hzero : Char.ofNat 0 ∉ basename.toList :=
    Config.not_mem_of_isBasename hname (by decide) (by decide)
  have hend : Char.ofNat 0 ∉ (Language.fileExtension .swift).toList := by decide
  have hfile : Char.ofNat 0 ∉ (basename ++ Language.fileExtension .swift).toList := by
    rw [String.toList_append, List.mem_append]
    exact fun h => h.elim hzero hend
  rw [codePath_eq directory hslash, Path.HasZero, Path.HasZero, List.any_append, List.any_cons,
    List.any_nil, Bool.or_false, Bool.or_eq_true]
  exact or_iff_left fun h => hfile (by simpa using h)

/-- An item is written to its path, or to none; it fails at a fault that the path can have, or for
code that no file can hold. -/
theorem writeItem_cases (directory : Path) (fileExtension : String) (fs : FileSystem)
    (entry : String × Output.Item) :
    FailsOnly (fun e => (Output.filePath directory entry.1 fileExtension).Allows e ∨
          (entry.2 = .unencodable ∧ e.fault = .unencodable))
        (Output.writeItem directory fileExtension fs entry).value.2 ∧
      ∀ path, (Output.writeItem directory fileExtension fs entry).value.2 = .ok path →
        ∀ p ∈ path, p = Output.filePath directory entry.1 fileExtension := by
  obtain ⟨name, item⟩ := entry
  unfold Output.writeItem
  cases item with
  | none reason =>
    refine ⟨.ok _, fun path hpath p hp => ?_⟩
    obtain rfl : none = path := Except.ok.inj hpath
    exact absurd hp (by simp)
  | unencodable =>
    dsimp only
    cases hwrite : fs.write (Output.filePath directory name fileExtension) "" with
    | error e =>
      have hallowed := failsOnly_writeWith fs _ _ e hwrite
      exact ⟨.error (.inl hallowed), fun path hpath => absurd hpath (by simp)⟩
    | ok written => exact ⟨.error (.inr ⟨rfl, rfl⟩), fun path hpath => absurd hpath (by simp)⟩
  | code code =>
    dsimp only
    cases hwrite : fs.write (Output.filePath directory name fileExtension) code with
    | error e =>
      have hallowed := failsOnly_writeWith fs _ _ e hwrite
      exact ⟨.error (.inl hallowed), fun path hpath => absurd hpath (by simp)⟩
    | ok written =>
      refine ⟨.ok _, fun path hpath p hp => ?_⟩
      obtain rfl : some (Output.filePath directory name fileExtension) = path :=
        Except.ok.inj hpath
      exact (Option.some.inj hp).symm

/-- No file can hold a result whose item none can hold. -/
theorem not_isEncodable_of_item {result : Generated} (h : Output.item result = .unencodable) :
    ¬ result.IsEncodable := by
  cases result with
  | unencodable => exact id
  | code | failed => exact absurd h (by simp [Output.item])

/-- Writing into a directory without zero characters fails only with what is told, unless no file
can hold a result. -/
theorem onlyFails_writeEach [Machine] {directory : Path} (hzero : ¬ directory.HasZero)
    {results : OrderedMap Generated}
    (hnames : ∀ entry ∈ results, Config.isBasename entry.1 = true)
    (hcodes : ∀ entry ∈ results, ¬ entry.2.IsEncodable →
      ∀ x : Escape, x.IsMisuse → a.MayEscape around x) :
    OnlyFails (a.Explains around) (writeEach directory results) := by
  induction results with
  | nil => exact .pure []
  | cons entry rest ih =>
    obtain ⟨hname, hrest⟩ := List.forall_mem_cons.mp hnames
    obtain ⟨hcode, hothers⟩ := List.forall_mem_cons.mp hcodes
    refine OnlyFails.bind (.change fun fs e he x hx => ?_) fun _ _ _ _ =>
      (ih hrest hothers).bind fun _ _ _ _ => .pure _
    obtain ⟨rfl, hfault⟩ := Report.ofPath_eq_escaped hx
    rcases (writeItem_cases directory _ fs (entry.1, Output.item entry.2)).1 e he with
      hallowed | ⟨hitem, hunencodable⟩
    · rcases hfault with hfault | hfault | hfault
      · exact absurd ((hasZero_codePath_iff hname).mp (hallowed.zero hfault)) hzero
      · exact absurd hfault hallowed.shallow
      · exact absurd hfault hallowed.encodable
    · exact hcode (not_isEncodable_of_item hitem) _ hunencodable

/-- The paths of the files are those of the results. -/
theorem mem_of_writeEach {directory : Path} {results : OrderedMap Generated} {paths : List Path}
    (h : after (writeEach directory results) s = (.ok paths, s')) :
    ∀ p ∈ paths, ∃ entry ∈ results, p = codePath directory entry.1 := by
  induction results generalizing s s' paths with
  | nil =>
    obtain rfl : [] = paths := Except.ok.inj (congrArg Prod.fst h)
    exact fun p hp => absurd hp List.not_mem_nil
  | cons entry rest ih =>
    unfold writeEach at h
    obtain ⟨path, s₁, hfirst, h⟩ := after_bind_eq_ok.mp h
    obtain ⟨others, s₂, hothers, h⟩ := after_bind_eq_ok.mp h
    obtain rfl : path.toList ++ others = paths := Except.ok.inj (congrArg Prod.fst h)
    obtain ⟨fs, hwritten, -⟩ := change_eq_ok hfirst
    intro p hp
    rcases List.mem_append.mp hp with hp | hp
    · have hpath := (writeItem_cases directory _ s.files (entry.1, Output.item entry.2)).2 path
        (congrArg Prod.snd hwritten) p (Option.mem_toList.mp hp)
      exact ⟨entry, List.mem_cons_self, hpath⟩
    · obtain ⟨other, ho, hpath⟩ := ih hothers p hp
      exact ⟨other, List.mem_cons_of_mem _ ho, hpath⟩

/-- The directory to write into is a path in a whole configuration. -/
theorem failsOnly_outputDirectory [Machine]
    (hconfig : a.configure around.files = .ok (c, basename)) :
    FailsOnly (a.Explains around) (outputDirectory c) := by
  by_cases hwhole : c.IsWhole
  · obtain ⟨text, htext⟩ := hwhole.outputDirectory
    rw [outputDirectory, htext]
    exact .ok _
  · have hexplained (m : Misuse) : a.Explains around (.misuse m) :=
      Arguments.explains_misuse_of_configure hconfig hwhole
    unfold outputDirectory
    split
    next => exact .ok _
    next => exact .error (hexplained _)
    next => exact .error (hexplained _)

variable {results : OrderedMap Generated}

/-- **Results are written and told of, or it is told why not**, unless there is a cause that may
escape. -/
theorem onlyFails_writeAll [Machine] (hresults : a.Generates around c basename results)
    (hnames : ∀ entry ∈ results, Config.isBasename entry.1 = true) :
    OnlyFails (a.Explains around) (writeAll c results) := by
  have hconfig := hresults.configured
  refine OnlyFails.bind (.ofExcept (failsOnly_outputDirectory hconfig))
    fun s directory s' hfound => ?_
  obtain ⟨hdirectory, rfl⟩ := after_ofExcept_eq_ok.mp hfound
  refine OnlyFails.bind (.change fun fs e he => ?_) fun s₁ _ s₂ hmade => ?_
  · intro x hx
    cases hmake : fs.makeDirectories directory with
    | ok made => rw [hmake] at he; exact absurd he (by simp)
    | error pe =>
      rw [hmake] at he
      obtain rfl : pe = e := Except.error.inj he
      have hallowed := failsOnly_makeDirectories fs directory pe hmake
      obtain ⟨rfl, hfault⟩ := Report.ofPath_eq_escaped hx
      refine .directory hconfig hdirectory ?_
      rcases hfault with hfault | hfault | hfault
      · exact .inl ⟨hfault, hallowed.zero hfault⟩
      · exact .inr ⟨hfault, hallowed.deep hfault⟩
      · exact absurd hfault hallowed.encodable
  have hzero : ¬ directory.HasZero := by
    intro hzero
    obtain ⟨fs, hvalue, -⟩ := change_eq_ok hmade
    rw [makeDirectories_of_hasZero s₁.files hzero] at hvalue
    exact absurd (congrArg Prod.snd hvalue) (by simp)
  have hwritten := onlyFails_writeEach hzero hnames fun entry hentry hcode x =>
    hresults.mayEscape hentry hcode
  refine hwritten.bind fun _ paths _ hpaths => .printAll ?_
  intro line hline e he x hx
  obtain ⟨path, hpath, rfl⟩ := List.mem_map.mp hline
  obtain ⟨entry, hentry, rfl⟩ := mem_of_writeEach hpaths path hpath
  obtain rfl : Escape.text e = x := Report.escaped.inj hx
  exact .told (.written hresults hdirectory hentry) (bracket_of_writtenLine he)

/-- Code is printed, unless no console can show it. -/
theorem onlyFails_printCode [Machine] {results : OrderedMap Generated}
    (hcodes : ∀ entry ∈ results, ¬ entry.2.IsEncodable →
      ∀ x : Escape, x.IsMisuse → a.MayEscape around x) :
    OnlyFails (a.Explains around) (printCode results) := by
  induction results with
  | nil => exact .pure ()
  | cons entry rest ih =>
    obtain ⟨hcode, hothers⟩ := List.forall_mem_cons.mp hcodes
    obtain ⟨basename, result⟩ := entry
    cases result with
    | unencodable shown warnings metadata =>
      exact .throw fun x hx => hcode id x (Report.escaped.inj hx ▸ trivial)
    | code text warnings metadata => exact (OnlyFails.printRaw _).bind fun _ _ _ _ => ih hothers
    | failed e => exact (OnlyFails.printRaw _).bind fun _ _ _ _ => ih hothers

/-- **Results are delivered, or it is told why not**, unless there is a cause that may escape. -/
theorem onlyFails_deliver [Machine] (hresults : a.Generates around c basename results)
    (hnames : ∀ entry ∈ results, Config.isBasename entry.1 = true) :
    OnlyFails (a.Explains around) (deliver a c basename results) := by
  have hlast : OnlyFails (a.Explains around) (if a.has .verbose = true then do
        printMetadata results basename
        return 0
      else return 0 : Step Nat) := by
    intro s s' e he
    obtain ⟨printed, hend⟩ := after_lastStep (a.has .verbose) results basename s
    exact absurd (congrArg Prod.fst (hend.symm.trans he)) (by simp)
  unfold deliver
  dsimp only
  split
  next =>
    refine OnlyFails.bind (.printAll fun line hline e he x hx => ?_) fun _ _ _ _ => .pure 1
    obtain ⟨⟨name, result⟩, hentry, hresult⟩ := List.mem_filterMap.mp hline
    obtain rfl : Escape.text e = x := Report.escaped.inj hx
    cases result with
    | code | unencodable => exact absurd hresult (by simp [failureLine?])
    | failed cause =>
      obtain rfl := Option.some.inj hresult
      exact .told (.failed hresults hentry) (bracket_of_failureLine he)
  next =>
    refine OnlyFails.bind (.printAll fun line hline e he x hx => ?_) fun _ _ _ _ => ?_
    · obtain ⟨⟨name, result⟩, hentry, hresult⟩ := List.mem_flatMap.mp hline
      obtain rfl : Escape.text e = x := Report.escaped.inj hx
      obtain ⟨w, hw, rfl⟩ := List.mem_map.mp hresult
      exact .told (.warning hresults hentry hw) (bracket_of_warningLine he)
    · split
      next =>
        have hprinted := onlyFails_printCode fun entry hentry hcode x =>
          hresults.mayEscape hentry hcode
        exact hprinted.bind fun _ _ _ _ => hlast
      next => exact (onlyFails_writeAll hresults hnames).bind fun _ _ _ _ => hlast

/-! ## §6. The whole run. -/

/-- **The steps of a run fail with what is told**, unless there is a cause that may escape. -/
theorem explains_steps [Machine] {e : Failure} (h : a.steps around = (.error e, s')) :
    a.Explains around e := by
  unfold Arguments.steps perform at h
  split at h
  next => exact OnlyFails.bind (.printRaw _) (fun _ _ _ _ => .pure 0) _ s' e h
  next =>
    rcases after_bind_eq_error.mp h with h | ⟨_, s₁, hinput, h⟩
    · exact OnlyFails.ofExcept (a.failsOnly_checkInput around) _ s' e h
    obtain ⟨-, rfl⟩ := after_ofExcept_eq_ok.mp hinput
    rcases after_bind_eq_error.mp h with h | ⟨⟨c, basename⟩, s₂, hfirst, h⟩
    · exact OnlyFails.ofExcept (a.failsOnly_configure around) _ s' e h
    obtain ⟨hconfig, rfl⟩ := after_ofExcept_eq_ok.mp hfirst
    rcases after_bind_eq_error.mp h with h | ⟨results, s₃, hgenerated, h⟩
    · exact explains_generateAll hconfig h
    obtain ⟨-, d, hbuilt, hgives⟩ := generateAll_eq_ok hgenerated
    obtain ⟨_, -, -, hshape, -⟩ := configure_eq_ok.mp hconfig
    have hnames := isBasename_of_gives hshape hbuilt hgives
    exact onlyFails_deliver ⟨hconfig, s₃, hgenerated⟩ hnames s₃ s' e h

/-- The status of a run is 0 or 1. -/
theorem onlyReturns_perform [Machine] (around : Surroundings) (a : Arguments) :
    OnlyReturns (· ≤ 1) (perform around a) := by
  have hone : OnlyReturns (· ≤ 1) (Pure.pure 1 : Step Nat) := .pure (Nat.le_refl 1)
  have hzero : OnlyReturns (· ≤ 1) (Pure.pure 0 : Step Nat) := .pure (Nat.zero_le 1)
  have hlast (results : OrderedMap Generated) (basename : String) :
      OnlyReturns (· ≤ 1) (if a.has .verbose = true then do
        printMetadata results basename
        return 0
      else return 0 : Step Nat) := by
    split
    next => exact .bind fun _ => hzero
    next => exact hzero
  have hdeliver (c : Config) (basename : String) (results : OrderedMap Generated) :
      OnlyReturns (· ≤ 1) (deliver a c basename results) := by
    unfold deliver
    dsimp only
    split
    next => exact .bind fun _ => hone
    next =>
      refine .bind fun _ => ?_
      split
      next => exact .bind fun _ => hlast _ _
      next => exact .bind fun _ => hlast _ _
  unfold perform
  split
  next => exact .bind fun _ => hzero
  next =>
    refine .bind fun _ => .bind fun configured => ?_
    exact .bind fun results => hdeliver _ _ results

/-- What cannot be told about an error holds a bracket. -/
theorem bracket_of_errorLine {message : String} {e : Console.TextError}
    (h : Console.shown ("[red]✗ Error:[/red] " ++ message) = .error e) : '[' ∈ message.toList :=
  Console.isStyle_red.bracket_of_labelled (show Console.IsPlain [] by decide)
    (show Console.IsPlain "✗ Error:".toList by decide) (by decide +kernel) (by decide +kernel) h

theorem bracket_of_outputLine {message : String} {e : Console.TextError}
    (h : Console.shown ("[red]✗ Failed to write output:[/red] " ++ message) = .error e) :
    '[' ∈ message.toList :=
  Console.isStyle_red.bracket_of_labelled (show Console.IsPlain [] by decide)
    (show Console.IsPlain "✗ Failed to write output:".toList by decide) (by decide +kernel)
    (by decide +kernel) h

/-- Telling ends with status 1, or with a line that cannot be shown. -/
theorem tellIn_cases (s : Session) (line : String) :
    (tellIn s line).1 = .ok 1 ∨
      ∃ e, Console.shown line = .error e ∧ (tellIn s line).1 = .error (.text e) := by
  unfold tellIn
  cases hline : Console.shown line with
  | ok text => exact .inl rfl
  | error e => exact .inr ⟨e, rfl, rfl⟩

/-- A failure of the steps is told with status 1, or its cause may escape. -/
theorem tell_cases [Machine] {e : Failure} (h : a.steps around = (.error e, s')) :
    (tell e s').value.1 = .ok 1 ∨
      ∃ x, (tell e s').value.1 = .error x ∧ a.MayEscape around x := by
  unfold tell
  cases hreport : e.report with
  | escaped x => exact .inr ⟨x, rfl, explains_steps h x hreport⟩
  | error message recorded =>
    refine (tellIn_cases _ _).imp_right fun ⟨te, hline, hended⟩ => ⟨.text te, hended, ?_⟩
    exact .told (.error h hreport) (bracket_of_errorLine hline)
  | output message =>
    refine (tellIn_cases _ _).imp_right fun ⟨te, hline, hended⟩ => ⟨.text te, hended, ?_⟩
    exact .told (.output h hreport) (bracket_of_outputLine hline)

/-- A run ends with status 0 or 1, or with a cause that may escape. -/
def Arguments.EndsOrEscapes [Machine] (a : Arguments) (around : Surroundings) (ending : Ending) :
    Prop :=
  (∃ status ≤ 1, ending = .finished status) ∨ ∃ e, ending = .escaped e ∧ a.MayEscape around e

section Usual

attribute [local instance] Machine.usual

/-- A line for a file whose name looks like the end of a style. -/
def bracketLine : List String := ["[/a].sdef", "--log-file", "run.log"]

/-- The arguments of that line. -/
def bracketArguments : Arguments where
  file := some "[/a].sdef"
  values := [(.logFile, "run.log")]

/-- A line for an address with a bracket that nothing closes. -/
def openAddressLine : List String := ["--url", "http://[", "-b", "Test"]

/-- The arguments of that line. -/
def openAddressArguments : Arguments where
  values := [(.basename, "Test"), (.url, "http://[")]

end Usual

end ScriptingBindings.Command
