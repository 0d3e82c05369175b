/-
  ScriptingBindings.Proofs.Command.EntryPoints
  ──────────────────────────────────
  **THREE WAYS TO THE CODE OF A DOCUMENT.**

  The code of a document is had from a run, from a request for its file, or
  from a request for its content.  With the same basename and the same options
  all three have the same answer: the code, or the reason why there is none.

      run       options from switches and a file, inclusions kept if asked for
      ofFile    the options in one map, no inclusions
      quick     the same, for the content of the file

  What the ways differ in does not reach the code: the basename among the
  settings, the inclusions, and the records that a run leaves while it reads.
  The third way alone has parameters of its own beside the options, so no
  option may have the name of one of these.
-/
import ScriptingBindings.Proofs.Command.AllOrNothing
import ScriptingBindings.Proofs.Config.Options

namespace ScriptingBindings.Command

open Dictionary FileSystem Step

variable {a : Arguments} {around : Surroundings} {c : Config} {basename : String}
  {content : Content} {options : OrderedMap Json} {s s' : Session}

/-! ## §1. Reading while records are left. -/

/-- The file for the records is there. -/
def Session.HasLog (s : Session) : Prop :=
  ∀ k, s.sink = some k → ∃ content, s.files.entry? k.path.place = some (.file content)

/-- Where no place was changed but that of the file for the records, only its content was. -/
theorem Session.Keeps.sameButContents (h : s.Keeps s') (hlog : s.HasLog) :
    SameButContents (IsLogPlace s.sink) s.files s'.files := by
  refine ⟨(ChangesOnly.directories h).terms.symm, fun l => ?_⟩
  by_cases hl : IsLogPlace s.sink l
  · obtain ⟨k, hk, rfl⟩ := id hl
    obtain ⟨content, hcontent⟩ := hlog k hk
    have hholds : s.Holds k.path.place content [] := by
      rw [Session.Holds, linesAt_nil, Content.append_empty]
      exact hcontent
    obtain ⟨more, hmore⟩ := ChangesOnly.contents h _ content [] not_false hholds
    exact .inr ⟨hl, content, _, hcontent, hmore⟩
  · exact .inl (Session.Keeps.files h l hl).symm

theorem hasLog_of_openSink {before opened : FileSystem} (h : a.openSink before = .ok opened) :
    Session.HasLog { files := opened, sink := a.sink? } := by
  intro k hk
  unfold Arguments.openSink at h
  rw [show a.sink? = some k from hk] at h
  exact ⟨_, (isWritten_of_writeWith h).entry⟩

/-- A document is that of the content that its file held before records were left elsewhere. -/
theorem outcome_fetch (around : Surroundings) {p : Path} (h : s.Keeps s') (hlog : s.HasLog)
    (hread : s.files.read p = .ok content) (happart : ¬ IsLogPlace s.sink p.place) :
    (Document.Origin.fetch { around with files := s'.files } (.file p)).outcome
      = (Document.ofContent content p.text).outcome := by
  refine Document.outcome_ofFile_of_read ?_
  show s'.files.read p = .ok content
  rw [← (Session.Keeps.sameButContents h hlog).read_eq happart]
  exact hread

/-- A document has the same dictionary after records were left outside the standard definitions. -/
theorem ofRoot_of_keeps {settings : BuildSettings} (h : s.Keeps s') (hlog : s.HasLog)
    (happart : ∀ p, standardPath? settings.standard = some p → ¬ IsLogPlace s.sink p.place)
    (root : Option Markup.Element) :
    Build.ofRoot s'.files settings root = Build.ofRoot s.files settings root :=
  (Build.ofRoot_congr (Session.Keeps.sameButContents h hlog) happart root).symm

/-- **A run builds the dictionary of the content that its file held at first**, if the records go to
another file. -/
theorem outcome_build {settings : BuildSettings} (hpath : a.path.isEmpty = false)
    (hurl : (a.value .url).isEmpty = true) (hlog : s.HasLog)
    (hread : s.files.read (.ofString a.path) = .ok content)
    (happart : ∀ p, p = Path.ofString a.path ∨ standardPath? settings.standard = some p →
      ¬ IsLogPlace s.sink p.place) :
    (after (build around a settings) s).1
      = (Build.ofContent s.files settings (Path.ofString a.path).text content).mapError
        Failure.ofBuild := by
  have hchoose : (Document.Origin.choose a.path (a.value .url)).outcome
      = .ok (.file (.ofString a.path)) := by
    rw [Document.Origin.choose, hpath, hurl]
    rfl
  have hannounce : (Document.Origin.announce (.file (.ofString a.path))).outcome = .ok () := rfl
  unfold build
  rw [after_bind_ok (after_ofRun_ok hchoose), after_bind_ok (after_ofRun_ok hannounce),
    after_bind_ok after_files]
  have hfirst := (s.keeps_keep (Document.Origin.choose a.path (a.value .url)).logged.log).trans
    (Session.keeps_keep _ (Document.Origin.announce (.file (.ofString a.path))).logged.log)
  generalize Session.keep _ _ = s₁ at hfirst ⊢
  have hfetch := outcome_fetch around hfirst hlog hread (happart _ (.inl rfl))
  rw [Document.outcome_ofContent] at hfetch
  unfold Build.ofContent
  cases hroot : Markup.read? content with
  | none =>
    rw [hroot] at hfetch
    rw [after_bind, after_ofRun, hfetch]
    rfl
  | some root =>
    rw [hroot] at hfetch
    rw [after_bind_ok (after_ofRun_ok hfetch), after_bind_ok after_files, after_ofRun,
      Build.outcome_ofDocument]
    -- Fetching left more records.
    rw [ofRoot_of_keeps (hfirst.trans (s₁.keeps_keep _)) hlog fun p hp => happart p (.inr hp)]

/-! ## §2. The main result of a run. -/

/-- The dictionary of a run and the result for it. -/
def generateMain [Machine] (around : Surroundings) (a : Arguments) (c : Config)
    (basename : String) : Step (Dictionary × Generated) := do
  let g ← ofExcept id (makeGenerator around.files c)
  let d ← build around a (buildSettings c)
  let result ← generate g d basename
  return (d, result)

/-- The results of a run that has its main one. -/
def generateRest [Machine] (around : Surroundings) (c : Config) (basename : String)
    (main : Dictionary × Generated) : Step (OrderedMap Generated) :=
  if c.generateRecursively.isTruthy then do
    let g ← ofExcept id (makeGenerator around.files c.forInclusion)
    generateInclusions g [(basename, main.2)] main.1.inclusions
  else return [(basename, main.2)]

/-- **The main result of a run comes first, whatever else is asked for.** -/
theorem after_generateAll [Machine] :
    after (generateAll around a c basename) s
      = after (generateMain around a c basename >>= generateRest around c basename) s := by
  unfold generateAll generateMain
  rw [after_bind_assoc]
  refine after_bind_congr fun g s₁ => ?_
  rw [after_bind_assoc]
  refine after_bind_congr fun d s₂ => ?_
  rw [after_bind_assoc]
  refine after_bind_congr fun result s₃ => ?_
  rw [after_bind_ok (after_pure (d, result))]
  rfl

/-- What becomes of the main result of a run with some configuration. -/
def Arguments.main [Machine] (a : Arguments) (around : Surroundings) (c : Config)
    (basename : String) : Except Failure (Dictionary × Generated) :=
  (after (generateMain around a c basename) { files := around.files, sink := a.sink? }).1

/-! ## §3. One answer. -/

/-- A run accepts its arguments and the file that they name.  Its options are
the settings of its configuration file with those of the arguments over them, but for the basename.
The surroundings are those with the file for the records open, and this is none that is read. -/
structure Arguments.Accepts [Machine] (a : Arguments) (around : Surroundings) (content : Content)
    (c : Config) (basename : String) (options : OrderedMap Json) : Prop where
  opened : ∃ before, a.openSink before = .ok around.files
  listing : a.has .listLanguages = false
  path : a.path.isEmpty = false
  url : (a.value .url).isEmpty = true
  checked : a.checkInput around.files = .ok ()
  read : around.files.read (.ofString a.path) = .ok content
  configured : a.configure around.files = .ok (c, basename)
  collected : ∃ entries, Config.fileEntries around.files (.str (a.value .config)) = .ok entries ∧
    options = Config.options entries a.settings
  /-- The records go to neither of the files that the dictionary is made from. -/
  apart : ∀ p, p = Path.ofString a.path ∨ standardPath? c.standardDefinitionsPath = some p →
    ¬ IsLogPlace a.sink? p.place

/-- What becomes of a request for the code of a file with some options. -/
def fileResult [Machine] (files : FileSystem) (options : OrderedMap Json) (path basename : String) :
    Except Request.Refusal Generated :=
  (Request.ofFile { config := .value (.obj options) } files (Request.quickSettings options) path
    basename).outcome

/-- What becomes of a request for the code of a content with some options. -/
def contentResult [Machine] (files : FileSystem) (options : OrderedMap Json) (content : Content)
    (basename : String) : Except Request.Refusal String :=
  (Request.quick files content basename options).outcome

namespace Arguments.Accepts

/-- A run that accepts its arguments has a basename. -/
theorem basename_ne [Machine] (h : a.Accepts around content c basename options) :
    basename.isEmpty = false := by
  obtain ⟨_, -, -, hshape, -⟩ := configure_eq_ok.mp h.configured
  cases hempty : basename.isEmpty with
  | false => rfl
  | true =>
    rw [String.isEmpty_iff.mp hempty] at hshape
    exact absurd hshape (by decide)

/-- The options make the configuration of the run, but for its basename. -/
theorem loadConfig_options [Machine] (h : a.Accepts around content c basename options) :
    Request.loadConfig around.files .swift (.value (.obj options))
      = .ok { c with basename := .null } := by
  obtain ⟨loaded, hload, -, -, rfl, -⟩ := configure_eq_ok.mp h.configured
  obtain ⟨entries, hentries, rfl⟩ := h.collected
  have hoptions := Config.load_options hentries hload
  exact hoptions

/-- A run builds its dictionary as the options say, and keeps the inclusions if it is to. -/
theorem buildSettings_eq [Machine] (h : a.Accepts around content c basename options) :
    buildSettings c = { Request.quickSettings options with
      trackInclusions := c.generateRecursively.isTruthy } := by
  obtain ⟨loaded, hload, -, -, rfl, -⟩ := configure_eq_ok.mp h.configured
  obtain ⟨entries, hentries, rfl⟩ := h.collected
  rw [Config.quickSettings_options hentries hload]
  rfl

/-- **The main result of a run is the code for the content of its file.** -/
theorem main_eq [Machine] (h : a.Accepts around content c basename options) :
    a.main around c basename
      = (Generator.ofConfig c).mapError (fun _ => .creation Request.unusable) >>= fun g =>
        (Build.ofContent around.files (buildSettings c) (Path.ofString a.path).text
          content).mapError Failure.ofBuild >>= fun d =>
        ((g.generate d basename).value.2.mapError Failure.misuse).map fun result => (d, result) := by
  obtain ⟨before, hopened⟩ := h.opened
  unfold Arguments.main generateMain
  rw [after_bind, after_ofExcept, makeGenerator_eq_mapError]
  cases Generator.ofConfig c with
  | error m => rfl
  | ok g =>
    -- With a generator it is the dictionary and then the code that may be missing.
    rw [← outcome_build (s := { files := around.files, sink := a.sink? }) h.path h.url
      (hasLog_of_openSink hopened) h.read h.apart]
    show (after (build around a (buildSettings c) >>= fun d =>
      generate g d basename >>= fun result => pure (d, result)) _).1 = _
    rw [after_bind]
    cases after (build around a (buildSettings c)) { files := around.files, sink := a.sink? } with
    | mk outcome s₁ =>
      cases outcome with
      | error e => rfl
      | ok d =>
        show (after (generate g d basename >>= _) s₁).1
          = ((g.generate d basename).value.2.mapError Failure.misuse).map _
        rw [after_bind, after_generate]
        cases (g.generate d basename).value.2 with
        | error m => rfl
        | ok result => rfl

/-- The main result of a run is made by a generator, from the dictionary of the content. -/
theorem main_eq_ok [Machine] (h : a.Accepts around content c basename options) {d : Dictionary}
    {result : Generated} (hmain : a.main around c basename = .ok (d, result)) :
    ∃ g, Generator.ofConfig c = .ok g ∧
      Build.ofContent around.files (buildSettings c) (Path.ofString a.path).text content = .ok d ∧
        (g.generate d basename).value.2 = .ok result := by
  rw [h.main_eq] at hmain
  obtain ⟨g, hg, hmain⟩ := bind_eq_ok.mp hmain
  obtain ⟨d', hd, hmain⟩ := bind_eq_ok.mp hmain
  obtain ⟨result', hresult, hpair⟩ := map_eq_ok.mp hmain
  obtain ⟨rfl, rfl⟩ := Prod.mk.inj hpair
  rw [mapError_eq_ok] at hg hd hresult
  exact ⟨g, hg, hd, hresult⟩

/-- A request for the file makes the same generator, for a dictionary without inclusions. -/
theorem file_eq [Machine] (h : a.Accepts around content c basename options) :
    fileResult around.files options a.path basename
      = (Build.ofContent around.files (Request.quickSettings options) (Path.ofString a.path).text
          content).mapError .build >>= fun d =>
        (Generator.ofConfig c).mapError (fun _ => .creation Request.unusable) >>= fun g =>
        (g.generate d basename).value.2.mapError .misuse := by
  have hcode (d : Dictionary) := Request.outcome_ofDictionary (Request.isSource_obj options)
    h.loadConfig_options d basename
  unfold fileResult
  rw [Request.outcome_ofFile h.path h.basename_ne h.read]
  simp only [hcode]
  rfl

/-- **A run has the answer of its file.** -/
theorem answer_main [Machine] (h : a.Accepts around content c basename options) :
    (a.main around c basename).toOption.map (fun main => main.2.answer)
      = (fileResult around.files options a.path basename).toOption.map Generated.answer := by
  rw [h.main_eq, h.file_eq, h.buildSettings_eq]
  have halike := Build.alike_ofContent around.files (Request.quickSettings options)
    c.generateRecursively.isTruthy (Path.ofString a.path).text content
  cases Generator.ofConfig c with
  | error m =>
    -- The run misses the generator first and the request after the dictionary: neither answers.
    cases Build.ofContent around.files (Request.quickSettings options) (Path.ofString a.path).text
      content with
    | error e => rfl
    | ok d => rfl
  | ok g =>
    rcases halike.ok_or_error with ⟨d, d', hd, hd', hsame⟩ | ⟨e, he, he'⟩
    · rw [hd, hd']
      show (((g.generate d' basename).value.2.mapError Failure.misuse).map _).toOption.map _
        = ((g.generate d basename).value.2.mapError Request.Refusal.misuse).toOption.map _
      rcases (Generator.alike_generate_of_sameSuites hsame g basename).ok_or_error with
        ⟨result, result', hr, hr', hcode⟩ | ⟨m, hm, hm'⟩
      · rw [hr, hr']
        exact congrArg some hcode.answer_eq.symm
      · rw [hm, hm']
        rfl
    · rw [he, he']
      rfl

/-- If there is no generator for the file, there is none for the run, either. -/
theorem main_creation [Machine] (h : a.Accepts around content c basename options)
    {e : CreationError} (hfile : fileResult around.files options a.path basename = .error (.creation e)) :
    a.main around c basename = .error (.creation e) := by
  cases hg : Generator.ofConfig c with
  | ok g =>
    have hother : FailsOnly (fun e => ∀ cause, e ≠ .creation cause)
        (fileResult around.files options a.path basename) := by
      rw [h.file_eq, hg]
      exact .bind (.mapError_of_forall (by simp) _) fun d => .mapError_of_forall (by simp) _
    exact absurd rfl (hother _ hfile e)
  | error m =>
    have honly : FailsOnly (fun e => (∃ be, e = .build be) ∨ e = .creation Request.unusable)
        (fileResult around.files options a.path basename) := by
      rw [h.file_eq, hg]
      exact .bind (.mapError_of_forall (fun be => .inl ⟨be, rfl⟩) _) fun d => .error (.inr rfl)
    rcases honly _ hfile with ⟨be, hbe⟩ | hcause
    · exact absurd hbe (by simp)
    · obtain rfl := Request.Refusal.creation.inj hcause
      rw [h.main_eq, hg]
      rfl

/-- **A request for the content has the answer of its file.** -/
theorem answer_content [Machine] (h : a.Accepts around content c basename options)
    (hnames : Request.AreSettings options) :
    Request.answer? (contentResult around.files options content basename)
      = (fileResult around.files options a.path basename).toOption.map Generated.answer :=
  Request.answer?_quick h.path h.basename_ne h.read hnames

/-- A request for the content is refused as one for its file, which tells where it is if it is
malformed. -/
theorem content_refusal [Machine] (h : a.Accepts around content c basename options)
    (hnames : Request.AreSettings options) {e : Request.Refusal}
    (hfile : fileResult around.files options a.path basename = .error e) :
    contentResult around.files options content basename = .error e ∨
      e = .build (.load (.malformed (Path.ofString a.path).text)) ∧
        contentResult around.files options content basename
          = .error (.build (.load (.malformed Request.unnamedSource))) := by
  unfold fileResult at hfile
  unfold contentResult
  rcases Request.quick_cases h.path h.basename_ne h.read hnames with
    ⟨hmalformed, hcontent⟩ | hcontent
  · exact .inr ⟨Except.error.inj (hfile.symm.trans hmalformed), hcontent⟩
  · refine .inl ?_
    rw [hcontent]
    exact congrArg (· >>= Request.textOf) hfile

/-! ## §4. The results of a run. -/

/-- The steps of a run that accepts its arguments are to generate and to deliver. -/
theorem steps_eq [Machine] (h : a.Accepts around content c basename options) :
    a.steps around = after (generateAll around a c basename >>= deliver a c basename)
      { files := around.files, sink := a.sink? } := by
  unfold Arguments.steps perform
  rw [if_neg (by rw [h.listing]; simp),
    after_bind_ok (after_ofExcept_eq_ok.mpr ⟨h.checked, rfl⟩),
    after_bind_ok (after_ofExcept_eq_ok.mpr ⟨h.configured, rfl⟩)]

/-- A run without a main result fails for the same reason. -/
theorem steps_error [Machine] (h : a.Accepts around content c basename options) {e : Failure}
    (hmain : a.main around c basename = .error e) : (a.steps around).1 = .error e := by
  obtain ⟨s₁, hfirst⟩ : ∃ s₁, after (generateMain around a c basename)
      { files := around.files, sink := a.sink? } = (.error e, s₁) := ⟨_, Prod.ext hmain rfl⟩
  have hall : after (generateAll around a c basename)
      { files := around.files, sink := a.sink? } = (.error e, s₁) := by
    rw [after_generateAll]
    exact after_bind_error hfirst
  rw [h.steps_eq, after_bind_error hall]

/-- A run that ends with a status has results, which are in their files if it wrote them. -/
theorem exists_results [Machine] (h : a.Accepts around content c basename options) {status : Nat}
    (hsteps : a.steps around = (.ok status, s')) :
    ∃ results, a.Generates around c basename results ∧
      (status = 0 → a.has .stdout = false → ∃ directory, outputDirectory c = .ok directory ∧
        IsOutput a.sink? directory results around.files s'.files) := by
  obtain ⟨before, hopened⟩ := h.opened
  rw [h.steps_eq] at hsteps
  obtain ⟨results, s₁, hall, hdelivered⟩ := after_bind_eq_ok.mp hsteps
  refine ⟨results, ⟨h.configured, s₁, hall⟩, fun hstatus hstdout => ?_⟩
  have hquiet := (isQuiet_generateAll around a c basename).keeps hall
  obtain ⟨hkeys, d, hbuilt, hgives⟩ := generateAll_eq_ok hall
  rcases deliver_eq_ok (hquiet.isOpen (openSink_eq_ok hopened).2) hdelivered hkeys
      (not_mem_basename h.configured hbuilt hgives) with
    ⟨-, hone | hprinted⟩ | ⟨-, -, -, directory, hdirectory, houtput⟩
  · exact absurd (hstatus.symm.trans hone) (by simp)
  · exact absurd (hstdout.symm.trans hprinted) (by simp)
  · rw [hquiet.sink] at houtput
    exact ⟨directory, hdirectory, houtput.of_agreeBut (Session.Keeps.files hquiet)⟩

/-- A run with a main result has all results, unless it fails at an included document. -/
theorem results_or_error [Machine] (h : a.Accepts around content c basename options)
    {main : Dictionary × Generated} (hmain : a.main around c basename = .ok main) :
    (∃ results, a.Generates around c basename results) ∨
      c.generateRecursively.isTruthy = true ∧ ∃ e, (a.steps around).1 = .error e := by
  obtain ⟨s₁, hfirst⟩ : ∃ s₁, after (generateMain around a c basename)
      { files := around.files, sink := a.sink? } = (.ok main, s₁) := ⟨_, Prod.ext hmain rfl⟩
  have hall : after (generateAll around a c basename) { files := around.files, sink := a.sink? }
      = after (generateRest around c basename main) s₁ := by
    rw [after_generateAll, after_bind_ok hfirst]
  cases hrest : after (generateRest around c basename main) s₁ with
  | mk outcome s₂ =>
    rw [hrest] at hall
    cases outcome with
    | ok results => exact .inl ⟨results, h.configured, s₂, hall⟩
    | error e =>
      refine .inr ⟨?_, e, by rw [h.steps_eq, after_bind_error hall]⟩
      cases hrecursive : c.generateRecursively.isTruthy with
      | true => rfl
      | false =>
        rw [generateRest, hrecursive, if_neg Bool.false_ne_true] at hrest
        exact absurd (congrArg Prod.fst hrest) (by simp)

/-- The results of a run: the main one, and behind it those for the inclusions of a dictionary
that was built to keep them. -/
theorem results_cases [Machine] (h : a.Accepts around content c basename options)
    {results : OrderedMap Generated} (hresults : a.Generates around c basename results) :
    ∃ d result rest, a.main around c basename = .ok (d, result) ∧
      results = (basename, result) :: rest ∧
        (c.generateRecursively.isTruthy = false → rest = []) ∧
          (c.generateRecursively.isTruthy = true →
            (Build.load around { Request.quickSettings options with trackInclusions := true } a.path
              "").outcome = .ok d ∧
              (Request.ofInclusions { config := .value (.obj options) } around.files d).outcome
                = .ok rest) := by
  obtain ⟨-, s₁, hall⟩ := hresults
  rw [after_generateAll] at hall
  obtain ⟨⟨d, result⟩, s₂, hfirst, hrest⟩ := after_bind_eq_ok.mp hall
  have hmain : a.main around c basename = .ok (d, result) := congrArg Prod.fst hfirst
  obtain ⟨g, hg, hd, -⟩ := h.main_eq_ok hmain
  cases hrecursive : c.generateRecursively.isTruthy with
  | false =>
    rw [generateRest, hrecursive, if_neg Bool.false_ne_true] at hrest
    obtain ⟨rfl⟩ := Except.ok.inj (congrArg Prod.fst hrest)
    exact ⟨d, result, [], hmain, rfl, fun _ => rfl, fun hno => absurd hno (by simp)⟩
  | true =>
    rw [generateRest, hrecursive, if_pos rfl] at hrest
    obtain ⟨g', s₃, hmade, hrest⟩ := after_bind_eq_ok.mp hrest
    obtain ⟨hg', rfl⟩ := after_ofExcept_eq_ok.mp hmade
    rw [makeGenerator_eq_ok] at hg'
    have hsingle : (OrderedMap.keys [(basename, result)]).Nodup := by simp [OrderedMap.keys]
    obtain ⟨hdistinct, rest, rfl, hgives⟩ := generateInclusions_eq_ok hrest hsingle
    -- The names are distinct, so a map of the results alone has them all.
    refine ⟨d, result, rest, hmain, rfl, fun hno => absurd hno (by simp), fun _ => ⟨?_, ?_⟩⟩
    · rw [Build.outcome_load around _ h.path h.read, ← hd, h.buildSettings_eq, hrecursive]
    · exact Request.outcome_ofInclusions (Request.isSource_obj options) h.loadConfig_options
        hg hg' hgives (List.nodup_cons.mp hdistinct).2

end Arguments.Accepts

/-! ## §5. Agreement. -/

/-- A run, a request for its file and one for the content of that have one answer, and a run has
the results for included documents that a request has. -/
structure Arguments.Agrees [Machine] (a : Arguments) (around : Surroundings) (content : Content)
    (c : Config) (basename : String) (options : OrderedMap Json) : Prop where
  /-- The run has the code of the file, or fails to generate it for the same reason. -/
  ofFile : (a.main around c basename).toOption.map (fun main => main.2.answer)
    = (fileResult around.files options a.path basename).toOption.map Generated.answer
  /-- So does the request for the content, if all options are settings to it. -/
  ofContent : Request.AreSettings options →
    Request.answer? (contentResult around.files options content basename)
      = (fileResult around.files options a.path basename).toOption.map Generated.answer
  /-- The requests are refused for one cause, but a malformed document is told with its place. -/
  refusal : Request.AreSettings options → ∀ e,
    fileResult around.files options a.path basename = .error e →
      contentResult around.files options content basename = .error e ∨
        e = .build (.load (.malformed (Path.ofString a.path).text)) ∧
          contentResult around.files options content basename
            = .error (.build (.load (.malformed Request.unnamedSource)))
  /-- A run needs the same generator, which it makes first. -/
  creation : ∀ e, fileResult around.files options a.path basename = .error (.creation e) →
    a.main around c basename = .error (.creation e)
  /-- A run without a main result fails for the reason why it has none. -/
  failure : ∀ e, a.main around c basename = .error e → (a.steps around).1 = .error e
  /-- A run with a main result has all results, unless it fails at an included document. -/
  delivery : ∀ main, a.main around c basename = .ok main →
    (∃ results, a.Generates around c basename results) ∨
      c.generateRecursively.isTruthy = true ∧ ∃ e, (a.steps around).1 = .error e
  /-- A run that ends has results, and they are in their files if it wrote them. -/
  output : ∀ status s', a.steps around = (.ok status, s') →
    ∃ results, a.Generates around c basename results ∧
      (status = 0 → a.has .stdout = false → ∃ directory, outputDirectory c = .ok directory ∧
        IsOutput a.sink? directory results around.files s'.files)
  /-- The results are the main one and, if they are asked for, those that a request has for the
  inclusions of the dictionary in the file. -/
  results : ∀ results, a.Generates around c basename results →
    ∃ d result rest, a.main around c basename = .ok (d, result) ∧
      results = (basename, result) :: rest ∧
        (c.generateRecursively.isTruthy = false → rest = []) ∧
          (c.generateRecursively.isTruthy = true →
            (Build.load around { Request.quickSettings options with trackInclusions := true } a.path
              "").outcome = .ok d ∧
              (Request.ofInclusions { config := .value (.obj options) } around.files d).outcome
                = .ok rest)

/-- **The ways to the code of a document agree**, for every content, every basename and all options
that a run accepts.  A request for the content must take all of these as settings. -/
theorem Arguments.agrees_of_accepts [Machine] (h : a.Accepts around content c basename options) :
    a.Agrees around content c basename options where
  ofFile := h.answer_main
  ofContent := h.answer_content
  refusal := fun hnames _ => h.content_refusal hnames
  creation := fun _ => h.main_creation
  failure := fun _ => h.steps_error
  delivery := fun _ => h.results_or_error
  output := fun _ _ => h.exists_results
  results := fun _ => h.results_cases

section Usual

attribute [local instance] Machine.usual

theorem Arguments.agrees_of_accepts_note :
    ∃ opened content c options, noteArguments.openSink noteFiles = .ok opened ∧
      noteArguments.Accepts { files := opened } content c "T" options ∧
        noteArguments.Agrees { files := opened } content c "T" options ∧
          Request.AreSettings options ∧ c.generateRecursively.isTruthy = true ∧
            ((noteArguments.main { files := opened } c "T").toOption.any
              fun main => main.2.succeeded) = true := by
  have hrun : (noteArguments.openSink noteFiles).toOption.any (fun opened =>
      (noteArguments.checkInput opened).isOk ∧ (opened.read (.ofString "a.sdef")).isOk ∧
        (noteArguments.configure opened).toOption.any (fun found =>
          found.2 = "T" ∧ found.1.generateRecursively.isTruthy = true ∧
            standardPath? found.1.standardDefinitionsPath = some (.ofString "std.sdef") ∧
              ((noteArguments.main { files := opened } found.1 "T").toOption.any
                fun main => main.2.succeeded) = true)) = true := by decide +kernel
  obtain ⟨opened, hopened, hrun⟩ := exists_eq_ok_of_any hrun
  obtain ⟨hchecked, hread, hconfigured⟩ := of_decide_eq_true hrun
  obtain ⟨content, hread⟩ := exists_eq_ok_of_isOk hread
  obtain ⟨⟨⟩, hchecked⟩ := exists_eq_ok_of_isOk hchecked
  obtain ⟨⟨c, basename⟩, hconfigured, hfound⟩ := exists_eq_ok_of_any hconfigured
  obtain ⟨rfl, hrecursive, hstandard, hmain⟩ := of_decide_eq_true hfound
  have hplaces : noteArguments.sink?.all (fun k =>
      k.path.place ≠ (Path.ofString "a.sdef").place ∧
        k.path.place ≠ (Path.ofString "std.sdef").place) = true := by decide +kernel
  have haccepts : noteArguments.Accepts { files := opened } content c "T"
      (Config.options [] noteArguments.settings) :=
    { opened := ⟨noteFiles, hopened⟩
      listing := by decide
      path := by decide
      url := by decide
      checked := hchecked
      read := hread
      configured := hconfigured
      collected := ⟨[], rfl, rfl⟩
      apart := by
        rintro p hp ⟨k, hk, hplace⟩
        rw [hk] at hplaces
        obtain ⟨hdocument, hother⟩ := of_decide_eq_true hplaces
        rcases hp with rfl | hp
        · exact hdocument hplace
        · obtain rfl := Option.some.inj (hstandard.symm.trans hp)
          exact hother hplace }
  have hsettings : Request.AreSettings (Config.options [] noteArguments.settings) := by
    unfold Request.AreSettings
    decide +kernel
  exact ⟨opened, content, c, _, hopened, haccepts, Arguments.agrees_of_accepts haccepts, hsettings,
    hrecursive, hmain⟩

/-- Arguments of a run with a configuration file. -/
def namedArguments : Arguments where
  file := some "a.sdef"
  values := [(.config, "c.json"), (.basename, "T")]

/-- A document, and a file with one setting. -/
def namedFiles (name value : String) : FileSystem where
  entries :=
    [(⟨false, ["a.sdef"]⟩, .file (.text "<d><suite name=\"S\"><class name=\"note\"/></suite></d>")),
      (⟨false, ["c.json"]⟩, .file (.text ("\x7b\"" ++ name ++ "\": \"" ++ value ++ "\"\x7d")))]

/-- With an option of some name a run and the request for its file have code, but the request for
the content has no answer. -/
def DisagreesFor (name value : String) : Prop :=
  ∃ content c options,
    namedArguments.Accepts { files := namedFiles name value } content c "T" options ∧
      ((namedArguments.main { files := namedFiles name value } c "T").toOption.any
        fun main => main.2.succeeded) = true ∧
      ((fileResult (namedFiles name value) options "a.sdef" "T").toOption.any
        Generated.succeeded) = true ∧
      Request.answer? (contentResult (namedFiles name value) options content "T") = none

theorem disagreesFor_of_mem :
    ∀ option ∈ [("sdef_xml", "x"), ("language", "kotlin")], DisagreesFor option.1 option.2 := by
  intro option hoption
  have hrun : (namedArguments.checkInput (namedFiles option.1 option.2)).isOk ∧
      ((namedFiles option.1 option.2).read (.ofString "a.sdef")).toOption.any fun content =>
        (namedArguments.configure (namedFiles option.1 option.2)).toOption.any fun found =>
          (Config.fileEntries (namedFiles option.1 option.2)
              (.str (namedArguments.value .config))).toOption.any fun entries =>
            found.2 = "T" ∧
              ((namedArguments.main { files := namedFiles option.1 option.2 } found.1
                "T").toOption.any fun main => main.2.succeeded) = true ∧
              ((fileResult (namedFiles option.1 option.2)
                (Config.options entries namedArguments.settings) "a.sdef" "T").toOption.any
                  Generated.succeeded) = true ∧
              (Request.answer? (contentResult (namedFiles option.1 option.2)
                (Config.options entries namedArguments.settings) content "T")).isNone := by
    revert option
    decide +kernel
  obtain ⟨hchecked, hrun⟩ := hrun
  obtain ⟨⟨⟩, hchecked⟩ := exists_eq_ok_of_isOk hchecked
  obtain ⟨content, hread, hrun⟩ := exists_eq_ok_of_any hrun
  obtain ⟨⟨c, basename⟩, hconfigured, hrun⟩ := exists_eq_ok_of_any hrun
  obtain ⟨entries, hentries, hrun⟩ := exists_eq_ok_of_any hrun
  obtain ⟨rfl, hmain, hfile, hcontent⟩ := of_decide_eq_true hrun
  have hsink : namedArguments.sink? = none := by decide
  exact ⟨content, c, _,
    { opened := ⟨_, rfl⟩
      listing := by decide
      path := by decide
      url := by decide
      checked := hchecked
      read := hread
      configured := hconfigured
      collected := ⟨entries, hentries, rfl⟩
      apart := fun _ _ ⟨k, hk, _⟩ => absurd (hsink.symm.trans hk) (by simp) },
    hmain, hfile, Option.isNone_iff_eq_none.mp hcontent⟩

/-- **An option with the name of a parameter is a setting to all but the third way**, which is
refused: the name is there twice, or is taken for that of a language. -/
theorem Arguments.parameters_disagree :
    DisagreesFor "sdef_xml" "x" ∧ DisagreesFor "language" "kotlin" :=
  ⟨disagreesFor_of_mem ("sdef_xml", "x") (by simp),
    disagreesFor_of_mem ("language", "kotlin") (by simp)⟩

end Usual

end ScriptingBindings.Command
