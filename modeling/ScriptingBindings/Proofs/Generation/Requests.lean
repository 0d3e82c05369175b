/-
  ScriptingBindings.Proofs.Generation.Requests
  ──────────────────────────────────
  **REQUESTS FOR ONE DOCUMENT.**

  A request for a file and one for its content build the same dictionary and
  go on in the same way.  They have the same answer, code or the reason why
  there is none, and are refused together:

      ofFile  =  the dictionary of the content  >>=  its code
      quick   =  the dictionary of the content  >>=  its code  >>=  the text of that

  Options whose names the second request has for something else are no
  settings to it, so there must be none of these.

  Where the configuration can be loaded, there is a generator if the options
  for the code can be made from it.
-/
import ScriptingBindings.Proofs.Build.Sources
import ScriptingBindings.Proofs.OrderedMap

namespace ScriptingBindings

open Dictionary
open FileSystem (Path)

namespace Request

variable {files : FileSystem} {settings : BuildSettings} {r : Request} {c : Config}
  {path basename : String} {content : Content} {options : OrderedMap Json}

/-! ## §1. Generators. -/

/-- A source that is of a kind to have a configuration from. -/
def IsSource (source : ConfigSource) : Prop :=
  ∀ v, source = .value v → badKind? v = none

theorem isSource_ready (c : Config) : IsSource (.ready c) :=
  fun _ h => absurd h (by simp)

theorem isSource_obj (options : OrderedMap Json) : IsSource (.value (.obj options)) :=
  fun _ h => ConfigSource.value.inj h ▸ rfl

/-- There is no generator for a configuration whose values cannot be used. -/
def unusable : CreationError := .failed "swift" none

/-- **There is a generator where the options can be made.** -/
theorem generator_eq [Machine] {source : ConfigSource} (hsource : IsSource source)
    (hload : loadConfig files .swift source = .ok c) :
    ({ config := source } : Request).generator files
      = ((Generator.ofConfig c).map fun g => (c, g)).mapError fun _ => unusable := by
  have hfind : Language.find? "swift" = some .swift := by decide +kernel
  have hmake : generator.make { config := source } files .swift source
      = ((Generator.ofConfig c).map fun g => (c, g)).mapError fun _ => unusable := by
    unfold generator.make
    rw [hload, ok_bind]
    cases Generator.ofConfig c with
    | ok g => rfl
    | error m => rfl
  unfold generator
  simp only [hfind]
  -- A value is looked at once more before it is loaded.
  cases source with
  | ready c => exact hmake
  | value v =>
    simp only [hsource v rfl]
    exact hmake

/-! ## §2. Code for a dictionary. -/

theorem outcome_run [Machine] (g : Generator) (d : Dictionary) (basename : String) :
    (run g d basename).outcome = (g.generate d basename).value.2.mapError .misuse := by
  unfold run
  rw [Run.outcome_bind, Run.outcome_ofLogged]
  rfl

/-- A request for a dictionary makes a generator and runs it. -/
theorem outcome_ofDictionary [Machine] {source : ConfigSource} (hsource : IsSource source)
    (hload : loadConfig files .swift source = .ok c) (d : Dictionary) (basename : String) :
    (ofDictionary { config := source } files d basename).outcome
      = (Generator.ofConfig c).mapError (fun _ => .creation unusable) >>= fun g =>
        (g.generate d basename).value.2.mapError .misuse := by
  unfold ofDictionary
  rw [Run.outcome_bind, Run.outcome_ofExcept, generator_eq hsource hload]
  cases Generator.ofConfig c with
  | ok g => exact outcome_run g d basename
  | error m => rfl

/-- A refusal tells of a result, which is there but is not the code that was asked for. -/
def Refusal.TellsResult : Refusal → Prop
  | .failed _ | .unencodable _ => True
  | .creation _ | .misuse _ | .build _ => False

/-- Every result is an answer to a request for a dictionary, and no refusal of it. -/
theorem failsOnly_ofDictionary [Machine] (r : Request) (files : FileSystem) (d : Dictionary)
    (basename : String) :
    FailsOnly (¬ ·.TellsResult) (ofDictionary r files d basename).outcome := by
  refine FailsOnly.outcome_bind ?_ fun made => ?_
  · exact (FailsOnly.mapError_of_forall (fun _ => id) (r.generator files)).outcome_ofExcept
  · rw [outcome_run]
    exact .mapError_of_forall (fun _ => id) _

/-- Results under names of their own are put one behind the other. -/
theorem outcome_foldlM_put [Machine] {g : Generator} {inclusions : List (Inclusion Dictionary)}
    {results more : OrderedMap Generated}
    (hgives : List.Forall₂ (fun i entry => entry.1 = i.basename ∧
      (g.generate i.content i.basename).value.2 = .ok entry.2) inclusions more)
    (hdistinct : (OrderedMap.keys (results ++ more)).Nodup) :
    (inclusions.foldlM (fun results i => do
      return OrderedMap.put results i.basename (← run g i.content i.basename)) results
        : Run Refusal (OrderedMap Generated)).outcome = .ok (results ++ more) := by
  -- The results so far are free: each step puts one more behind them.
  induction hgives generalizing results with
  | nil => rw [List.append_nil]; rfl
  | @cons i entry inclusions more hentry _ ih =>
    obtain ⟨name, result⟩ := entry
    obtain ⟨rfl, hresult⟩ := hentry
    have hnew : i.basename ∉ OrderedMap.keys results := by
      intro hmem
      rw [OrderedMap.keys, List.map_append] at hdistinct
      exact (List.nodup_append.mp hdistinct).2.2 _ hmem _ List.mem_cons_self rfl
    have hput : OrderedMap.put results i.basename result = results ++ [(i.basename, result)] :=
      OrderedMap.put_of_not_has (by rw [OrderedMap.has, OrderedMap.get?_eq_none hnew]; rfl) result
    have hrun : (run g i.content i.basename).outcome = .ok result := by
      rw [outcome_run, hresult]
      rfl
    rw [List.append_cons, ← hput] at hdistinct
    rw [List.foldlM_cons, Run.outcome_bind, Run.outcome_bind, hrun]
    show Run.outcome (List.foldlM _ (OrderedMap.put results i.basename result) inclusions) = _
    rw [ih hdistinct, hput, List.append_assoc]
    rfl

/-- A request for the inclusions of a dictionary makes a generator without what is not for
them, and runs it for each. -/
theorem outcome_ofInclusions [Machine] {source : ConfigSource} (hsource : IsSource source)
    (hload : loadConfig files .swift source = .ok c) {g g' : Generator}
    (hg : Generator.ofConfig c = .ok g) (hg' : Generator.ofConfig c.forInclusion = .ok g')
    {d : Dictionary} {results : OrderedMap Generated}
    (hgives : List.Forall₂ (fun i entry => entry.1 = i.basename ∧
      (g'.generate i.content i.basename).value.2 = .ok entry.2) d.inclusions results)
    (hdistinct : results.keys.Nodup) :
    (ofInclusions { config := source } files d).outcome = .ok results := by
  unfold ofInclusions
  simp only [Run.outcome_bind, Run.outcome_ofExcept, generator_eq hsource hload, hg, Except.mapError,
    Except.map, ok_bind, generator_eq (isSource_ready c.forInclusion) rfl, hg']
  exact outcome_foldlM_put hgives hdistinct

/-! ## §3. Code for a content. -/

/-- What a request says that only code is an answer to: the code and whether a file can hold it,
or why there is none.  It says nothing if it is refused for another cause. -/
def answer? : Except Refusal String → Option (Except GenerationError (String × Bool))
  | .ok code => some (.ok (code, true))
  | .error (.unencodable shown) => some (.ok (shown, false))
  | .error (.failed e) => some (.error e)
  | .error _ => none

/-- The text of a result. -/
def textOf : Generated → Except Refusal String
  | .code text _ _ => .ok text
  | .unencodable shown _ _ => .error (.unencodable shown)
  | .failed e => .error (.failed e)

/-- The names that a quick generation has for what is no setting. -/
def parameterNames : List String := languageName :: placeNames

/-- All options are settings to a quick generation. -/
def AreSettings (options : OrderedMap Json) : Prop :=
  ∀ name ∈ parameterNames, name ∉ options.keys

theorem outcome_ofFile [Machine] (hpath : path.isEmpty = false)
    (hbasename : basename.isEmpty = false) (hread : files.read (.ofString path) = .ok content) :
    (ofFile r files settings path basename).outcome
      = (Build.ofContent files settings (Path.ofString path).text content).mapError .build
        >>= fun d => (ofDictionary r files d basename).outcome := by
  unfold ofFile
  simp only [hbasename, Bool.false_eq_true, if_false, Run.outcome_bind, Run.outcome_mapError]
  rw [Build.outcome_load { files := files } settings hpath hread]

/-- Options that are all settings are taken as they are, and ask for no other language. -/
theorem AreSettings.taken (hnames : AreSettings options) :
    options.keys.any placeNames.contains = false ∧ languageOf options = .ok "swift" ∧
      options.erase languageName = options := by
  have hlanguage : languageName ∉ options.keys := hnames languageName List.mem_cons_self
  refine ⟨?_, ?_, ?_⟩
  · rw [List.any_eq_false]
    intro name hname hplace
    exact hnames name (List.mem_cons_of_mem _ (List.contains_iff_mem.mp hplace)) hname
  · rw [languageOf, OrderedMap.get?_eq_none hlanguage]
    rfl
  · rw [OrderedMap.erase, List.filter_eq_self]
    intro entry hentry
    refine decide_eq_true fun heq => hlanguage ?_
    rw [← heq]
    exact List.mem_map_of_mem hentry

/-- Where a content is found if nothing is said about it. -/
def unnamedSource : String := "<memory>"

theorem outcome_quick [Machine] (hnames : AreSettings options) :
    (quick files content basename options).outcome
      = ((Build.ofContent files (quickSettings options) unnamedSource content).mapError .build
        >>= fun d => (ofDictionary ⟨"swift", .value (.obj options)⟩ files d basename).outcome)
          >>= textOf := by
  obtain ⟨hplaces, hlanguage, herase⟩ := hnames.taken
  unfold quick
  rw [hplaces, if_neg Bool.false_ne_true, hlanguage, herase, Run.outcome_bind,
    Run.outcome_mapError, Document.outcome_ofContent, Build.ofContent]
  cases Markup.read? content with
  | none => rfl
  | some root =>
    simp only [Except.mapError, ok_bind, Run.outcome_bind, Run.outcome_mapError,
      Run.outcome_ofExcept, bind_assoc]
    -- Both have the dictionary and the result, and differ in how they take the text of it.
    refine bind_congr fun d => bind_congr fun result => ?_
    cases result with
    | code text warnings metadata => rfl
    | unencodable shown warnings metadata => rfl
    | failed e => rfl

/-- **The content of a document has the code of its file**, unless it is malformed: then it is told
where it was found. -/
theorem quick_cases [Machine] (hpath : path.isEmpty = false)
    (hbasename : basename.isEmpty = false) (hread : files.read (.ofString path) = .ok content)
    (hnames : AreSettings options) :
    ((ofFile ⟨"swift", .value (.obj options)⟩ files (quickSettings options) path basename).outcome
        = .error (.build (.load (.malformed (Path.ofString path).text))) ∧
      (quick files content basename options).outcome
        = .error (.build (.load (.malformed unnamedSource)))) ∨
      (quick files content basename options).outcome
        = (ofFile ⟨"swift", .value (.obj options)⟩ files (quickSettings options) path
          basename).outcome >>= textOf := by
  rw [outcome_ofFile hpath hbasename hread, outcome_quick hnames, Build.ofContent, Build.ofContent]
  cases Markup.read? content with
  | none => exact .inl ⟨rfl, rfl⟩
  | some root => exact .inr rfl

theorem failsOnly_ofFile [Machine] (hpath : path.isEmpty = false)
    (hbasename : basename.isEmpty = false) (hread : files.read (.ofString path) = .ok content) :
    FailsOnly (¬ ·.TellsResult) (ofFile r files settings path basename).outcome := by
  rw [outcome_ofFile hpath hbasename hread]
  refine FailsOnly.bind ?_ fun d => failsOnly_ofDictionary r files d basename
  exact .mapError_of_forall (fun _ => id) _

/-- What is said of a text is what the result says that it is of. -/
theorem answer?_bind_textOf {x : Except Refusal Generated}
    (h : FailsOnly (¬ ·.TellsResult) x) :
    answer? (x >>= textOf) = x.toOption.map Generated.answer := by
  cases hx : x with
  | ok result =>
    cases result with
    | code text warnings metadata => rfl
    | unencodable shown warnings metadata => rfl
    | failed e => rfl
  | error e =>
    cases e with
    | failed cause => exact absurd trivial (h _ hx)
    | unencodable => exact absurd trivial (h _ hx)
    | _ => rfl

/-- **The content of a document has the answer of its file.** -/
theorem answer?_quick [Machine] (hpath : path.isEmpty = false)
    (hbasename : basename.isEmpty = false) (hread : files.read (.ofString path) = .ok content)
    (hnames : AreSettings options) :
    answer? (quick files content basename options).outcome
      = (ofFile ⟨"swift", .value (.obj options)⟩ files (quickSettings options) path
        basename).outcome.toOption.map Generated.answer := by
  rcases quick_cases hpath hbasename hread hnames with ⟨hfile, hquick⟩ | hquick
  · rw [hfile, hquick]
    rfl
  · rw [hquick, answer?_bind_textOf (failsOnly_ofFile hpath hbasename hread)]

end Request

end ScriptingBindings
