/-
  ScriptingBindings.Proofs.Command.AllOrNothing
  ──────────────────────────────────
  **A RUN WRITES ALL RESULTS OR NONE.**

  Until every job has its code, a run changes nothing but the file for the
  records.  So it either leaves the files as they are or, with status 0,
  leaves each result in its file.  Only writing and printing themselves can
  interrupt it half-way.
-/
import ScriptingBindings.Proofs.Command.Configuration
import ScriptingBindings.Proofs.Command.Ending
import ScriptingBindings.Proofs.Command.Generation
import ScriptingBindings.Proofs.Command.Writing

namespace ScriptingBindings.Command

open FileSystem Step

/-! ## §1. Interruptions. -/

/-- Writing failed, or printing did. -/
def Failure.IsInterruption : Failure → Prop
  | .writing _ | .text _ => True
  | _ => False

/-- Printing lines is stopped by an interruption at most. -/
theorem interrupts_printAll (lines : List String) :
    OnlyFails Failure.IsInterruption (printAll lines) :=
  .printAll fun _ _ _ _ => trivial

theorem interrupts_writeEach (directory : Path) (results : OrderedMap Generated) :
    OnlyFails Failure.IsInterruption (writeEach directory results) := by
  induction results with
  | nil => exact .pure []
  | cons entry rest ih =>
    refine (OnlyFails.change fun _ _ _ => trivial).bind fun _ _ _ _ => ?_
    exact ih.bind fun _ _ _ _ => .pure _

/-- Without a directory nothing is written; after that only an interruption can stop the
output. -/
theorem writeAll_eq_error [Machine] {c : Config} {results : OrderedMap Generated} {s s' : Session}
    {e : Failure} (h : after (writeAll c results) s = (.error e, s')) :
    e.IsInterruption ∨ s' = s := by
  rcases after_bind_eq_error.mp h with h | ⟨directory, between, -, h⟩
  · exact .inr (congrArg Prod.snd h).symm
  · refine .inl (OnlyFails.bind ?_ (fun _ _ _ _ => ?_) between s' e h)
    · exact .change fun _ _ _ => trivial
    · exact (interrupts_writeEach directory results).bind fun _ _ _ _ => interrupts_printAll _

/-! ## §2. The end of the steps. -/

variable {a : Arguments} {around : Surroundings} {c : Config} {basename : String}
  {results : OrderedMap Generated} {s s' : Session}

/-- A delivery that ends tells of failures, prints the code, or writes all of it. -/
theorem deliver_eq_ok [Machine] {status : Nat} (ho : s.IsOpen)
    (h : after (deliver a c basename results) s = (.ok status, s'))
    (hkeys : results.keys.Nodup) (hparts : ∀ entry ∈ results, '/' ∉ entry.1.toList) :
    (s.Keeps s' ∧ (status = 1 ∨ a.has .stdout = true)) ∨
      (status = 0 ∧ a.has .stdout = false ∧ (∀ entry ∈ results, entry.2.succeeded = true) ∧
        ∃ directory, outputDirectory c = .ok directory ∧
          IsOutput s.sink directory results s.files s'.files) := by
  unfold deliver at h
  dsimp only at h
  split at h
  next =>
    obtain ⟨_, s₁, hfailed, hstatus⟩ := after_bind_eq_ok.mp h
    obtain ⟨rfl, rfl⟩ : 1 = status ∧ s₁ = s' := by simpa using hstatus
    exact .inl ⟨(OnlyPrints.printAll _).isQuiet.keeps hfailed, .inl rfl⟩
  next hnone =>
    obtain ⟨_, s₁, hwarned, h⟩ := after_bind_eq_ok.mp h
    have hfirst : s.Keeps s₁ := (OnlyPrints.printAll _).isQuiet.keeps hwarned
    cases hstdout : a.has .stdout with
    | true =>
      rw [hstdout, if_pos rfl] at h
      obtain ⟨_, s₂, hprinted, h⟩ := after_bind_eq_ok.mp h
      obtain ⟨printed, hend⟩ := after_lastStep (a.has .verbose) results basename s₂
      obtain ⟨-, rfl⟩ := Prod.mk.inj (hend.symm.trans h)
      have hsecond : s₁.Keeps s₂ := (OnlyPrints.printCode results).isQuiet.keeps hprinted
      exact .inl ⟨hfirst.trans (hsecond.trans (s₂.keeps_printed printed)), .inr rfl⟩
    | false =>
      rw [hstdout, if_neg Bool.false_ne_true] at h
      obtain ⟨_, s₂, hwritten, h⟩ := after_bind_eq_ok.mp h
      obtain ⟨printed, hend⟩ := after_lastStep (a.has .verbose) results basename s₂
      obtain ⟨hstatus, rfl⟩ := Prod.mk.inj (hend.symm.trans h)
      have hunfailed : ∀ entry ∈ results, failureLine? entry.2 = none :=
        List.filterMap_eq_nil_iff.mp (List.isEmpty_iff.mp (by simpa using hnone))
      obtain ⟨hcodes, directory, hdirectory, houtput⟩ :=
        writeAll_eq_ok (hfirst.isOpen ho) hwritten hunfailed hkeys hparts
      rw [hfirst.sink, (OnlyPrints.printAll _).files_eq hwarned] at houtput
      exact .inr ⟨(Except.ok.inj hstatus).symm, rfl, hcodes, directory, hdirectory, houtput⟩

/-- A delivery fails before it writes anything, or is interrupted. -/
theorem deliver_eq_error [Machine] {e : Failure}
    (h : after (deliver a c basename results) s = (.error e, s')) :
    e.IsInterruption ∨ s.Keeps s' := by
  have hlast {s : Session} (h : after (if a.has .verbose = true then do
        printMetadata results basename
        return 0
      else return 0 : Step Nat) s = (.error e, s')) : False := by
    obtain ⟨printed, hend⟩ := after_lastStep (a.has .verbose) results basename s
    exact absurd (congrArg Prod.fst (hend.symm.trans h)) (by simp)
  unfold deliver at h
  dsimp only at h
  split at h
  next =>
    exact .inl ((interrupts_printAll _).bind (fun _ _ _ _ => .pure 1) s s' e h)
  next =>
    rcases after_bind_eq_error.mp h with h | ⟨_, s₁, hwarned, h⟩
    · exact .inl (interrupts_printAll _ s s' e h)
    · have hfirst : s.Keeps s₁ := (OnlyPrints.printAll _).isQuiet.keeps hwarned
      split at h
      next =>
        rcases after_bind_eq_error.mp h with h | ⟨_, s₂, -, h⟩
        · exact .inr (hfirst.trans ((OnlyPrints.printCode results).isQuiet.keeps h))
        · exact (hlast h).elim
      next =>
        rcases after_bind_eq_error.mp h with h | ⟨_, s₂, -, h⟩
        · rcases writeAll_eq_error h with he | rfl
          · exact .inl he
          · exact .inr hfirst
        · exact (hlast h).elim

/-! ## §3. The steps of a run. -/

/-- What a run with files to write has done: it was configured from the files that were there with
that for the records open, built a dictionary, and had code for every job, each of which is in its
file. -/
def HasWritten [Machine] (a : Arguments) (around : Surroundings) (opened after : FileSystem) :
    Prop :=
  ∃ c basename d directory results,
    a.configure opened = .ok (c, basename) ∧
      IsBuilt (IsLogPlace a.sink?) { around with files := opened } a (buildSettings c) d ∧
        List.Forall₂ Job.Gives (jobs c basename d) results ∧
          (∀ entry ∈ results, entry.2.succeeded = true) ∧
            outputDirectory c = .ok directory ∧
              IsOutput a.sink? directory results around.files after

/-- Every basename of a run is a single part of a path. -/
theorem not_mem_basename [Machine] {P : Location → Prop} {d : Dictionary} {fs : FileSystem}
    (hconfig : a.configure fs = .ok (c, basename))
    (hbuilt : IsBuilt P around a (buildSettings c) d)
    (hgives : List.Forall₂ Job.Gives (jobs c basename d) results) :
    ∀ entry ∈ results, '/' ∉ entry.1.toList := by
  obtain ⟨_, -, -, hshape, -⟩ := configure_eq_ok.mp hconfig
  exact fun entry he => Config.not_mem_of_isBasename
    (isBasename_of_gives hshape hbuilt hgives entry he) (by decide) (by decide)

/-- **The steps of a run that end write all results or none.** -/
theorem steps_eq_ok [Machine] {status : Nat}
    (ho : Session.IsOpen { files := around.files, sink := a.sink? })
    (h : a.steps around = (.ok status, s')) :
    (Session.Keeps { files := around.files, sink := a.sink? } s' ∧
      (status = 1 ∨ a.has .listLanguages = true ∨ a.has .stdout = true)) ∨
      (status = 0 ∧ a.has .listLanguages = false ∧ a.has .stdout = false ∧
        HasWritten a around around.files s'.files) := by
  unfold Arguments.steps perform at h
  split at h
  next hlist =>
    have hquiet := ((OnlyPrints.printRaw _).bind fun _ => .pure 0).isQuiet.keeps h
    exact .inl ⟨hquiet, .inr (.inl hlist)⟩
  next hlist =>
    obtain ⟨_, s₁, hinput, h⟩ := after_bind_eq_ok.mp h
    obtain ⟨-, rfl⟩ := after_ofExcept_eq_ok.mp hinput
    obtain ⟨⟨c, basename⟩, s₂, hfirst, h⟩ := after_bind_eq_ok.mp h
    obtain ⟨hconfig, rfl⟩ := after_ofExcept_eq_ok.mp hfirst
    obtain ⟨results, s₃, hgenerated, h⟩ := after_bind_eq_ok.mp h
    have hquiet := (isQuiet_generateAll around a c basename).keeps hgenerated
    obtain ⟨hkeys, d, hbuilt, hgives⟩ := generateAll_eq_ok hgenerated
    have hparts := not_mem_basename hconfig hbuilt hgives
    rcases deliver_eq_ok (hquiet.isOpen ho) h hkeys hparts with
      ⟨hkeeps, hwhy⟩ | ⟨rfl, hstdout, hcodes, directory, hdirectory, houtput⟩
    · exact .inl ⟨hquiet.trans hkeeps, hwhy.imp_right .inr⟩
    · refine .inr ⟨rfl, by simpa using hlist, hstdout, ?_⟩
      rw [hquiet.sink] at houtput
      exact ⟨c, basename, d, directory, results, hconfig, hbuilt, hgives, hcodes, hdirectory,
        houtput.of_agreeBut (Session.Keeps.files hquiet)⟩

/-- Steps that fail have written nothing, or were interrupted. -/
theorem steps_eq_error [Machine] {e : Failure} (h : a.steps around = (.error e, s')) :
    e.IsInterruption ∨ Session.Keeps { files := around.files, sink := a.sink? } s' := by
  unfold Arguments.steps perform at h
  split at h
  next => exact .inl (OnlyFails.bind (.printRaw _) (fun _ _ _ _ => .pure 0) _ s' e h)
  next =>
    rcases after_bind_eq_error.mp h with h | ⟨_, s₁, hinput, h⟩
    · exact .inr ((IsQuiet.ofExcept _ _).keeps h)
    · obtain ⟨-, rfl⟩ := after_ofExcept_eq_ok.mp hinput
      rcases after_bind_eq_error.mp h with h | ⟨⟨c, basename⟩, s₂, hconfig, h⟩
      · exact .inr ((IsQuiet.ofExcept _ _).keeps h)
      · obtain ⟨-, rfl⟩ := after_ofExcept_eq_ok.mp hconfig
        have hquiet := isQuiet_generateAll around a c basename
        rcases after_bind_eq_error.mp h with h | ⟨results, s₃, hgenerated, h⟩
        · exact .inr (hquiet.keeps h)
        · exact (deliver_eq_error h).imp_right (hquiet.keeps hgenerated).trans

/-! ## §4. Before the steps and after them. -/

/-- Opening the file for the records changes no other file, and then it can be found. -/
theorem openSink_eq_ok {before opened : FileSystem} (h : a.openSink before = .ok opened) :
    AgreeBut (IsLogPlace a.sink?) before opened ∧
      Session.IsOpen { files := opened, sink := a.sink? } := by
  unfold Arguments.openSink at h
  cases hsink : a.sink? with
  | none =>
    rw [hsink] at h
    exact ⟨Except.ok.inj h ▸ .refl _ _, fun k hk => absurd hk (by simp)⟩
  | some k =>
    rw [hsink] at h
    have hwritten := isWritten_of_writeWith h
    refine ⟨hwritten.others.mono fun l hl => ⟨k, rfl, hl.symm⟩, fun k' hk' => ?_⟩
    obtain rfl := Option.some.inj hk'
    exact ⟨hwritten.isFile.found,
      (hwritten.keepsDirectories.bars_eq _ _).trans hwritten.granted⟩

/-- Telling a failure is quiet, and does not end in success. -/
theorem tell_spec (failure : Failure) (s : Session) :
    (tell failure s).value.1 ≠ .ok 0 ∧ s.Keeps (tell failure s).value.2 := by
  have htellIn (s : Session) (line : String) :
      (tellIn s line).1 ≠ .ok 0 ∧ s.Keeps (tellIn s line).2 := by
    unfold tellIn
    cases Console.shown line with
    | ok text => exact ⟨by simp, s.keeps_printed _⟩
    | error e => exact ⟨by simp, .refl s⟩
  unfold tell
  cases failure.report with
  | escaped e => exact ⟨by simp, .refl s⟩
  | error message recorded =>
    obtain ⟨hstatus, hkeeps⟩ := htellIn (s.keep _) _
    exact ⟨hstatus, (s.keeps_keep _).trans hkeeps⟩
  | output message => exact htellIn s _

/-! ## §5. All or nothing. -/

/-- Neither writing nor printing fails in the steps of a run. -/
def Arguments.IsUninterrupted [Machine] (a : Arguments) (around : Surroundings) : Prop :=
  ∀ opened e, a.openSink around.files = .ok opened →
    (a.steps { around with files := opened }).1 = .error e → ¬ e.IsInterruption

/-- A run whose steps come to a status is not interrupted. -/
theorem isUninterrupted_of_steps [Machine] {opened : FileSystem} {status : Nat}
    (hopened : a.openSink around.files = .ok opened)
    (hsteps : a.steps { around with files := opened } = (.ok status, s')) :
    a.IsUninterrupted around := by
  intro opened' e hopened' he
  obtain rfl := Except.ok.inj (hopened.symm.trans hopened')
  rw [hsteps] at he
  exact absurd he (by simp)

/-- A run leaves the files as they are, apart from that for the records, or ends with status 0 and
each result in its file. -/
inductive AllOrNothing [Machine] (a : Arguments) (around : Surroundings) (ended : Ended) :
    Prop where
  /-- The files are as they were: the run failed, or was not to write any. -/
  | unchanged (files : AgreeBut (IsLogPlace a.sink?) around.files ended.files)
      (why : ended.ending ≠ .finished 0 ∨ a.has .listLanguages = true ∨ a.has .stdout = true)
  /-- The run had files to write, and they are written. -/
  | written (ending : ended.ending = .finished 0) (listing : a.has .listLanguages = false)
      (printing : a.has .stdout = false) {opened : FileSystem}
      (opening : a.openSink around.files = .ok opened)
      (files : HasWritten a around opened ended.files)

/-- **A run writes all results or none.**  Unless writing or printing fails, it changes no file
but that for the records, or it ends with status 0 and has written the code of every job, each to
its own file, and nothing else. -/
theorem run_allOrNothing [Machine] {line : List String} (hline : Arguments.read line = .ok a)
    (h : a.IsUninterrupted around) : AllOrNothing a around (run around line) := by
  rw [run_of_read hline]
  cases hopened : a.openSink around.files with
  | error e =>
    have hended : a.run around = ⟨around.files, "", .escaped (.path e)⟩ := by
      rw [Arguments.run, hopened]
    rw [hended]
    exact .unchanged (.refl _ _) (.inl (by simp))
  | ok opened =>
    obtain ⟨hlog, hopen⟩ := openSink_eq_ok hopened
    cases hsteps : a.steps { around with files := opened } with
    | mk outcome s' =>
      cases outcome with
      | error e =>
        have hkeeps := (steps_eq_error hsteps).resolve_left (h opened e hopened (by rw [hsteps]))
        obtain ⟨hstatus, htold⟩ := tell_spec e s'
        rw [run_of_steps_error hopened hsteps]
        refine .unchanged (hlog.trans (Session.Keeps.files (hkeeps.trans htold)))
          (.inl fun hend => hstatus ?_)
        cases htell : (tell e s').value.1 with
        | ok status =>
          rw [htell] at hend
          exact congrArg Except.ok (Ending.finished.inj hend)
        | error e =>
          rw [htell] at hend
          exact absurd hend (by simp [endingOf])
      | ok status =>
        rw [run_of_steps_ok hopened hsteps]
        rcases steps_eq_ok hopen hsteps with ⟨hkeeps, hwhy⟩ | ⟨rfl, hlist, hstdout, hwritten⟩
        · refine .unchanged (hlog.trans (Session.Keeps.files hkeeps)) (hwhy.imp_left fun h => ?_)
          rw [h]
          simp
        · obtain ⟨c, basename, d, directory, results, hconfig, hbuilt, hgives, hcodes, hdirectory,
            houtput⟩ := hwritten
          exact .written rfl hlist hstdout hopened ⟨c, basename, d, directory, results, hconfig,
            hbuilt, hgives, hcodes, hdirectory, houtput.of_agreeBut hlog⟩

section Usual

attribute [local instance] Machine.usual

/-- Arguments of a run for a document and the one that it includes. -/
def noteArguments : Arguments where
  file := some "a.sdef"
  values := [(.logFile, "run.log"), (.standardDefinitions, "std.sdef"),
    (.outputDirectory, "out/gen"), (.basename, "T")]
  switches := [.recursive]

/-- The line with these arguments. -/
def noteLine : List String :=
  ["a.sdef", "-b", "T", "-o", "out/gen", "--recursive", "--standard-definitions", "std.sdef",
    "--log-file", "run.log"]

/-- A document that includes the standard definitions, and a file with these. -/
def noteFiles : FileSystem where
  entries :=
    [(⟨false, ["a.sdef"]⟩, .file (.text ("<d><include href=\"CocoaStandard.sdef\"/>"
        ++ "<suite name=\"S\"><class name=\"note\"/></suite></d>"))),
      (⟨false, ["std.sdef"]⟩,
        .file (.text "<d><suite name=\"Standard Suite\"><class name=\"window\"/></suite></d>"))]

theorem run_allOrNothing_note :
    Arguments.read noteLine = .ok noteArguments ∧
      noteArguments.IsUninterrupted { files := noteFiles } ∧
        AllOrNothing noteArguments { files := noteFiles } (run { files := noteFiles } noteLine) ∧
          (run { files := noteFiles } noteLine).ending = .finished 0 ∧
            (run { files := noteFiles } noteLine).files.files.map Prod.fst
              = ["a.sdef", "std.sdef", "run.log", "out/gen/T.swift",
                "out/gen/CocoaStandard.swift"] := by
  have hline : Arguments.read noteLine = .ok noteArguments := by decide +kernel
  have hsteps : (noteArguments.openSink noteFiles).toOption.any (fun opened =>
      (noteArguments.steps { files := opened }).1.toOption = some 0 ∧
        (noteArguments.steps { files := opened }).2.files.files.map Prod.fst
          = ["a.sdef", "std.sdef", "run.log", "out/gen/T.swift", "out/gen/CocoaStandard.swift"])
      = true := by decide +kernel
  obtain ⟨opened, hopened, hrun⟩ := exists_eq_ok_of_any hsteps
  obtain ⟨hstatus, hfiles⟩ := of_decide_eq_true hrun
  obtain ⟨s', hend⟩ : ∃ s', noteArguments.steps { files := opened } = (.ok 0, s') :=
    ⟨_, Prod.ext (eq_ok_of_toOption hstatus) rfl⟩
  rw [hend] at hfiles
  have hun : noteArguments.IsUninterrupted { files := noteFiles } :=
    isUninterrupted_of_steps hopened hend
  refine ⟨hline, hun, run_allOrNothing hline hun, ?_⟩
  have hended : noteArguments.run { files := noteFiles } = ⟨s'.files, s'.printed, .finished 0⟩ :=
    run_of_steps_ok hopened hend
  rw [run_of_read hline, hended]
  exact ⟨rfl, hfiles⟩

/-- Arguments of a run whose records go to the file that it writes. -/
def overlapArguments : Arguments where
  file := some "a.sdef"
  values := [(.logFile, "T.swift"), (.basename, "T")]
  switches := [.debug]

/-- The line with these arguments. -/
def overlapLine : List String :=
  ["a.sdef", "-b", "T", "--debug", "--log-file", "T.swift"]

/-- A document with one class. -/
def overlapFiles : FileSystem where
  entries :=
    [(⟨false, ["a.sdef"]⟩, .file (.text ("<dictionary><suite name=\"S\">"
      ++ "<class name=\"note\" code=\"note\"/></suite></dictionary>")))]

/-- **A file that takes the records of its own writing holds more than the code.** -/
theorem run_overlap_ne_code :
    Arguments.read overlapLine = .ok overlapArguments ∧
      overlapArguments.IsUninterrupted { files := overlapFiles } ∧
        (run { files := overlapFiles } overlapLine).ending = .finished 0 ∧
          ∃ opened c d result, overlapArguments.openSink overlapFiles = .ok opened ∧
            overlapArguments.configure opened = .ok (c, "T") ∧
              outputDirectory c = .ok {} ∧
                IsBuilt (IsLogPlace overlapArguments.sink?) { files := opened } overlapArguments
                  (buildSettings c) d ∧
                  Job.Gives ⟨"T", c, d⟩ ("T", result) ∧ result.succeeded = true ∧
                    ¬ (run { files := overlapFiles } overlapLine).files.IsFile (codePath {} "T")
                      (.text (codeText result)) := by
  have hline : Arguments.read overlapLine = .ok overlapArguments := by decide +kernel
  have hsteps : (overlapArguments.openSink overlapFiles).toOption.any (fun opened =>
      (overlapArguments.steps { files := opened }).1.toOption = some 0 ∧
        (overlapArguments.configure opened).toOption.any (fun found =>
          found.2 = "T" ∧ (outputDirectory found.1).toOption = some {})) = true := by
    decide +kernel
  obtain ⟨opened, hopened, hrun⟩ := exists_eq_ok_of_any hsteps
  obtain ⟨hstatus, hconfigured⟩ := of_decide_eq_true hrun
  obtain ⟨⟨c, basename⟩, hc, hsettled⟩ := exists_eq_ok_of_any hconfigured
  obtain ⟨rfl, hdirectory⟩ := of_decide_eq_true hsettled
  have hdirectory : outputDirectory c = .ok {} := eq_ok_of_toOption hdirectory
  obtain ⟨s', hend⟩ : ∃ s', overlapArguments.steps { files := opened } = (.ok 0, s') :=
    ⟨_, Prod.ext (eq_ok_of_toOption hstatus) rfl⟩
  have hun : overlapArguments.IsUninterrupted { files := overlapFiles } :=
    isUninterrupted_of_steps hopened hend
  obtain ⟨-, hopen⟩ := openSink_eq_ok hopened
  have hended : overlapArguments.run { files := overlapFiles }
      = ⟨s'.files, s'.printed, .finished 0⟩ := run_of_steps_ok hopened hend
  rw [run_of_read hline, hended]
  refine ⟨hline, hun, rfl, opened, c, ?_⟩
  rcases steps_eq_ok hopen hend with ⟨-, hwhy⟩ | ⟨-, -, -, hwritten⟩
  · exact absurd hwhy (by decide)
  · obtain ⟨c', basename, d, directory, results, hc', hbuilt, hgives, hcodes, hdirectory',
      houtput⟩ := hwritten
    obtain ⟨rfl, rfl⟩ := Prod.mk.inj (Except.ok.inj (hc.symm.trans hc'))
    obtain rfl := Except.ok.inj (hdirectory.symm.trans hdirectory')
    obtain ⟨k, hk, hplace, hlevel⟩ : ∃ k, overlapArguments.sink? = some k ∧
        k.path.place = (codePath {} "T").place ∧ k.level.rank ≤ Level.info.rank :=
      ⟨_, rfl, by decide +kernel, by decide⟩
    rw [hk] at houtput
    cases hgives with
    | @cons _ entry _ _ hmain _ =>
      obtain ⟨name, result⟩ := entry
      obtain rfl : name = "T" := hmain.1
      have hne := houtput.not_isFile_code List.mem_cons_self hplace hlevel
      exact ⟨d, result, hopened, hc, hdirectory, hbuilt, hmain, hcodes _ List.mem_cons_self, hne⟩

end Usual

end ScriptingBindings.Command
