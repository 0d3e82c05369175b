/-
  ScriptingBindings.Proofs.Command.Ending
  ──────────────────────────────────
  **THE END OF A RUN.**

  The steps of a run start once the file for the records is open.  If they
  end, so does the run; if they fail, the failure is told.
-/
import ScriptingBindings.Proofs.Command.Steps

namespace ScriptingBindings.Command

open Step

variable {a : Arguments} {around : Surroundings} {s' : Session}

/-- The last step of a delivery: telling about the code, if that is asked for, and status 0. -/
theorem after_lastStep (verbose : Bool) (results : OrderedMap Generated) (basename : String)
    (s : Session) : ∃ printed, after (if verbose = true then do
        printMetadata results basename
        return 0
      else return 0 : Step Nat) s = (.ok 0, { s with printed := printed }) := by
  cases verbose with
  | false => exact ⟨s.printed, rfl⟩
  | true =>
    rw [if_pos rfl]
    unfold printMetadata
    split
    next => exact ⟨_, rfl⟩
    next => exact ⟨s.printed, rfl⟩

/-- How the steps of a run end that start with the file for the records open. -/
def Arguments.steps [Machine] (a : Arguments) (around : Surroundings) :
    Except Failure Nat × Session :=
  after (perform around a) { files := around.files, sink := a.sink? }

/-- The end of the program after the outcome of a run. -/
def endingOf : Except Escape Nat → Ending
  | .ok status => .finished status
  | .error e => .escaped e

/-- The end of a run, from what becomes of its steps. -/
theorem run_eq [Machine] {files : FileSystem} {outcome : Except Escape Nat}
    (hopened : a.openSink around.files = .ok files)
    (h : (conclude { around with files := files } a { files := files, sink := a.sink? }).value
      = (outcome, s')) :
    a.run around = ⟨s'.files, s'.printed, endingOf outcome⟩ := by
  unfold Arguments.run
  rw [hopened]
  simp only [h]
  cases outcome with
  | ok status => rfl
  | error e => rfl

/-- The end of a run whose steps end. -/
theorem run_of_steps_ok [Machine] {files : FileSystem} {status : Nat}
    (hopened : a.openSink around.files = .ok files)
    (h : a.steps { around with files := files } = (.ok status, s')) :
    a.run around = ⟨s'.files, s'.printed, .finished status⟩ := by
  have hconclude : (conclude { around with files := files } a
      { files := files, sink := a.sink? }).value = (.ok status, s') := by
    unfold conclude
    rw [Logged.value_bind]
    unfold Arguments.steps Step.after at h
    rw [h]
    rfl
  exact run_eq hopened hconclude

/-- The end of a run whose steps fail: the failure is told. -/
theorem run_of_steps_error [Machine] {files : FileSystem} {e : Failure}
    (hopened : a.openSink around.files = .ok files)
    (h : a.steps { around with files := files } = (.error e, s')) :
    a.run around = ⟨(tell e s').value.2.files, (tell e s').value.2.printed,
      endingOf (tell e s').value.1⟩ := by
  refine run_eq hopened ?_
  unfold conclude
  rw [Logged.value_bind]
  unfold Arguments.steps Step.after at h
  rw [h]

theorem run_of_read [Machine] {line : List String} (h : Arguments.read line = .ok a) :
    run around line = a.run around := by
  rw [run, h]

end ScriptingBindings.Command
