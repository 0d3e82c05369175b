/-
  ScriptingBindings.Proofs.Loading
  ──────────────────────────────────
  **HOW LOADING AND BUILDING FAIL.**

  A document that cannot be had is told as such: the file is not there, it
  cannot be read, nothing or an error answers, or the content is not
  well-formed.  Two failures are none of these: the address is refused, or it
  cannot be asked whether something is at the path, which is too long or leads
  through a directory that is barred.
-/
import ScriptingBindings.Build
import ScriptingBindings.Proofs.Failure
import ScriptingBindings.Proofs.FileSystem.Faults

namespace ScriptingBindings

open FileSystem (Path PathError preventsAsking_of_hasPath)

/-! ## §1. Documents. -/

/-- A failure that tells why there is no document. -/
def LoadError.IsDeclared : LoadError → Prop
  | .unusable _ | .refusedAddress => False
  | _ => True

namespace Document

@[simp] theorem outcome_note (level : Level) (message : String) :
    (note level message).outcome = .ok () := rfl

@[simp] theorem outcome_fail {α : Type} (e : LoadError) (record : String) :
    (fail e record : Run LoadError α).outcome = .error e := rfl

theorem failsOnly_ofContent (content : Content) (source : String) :
    FailsOnly LoadError.IsDeclared (ofContent content source).outcome := by
  unfold ofContent
  split
  next => exact .ok _
  next => exact .error trivial

theorem failsOnly_choose (file url : String) :
    FailsOnly LoadError.IsDeclared (Origin.choose file url).outcome := by
  unfold Origin.choose
  split
  next => exact .error trivial
  next => exact .error trivial
  next => exact .ok _
  next => exact .ok _

/-- A failure for a file is declared, unless its path cannot be asked for. -/
theorem failsOnly_ofFile (files : FileSystem) (path : Path) :
    FailsOnly (fun e => e.IsDeclared ∨ ∃ pe, e = .unusable pe ∧ pe.fault.preventsAsking = true)
      (ofFile files path).outcome := by
  refine FailsOnly.outcome_bind ?_ fun found => ?_
  · refine FailsOnly.mapError (P := fun pe => pe.fault.preventsAsking = true)
      (fun _ => preventsAsking_of_hasPath) ?_
    exact fun pe hpe => .inr ⟨pe, rfl, hpe⟩
  · split
    next => exact .error (.inl trivial)
    next =>
      extract_lets rest
      have hrest : ∀ u, FailsOnly (fun e => e.IsDeclared ∨ ∃ pe, e = .unusable pe ∧
          pe.fault.preventsAsking = true) (rest u).outcome := by
        intro u
        simp only [rest]
        split
        next => exact .error (.inl trivial)
        next content _ =>
          refine FailsOnly.outcome_bind ?_ fun _ => .ok _
          exact fun e he => .inl (failsOnly_ofContent content path.text e he)
      split
      next => exact FailsOnly.outcome_bind (FailsOnly.ok ()) hrest
      next => exact hrest ()

/-- Whatever answers or does not, a failure is declared. -/
theorem failsOnly_ofReply (url : String) (reply : Reply) :
    FailsOnly LoadError.IsDeclared (ofReply url reply).outcome := by
  cases reply with
  | timeout => exact .error trivial
  | noConnection reason => exact .error trivial
  | failure reason => exact .error trivial
  | answer status contentType content =>
    have hread : FailsOnly LoadError.IsDeclared (do
        let document ← ofContent content url
        note .info ("Successfully loaded sdef from " ++ url)
        return document : Run LoadError Document).outcome :=
      FailsOnly.outcome_bind (failsOnly_ofContent content url) fun _ => .ok _
    unfold ofReply
    dsimp only
    split
    next => exact .error trivial
    next =>
      split
      next => exact FailsOnly.outcome_bind (FailsOnly.ok ()) fun _ => hread
      next => exact hread

/-- A failure for an address is declared, unless the address is refused. -/
theorem failsOnly_ofAddress (reply : Reply) (url : String) :
    FailsOnly (fun e => e.IsDeclared ∨ e = .refusedAddress ∧ Address.read? url = none)
      (ofAddress reply url).outcome := by
  unfold ofAddress
  split
  next hread => exact .error (.inr ⟨rfl, hread⟩)
  next =>
    split
    next => exact fun e he => .inl (failsOnly_ofReply url reply e he)
    next => exact .error (.inl trivial)

/-- How loading can fail without the failure being declared. -/
inductive IsUndeclared (file url : String) : LoadError → Prop where
  /-- It cannot be asked for the path of the file. -/
  | unusable {e : PathError} (hfile : file.isEmpty = false)
      (hfault : e.fault.preventsAsking = true) :
      IsUndeclared file url (.unusable e)
  /-- The address is refused. -/
  | refusedAddress (hfile : file.isEmpty = true) (hurl : Address.read? url = none) :
      IsUndeclared file url .refusedAddress

theorem choose_eq_ok {file url : String} {origin : Origin}
    (h : (Origin.choose file url).outcome = .ok origin) :
    (file.isEmpty = false ∧ origin = .file (.ofString file)) ∨
      (file.isEmpty = true ∧ origin = .address url) := by
  unfold Origin.choose at h
  split at h
  next => exact absurd h (by simp)
  next => exact absurd h (by simp)
  next hfile _ => exact .inl ⟨hfile, (Except.ok.inj h).symm⟩
  next hfile _ => exact .inr ⟨hfile, (Except.ok.inj h).symm⟩

/-- **A document that cannot be had where it was to be is declared so**, unless its path or its
address cannot be used. -/
theorem failsOnly_fetch (around : Surroundings) {file url : String} {origin : Origin}
    (h : (Origin.choose file url).outcome = .ok origin) :
    FailsOnly (fun e => e.IsDeclared ∨ IsUndeclared file url e) (origin.fetch around).outcome := by
  rcases choose_eq_ok h with ⟨hfile, rfl⟩ | ⟨hfile, rfl⟩
  · intro e he
    refine (failsOnly_ofFile around.files (.ofString file) e he).imp_right ?_
    rintro ⟨pe, rfl, hfault⟩
    exact .unusable hfile hfault
  · intro e he
    refine (failsOnly_ofAddress around.reply url e he).imp_right ?_
    rintro ⟨rfl, hurl⟩
    exact .refusedAddress hfile hurl

theorem failsOnly_load (around : Surroundings) (file url : String) :
    FailsOnly (fun e => e.IsDeclared ∨ IsUndeclared file url e) (load around file url).outcome := by
  intro e he
  unfold load at he
  cases horigin : (Origin.choose file url).outcome with
  | error e' =>
    rw [Run.outcome_bind, horigin] at he
    exact Except.error.inj he ▸ .inl (failsOnly_choose file url e' horigin)
  | ok origin =>
    rw [Run.outcome_bind, horigin, ok_bind] at he
    refine FailsOnly.outcome_bind (x := origin.announce) ?_
      (fun _ => failsOnly_fetch around horigin) e he
    cases origin with
    | file path => exact .ok ()
    | address url => exact .ok ()

end Document

/-! ## §2. Dictionaries. -/

/-- A catalog is found, unless the path of the standard file cannot be asked for. -/
theorem Catalog.failsOnly_resolve (files : FileSystem) (settings : Catalog.Settings)
    (root : Markup.Element) (suites : List Dictionary.Suite) :
    FailsOnly (fun e => ∃ pe, e = .unusable pe ∧ pe.fault.preventsAsking = true)
      (Catalog.resolve files settings root suites).outcome := by
  have hload : FailsOnly (fun e => ∃ pe, e = .unusable pe ∧ pe.fault.preventsAsking = true)
      (Catalog.loadStandard files settings {}).outcome := by
    refine FailsOnly.outcome_bind ?_ fun found => ?_
    · refine FailsOnly.mapError (P := fun pe => pe.fault.preventsAsking = true)
        (fun _ => preventsAsking_of_hasPath) ?_
      exact fun pe hpe => ⟨pe, rfl, hpe⟩
    · split
      next => exact .ok _
      next =>
        refine FailsOnly.outcome_bind (.ok _) fun attempted => ?_
        split
        next => exact .ok _
        next => exact .ok _
  unfold Catalog.resolve
  extract_lets finish
  have hfinish : ∀ c, FailsOnly (fun e => ∃ pe, e = .unusable pe ∧ pe.fault.preventsAsking = true)
      (finish c).outcome := by
    intro c
    simp only [finish]
    split
    next => exact .ok _
    next => exact .ok _
  split
  next => exact FailsOnly.outcome_bind (.ok _) hfinish
  next =>
    exact FailsOnly.outcome_bind (FailsOnly.ok ()) fun _ => FailsOnly.outcome_bind hload hfinish

/-- A dictionary is built from a document, unless the place of the standard definitions is none or
cannot be asked for. -/
theorem Build.failsOnly_ofDocument (files : FileSystem) (settings : BuildSettings)
    (document : Document) :
    FailsOnly (fun e => e = .notAPath ∧ settings.catalog? = none ∨
      ∃ pe, e = .load (.unusable pe) ∧ pe.fault.preventsAsking = true)
      (Build.ofDocument files settings document).outcome := by
  refine FailsOnly.outcome_bind (FailsOnly.ok ()) fun _ => ?_
  refine FailsOnly.outcome_bind (.ok _) fun suites => ?_
  split
  next hplace => exact .error (.inl ⟨rfl, hplace⟩)
  next place _ =>
    refine FailsOnly.outcome_bind ?_ fun _ => .ok _
    refine (Catalog.failsOnly_resolve files place document.root suites).mapError ?_
    rintro e ⟨pe, rfl, hfault⟩
    exact .inr ⟨pe, rfl, hfault⟩

end ScriptingBindings
