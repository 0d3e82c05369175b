/-
  ScriptingBindings.Proofs.Command.Steps
  ──────────────────────────────────
  **STEPS OF A RUN.**

  A step starts in a session and ends in one, with a result or a failure.  Two
  steps succeed where the first one does and the second one does after it.

  Most steps are quiet: they print, and leave records in the file for the
  records, and change no other place.  Quiet steps one after the other are
  quiet.  What the steps fail with, and what the last of them returns, carries
  over to steps one after the other in the same way.
-/
import ScriptingBindings.Command.Run
import ScriptingBindings.Proofs.Failure
import ScriptingBindings.Proofs.FileSystem.Changes

namespace ScriptingBindings.Command

open FileSystem

variable {α β : Type}

/-! ## §1. How a step ends. -/

namespace Step

/-- The outcome of a step in a session, and the session after it. -/
def after (x : Step α) (s : Session) : Except Failure α × Session :=
  (x.start s).value

variable {s s' : Session}

@[simp] theorem after_pure (a : α) : after (pure a : Step α) s = (.ok a, s) := rfl

@[simp] theorem after_throw (e : Failure) : after (throw e : Step α) s = (.error e, s) := rfl

@[simp] theorem after_ofExcept {ε : Type} (f : ε → Failure) (x : Except ε α) :
    after (ofExcept f x) s = (x.mapError f, s) := rfl

@[simp] theorem after_files : after files s = (.ok s.files, s) := rfl

@[simp] theorem after_printRaw (text : String) :
    after (printRaw text) s = (.ok (), { s with printed := s.printed ++ text }) := rfl

theorem after_ofRun {ε : Type} (f : ε → Failure) (x : Run ε α) :
    after (ofRun f x) s = (x.outcome.mapError f, s.keep x.logged.log) := by
  show (x.outcome.mapError f, s.keep (x.logged.log ++ [])) = _
  rw [List.append_nil]

theorem after_ofRun_ok {ε : Type} {f : ε → Failure} {x : Run ε α} {r : α}
    (h : x.outcome = .ok r) : after (ofRun f x) s = (.ok r, s.keep x.logged.log) := by
  rw [after_ofRun, h]
  rfl

theorem after_ofLogged (x : Logged α) : after (ofLogged x) s = (.ok x.value, s.keep x.log) := by
  rw [ofLogged, after_ofRun, Run.outcome_ofLogged]
  show (Except.ok x.value, s.keep (x.log ++ [])) = _
  rw [List.append_nil]

theorem after_change {ε : Type} (f : ε → Failure)
    (act : FileSystem → Logged (FileSystem × Except ε α)) :
    after (change f act) s = ((act s.files).value.2.mapError f,
      { s with files := (act s.files).value.1 }.keep (act s.files).log) := by
  show ((act s.files).value.2.mapError f,
    Session.keep { s with files := (act s.files).value.1 } ((act s.files).log ++ [])) = _
  rw [List.append_nil]

/-- A step after another one, which may have failed. -/
theorem after_bind (x : Step α) (f : α → Step β) :
    after (x >>= f) s = match after x s with
      | (.ok a, s') => after (f a) s'
      | (.error e, s') => (.error e, s') := by
  show ((ExceptT.bindCont f (after x s).1).run (after x s).2).value = _
  cases after x s with
  | mk outcome s' =>
    cases outcome with
    | ok a => rfl
    | error e => rfl

theorem after_bind_ok {x : Step α} {f : α → Step β} {a : α} (h : after x s = (.ok a, s')) :
    after (x >>= f) s = after (f a) s' := by
  rw [after_bind, h]

theorem after_bind_error {x : Step α} {f : α → Step β} {e : Failure}
    (h : after x s = (.error e, s')) : after (x >>= f) s = (.error e, s') := by
  rw [after_bind, h]

theorem after_bind_congr {x : Step α} {f g : α → Step β}
    (h : ∀ r s', after (f r) s' = after (g r) s') : after (x >>= f) s = after (x >>= g) s := by
  rw [after_bind, after_bind]
  cases after x s with
  | mk outcome s' =>
    cases outcome with
    | ok r => exact h r s'
    | error e => rfl

theorem after_bind_assoc {γ : Type} (x : Step α) (f : α → Step β) (g : β → Step γ) :
    after (x >>= f >>= g) s = after (x >>= fun r => f r >>= g) s := by
  rw [after_bind, after_bind, after_bind]
  cases after x s with
  | mk outcome s' =>
    cases outcome with
    | ok r => exact (after_bind (f r) g).symm
    | error e => rfl

/-- Two steps succeed where the first one does and the second one does after it. -/
theorem after_bind_eq_ok {x : Step α} {f : α → Step β} {b : β} :
    after (x >>= f) s = (.ok b, s') ↔
      ∃ a between, after x s = (.ok a, between) ∧ after (f a) between = (.ok b, s') := by
  rw [after_bind]
  cases after x s with
  | mk outcome between =>
    cases outcome with
    | ok a =>
      constructor
      · intro h
        exact ⟨a, between, rfl, h⟩
      · rintro ⟨a', between', heq, h⟩
        cases heq
        exact h
    | error e => simp

/-- Two steps fail where the first one does, or where the second one does after it. -/
theorem after_bind_eq_error {x : Step α} {f : α → Step β} {e : Failure} :
    after (x >>= f) s = (.error e, s') ↔ after x s = (.error e, s') ∨
      ∃ a between, after x s = (.ok a, between) ∧ after (f a) between = (.error e, s') := by
  rw [after_bind]
  cases after x s with
  | mk outcome between =>
    cases outcome with
    | ok a =>
      constructor
      · intro h
        exact .inr ⟨a, between, rfl, h⟩
      · rintro (heq | ⟨a', between', heq, h⟩)
        · cases heq
        · cases heq
          exact h
    | error e' => simp

theorem after_ofExcept_eq_ok {ε : Type} {f : ε → Failure} {x : Except ε α} {a : α} :
    after (ofExcept f x) s = (.ok a, s') ↔ x = .ok a ∧ s = s' := by
  rw [after_ofExcept, Prod.mk.injEq, mapError_eq_ok]

/-- A change that succeeds gives the next session its files, and then leaves its records. -/
theorem change_eq_ok {ε : Type} {f : ε → Failure}
    {act : FileSystem → Logged (FileSystem × Except ε α)} {a : α}
    (h : after (change f act) s = (.ok a, s')) :
    ∃ fs, (act s.files).value = (fs, .ok a) ∧
      s' = { s with files := fs }.keep (act s.files).log := by
  rw [after_change, Prod.mk.injEq, mapError_eq_ok] at h
  exact ⟨_, Prod.ext rfl h.1, h.2.symm⟩

end Step

/-! ## §2. The file for the records. -/

/-- A record that is taken has a line of its own. -/
theorem Sink.lines_cons {k : Sink} {r : Record} (h : k.level.rank ≤ r.level.rank)
    (records : List Record) : k.lines (r :: records) = r.line ++ "\n" ++ k.lines records := by
  simp only [lines, List.filter_cons, h, decide_true, if_true, List.map_cons, String.join_cons]

/-- The place of the file for the records, if there is one. -/
def IsLogPlace (sink : Option Sink) (l : Location) : Prop :=
  ∃ k, sink = some k ∧ k.path.place = l

/-- What records add to the file at a place: their lines, if it is the file for the records. -/
def linesAt (sink : Option Sink) (l : Location) (records : List Record) : String :=
  match sink with
  | none => ""
  | some k => if k.path.place = l then k.lines records else ""

theorem linesAt_nil (sink : Option Sink) (l : Location) : linesAt sink l [] = "" := by
  unfold linesAt
  split
  next => rfl
  next => split <;> rfl

theorem linesAt_append (sink : Option Sink) (l : Location) (records more : List Record) :
    linesAt sink l (records ++ more) = linesAt sink l records ++ linesAt sink l more := by
  unfold linesAt
  split
  next => rfl
  next =>
    split
    next => simp only [Sink.lines, List.filter_append, List.map_append, String.join_append]
    next => rfl

theorem linesAt_of_not_isLogPlace {sink : Option Sink} {l : Location} (h : ¬ IsLogPlace sink l)
    (records : List Record) : linesAt sink l records = "" := by
  unfold linesAt
  split
  next => rfl
  next k => exact if_neg fun hl => h ⟨k, rfl, hl⟩

namespace Session

/-- The file at a place holds some content and behind it what records have added. -/
def Holds (s : Session) (l : Location) (content : Content) (records : List Record) : Prop :=
  s.files.entry? l = some (.file (content.append (linesAt s.sink l records)))

/-- The file for the records can be found and written. -/
def IsOpen (s : Session) : Prop :=
  ∀ k, s.sink = some k → s.files.locate k.path = .ok k.path.place ∧
    s.files.bars k.path.place .write = false

/-- Places of one kind were changed.  Elsewhere files hold what they held, to which records may
have been added; the directories are still there. -/
structure ChangesOnly (P : Location → Prop) (s s' : Session) : Prop where
  sink : s'.sink = s.sink
  files : AgreeBut (fun l => P l ∨ IsLogPlace s.sink l) s.files s'.files
  contents : ∀ l content records, ¬ P l → s.Holds l content records →
    ∃ more, s'.Holds l content (records ++ more)
  directories : KeepsDirectories s.files s'.files

/-- No place was changed but that of the file for the records. -/
abbrev Keeps (s s' : Session) : Prop := ChangesOnly (fun _ => False) s s'

variable {s s' s'' : Session} {P Q : Location → Prop}

namespace ChangesOnly

theorem refl (s : Session) : ChangesOnly P s s where
  sink := rfl
  files := .refl _ _
  contents := fun l content records _ h => ⟨[], by rwa [List.append_nil]⟩
  directories := .refl _

theorem trans (h : ChangesOnly P s s') (h' : ChangesOnly P s' s'') : ChangesOnly P s s'' where
  sink := h'.sink.trans h.sink
  files := h.files.trans (h.sink ▸ h'.files)
  contents := by
    intro l content records hl ht
    obtain ⟨more, ht⟩ := h.contents l content records hl ht
    obtain ⟨more', ht⟩ := h'.contents l content (records ++ more) hl ht
    exact ⟨more ++ more', List.append_assoc records more more' ▸ ht⟩
  directories := h.directories.trans h'.directories

theorem mono (h : ChangesOnly P s s') (hPQ : ∀ l, P l → Q l) : ChangesOnly Q s s' where
  sink := h.sink
  files := h.files.mono fun l => .imp_left (hPQ l)
  contents := fun l content records hl => h.contents l content records fun hP => hl (hPQ l hP)
  directories := h.directories

theorem isOpen (h : ChangesOnly P s s') (ho : s.IsOpen) : s'.IsOpen :=
  fun k hk => (ho k (h.sink ▸ hk)).imp h.directories.locate (h.directories.bars_eq _ _).trans

end ChangesOnly

theorem Keeps.files (h : s.Keeps s') : AgreeBut (IsLogPlace s.sink) s.files s'.files :=
  (ChangesOnly.files h).mono fun _ hl => hl.elim False.elim id

theorem keeps_printed (s : Session) (printed : String) : s.Keeps { s with printed := printed } where
  sink := rfl
  files := .refl _ _
  contents := fun _ _ _ _ h => ⟨[], by rwa [List.append_nil]⟩
  directories := .refl _

/-- A file that is written at a place changes that place. -/
theorem changesOnly_write {p : Path} {content : Content} {fs : FileSystem}
    (h : IsWritten p content s.files fs) : ChangesOnly (· = p.place) s { s with files := fs } where
  sink := rfl
  files := h.others.mono fun _ => .inl
  contents := fun l _ _ hl hentry => ⟨[], by rw [List.append_nil]; exact (h.others l hl).trans hentry⟩
  directories := h.keepsDirectories

/-- Records go to their file alone: it takes them at its end, unless it cannot be written. -/
theorem keep_cases (s : Session) (records : List Record) :
    (s.keep records = s ∧
      ∀ k, s.sink = some k → ∃ e, s.files.append k.path (k.lines records) = .error e) ∨
      ∃ k fs, s.sink = some k ∧ s.keep records = { s with files := fs } ∧
        IsWritten k.path
          (((s.files.contentAt? k.path.place).getD (.text "")).append (k.lines records)) s.files
          fs := by
  cases hsink : s.sink with
  | none => exact .inl ⟨by rw [keep, hsink], fun _ h => absurd h (by simp)⟩
  | some k =>
    cases hfiles : s.files.append k.path (k.lines records) with
    | error e =>
      have htake : k.take s.files records = s.files := by rw [Sink.take, hfiles]
      refine .inl ⟨?_, fun k' hk' => Option.some.inj hk' ▸ ⟨e, hfiles⟩⟩
      rw [keep, hsink]
      dsimp only
      rw [htake, ← hsink]
    | ok fs =>
      have htake : k.take s.files records = fs := by rw [Sink.take, hfiles]
      refine .inr ⟨k, fs, rfl, ?_, isWritten_of_writeWith hfiles⟩
      rw [keep, hsink]
      dsimp only
      rw [htake]

/-- A file that takes records holds them behind what it held. -/
theorem holds_of_isWritten {k : Sink} {fs : FileSystem} {records : List Record}
    (hsink : s.sink = some k)
    (h : IsWritten k.path
      (((s.files.contentAt? k.path.place).getD (.text "")).append (k.lines records)) s.files fs)
    {l : Location} {content : Content} {before : List Record} (ht : s.Holds l content before) :
    Session.Holds { s with files := fs } l content (before ++ records) := by
  by_cases hl : l = k.path.place
  · subst hl
    have hcontent : s.files.contentAt? k.path.place
        = some (content.append (linesAt s.sink k.path.place before)) := by
      rw [contentAt?, show s.files.entry? k.path.place = _ from ht]
    have hlines : linesAt s.sink k.path.place records = k.lines records := by
      rw [hsink]
      exact if_pos rfl
    rw [Holds, h.entry, hcontent, Option.getD_some, linesAt_append, hlines,
      Content.append_append]
  · have hno : ¬ IsLogPlace s.sink l := by
      rintro ⟨k', hk', hplace⟩
      obtain rfl : k = k' := Option.some.inj (hsink.symm.trans hk')
      exact hl hplace.symm
    rw [Holds, h.others l hl, show s.files.entry? l = _ from ht, linesAt_append,
      linesAt_of_not_isLogPlace hno records, String.append_empty]

/-- Records that are left change no other file, and none that is there before them. -/
theorem keeps_keep (s : Session) (records : List Record) : s.Keeps (s.keep records) := by
  rcases s.keep_cases records with ⟨h, -⟩ | ⟨k, fs, hsink, h, hwritten⟩
  · rw [h]
    exact .refl s
  · rw [h]
    refine ⟨rfl, ?_, ?_, hwritten.keepsDirectories⟩
    · exact hwritten.others.mono fun l hl => .inr ⟨k, hsink, hl.symm⟩
    · exact fun l content before _ ht => ⟨records, holds_of_isWritten hsink hwritten ht⟩

/-- If their file can be found, records that are left are in it. -/
theorem holds_keep (ho : s.IsOpen) {l : Location} {content : Content} {before : List Record}
    (ht : s.Holds l content before) (records : List Record) :
    (s.keep records).Holds l content (before ++ records) := by
  rcases s.keep_cases records with ⟨h, hfailed⟩ | ⟨k, fs, hsink, h, hwritten⟩
  · -- Only a file that is not the one for the records can be left without them.
    have hno : ¬ IsLogPlace s.sink l := by
      rintro ⟨k, hsink, rfl⟩
      obtain ⟨e, he⟩ := hfailed k hsink
      obtain ⟨hfound, hgranted⟩ := ho k hsink
      obtain ⟨fs, hfs⟩ := IsFile.exists_writeWith ⟨hfound, ht⟩ hgranted fun old =>
        (old.getD (.text "")).append (k.lines records)
      exact absurd (hfs.symm.trans he) (by simp)
    rw [h, Holds, linesAt_append, linesAt_of_not_isLogPlace hno records, String.append_empty]
    exact ht
  · rw [h]
    exact holds_of_isWritten hsink hwritten ht

end Session

/-! ## §3. Quiet steps. -/

namespace Step

/-- A step that changes nothing but what was printed. -/
def OnlyPrints (x : Step α) : Prop :=
  ∀ s, ∃ printed, (after x s).2 = { s with printed := printed }

/-- A step that changes the file for the records at most. -/
def IsQuiet (x : Step α) : Prop :=
  ∀ s : Session, s.Keeps (after x s).2

namespace OnlyPrints

theorem pure (a : α) : OnlyPrints (Pure.pure a : Step α) := fun s => ⟨s.printed, rfl⟩

theorem throw (e : Failure) : OnlyPrints (MonadExcept.throw e : Step α) := fun s => ⟨s.printed, rfl⟩

theorem printRaw (text : String) : OnlyPrints (Step.printRaw text) :=
  fun s => ⟨s.printed ++ text, rfl⟩

theorem print (line : String) : OnlyPrints (Step.print line) := by
  unfold Step.print
  cases Console.shown line with
  | ok text => exact printRaw text
  | error e => exact throw (.text e)

theorem bind {x : Step α} {f : α → Step β} (hx : OnlyPrints x) (hf : ∀ a, OnlyPrints (f a)) :
    OnlyPrints (x >>= f) := by
  intro s
  obtain ⟨printed, hfirst⟩ := hx s
  cases hx' : after x s with
  | mk outcome s' =>
    rw [hx'] at hfirst
    obtain rfl : s' = { s with printed := printed } := hfirst
    cases outcome with
    | ok a =>
      rw [after_bind_ok hx']
      obtain ⟨more, hsecond⟩ := hf a { s with printed := printed }
      exact ⟨more, hsecond⟩
    | error e =>
      rw [after_bind_error hx']
      exact ⟨printed, rfl⟩

theorem printAll (lines : List String) : OnlyPrints (printAll lines) := by
  induction lines with
  | nil => exact pure ()
  | cons line rest ih => exact (print line).bind fun _ => ih

theorem printCode (results : OrderedMap Generated) : OnlyPrints (printCode results) := by
  induction results with
  | nil => exact pure ()
  | cons entry rest ih =>
    unfold Command.printCode
    split
    next => exact pure ()
    next => exact throw _
    next h =>
      cases h
      exact (printRaw _).bind fun _ => ih

theorem printMetadata (results : OrderedMap Generated) (basename : String) :
    OnlyPrints (printMetadata results basename) := by
  unfold Command.printMetadata
  split
  next => exact printRaw _
  next => exact pure ()

/-- What only prints leaves the files as they are. -/
theorem files_eq {x : Step α} (hx : OnlyPrints x) {s s' : Session} {outcome : Except Failure α}
    (h : after x s = (outcome, s')) : s'.files = s.files := by
  obtain ⟨printed, hprinted⟩ := hx s
  rw [h] at hprinted
  rw [show s' = { s with printed := printed } from hprinted]

theorem isQuiet {x : Step α} (hx : OnlyPrints x) : IsQuiet x := by
  intro s
  obtain ⟨printed, h⟩ := hx s
  rw [h]
  exact s.keeps_printed printed

end OnlyPrints

namespace IsQuiet

theorem pure (a : α) : IsQuiet (Pure.pure a : Step α) := fun s => .refl s

theorem throw (e : Failure) : IsQuiet (MonadExcept.throw e : Step α) := fun s => .refl s

theorem files : IsQuiet Step.files := fun s => .refl s

theorem ofExcept {ε : Type} (f : ε → Failure) (x : Except ε α) : IsQuiet (Step.ofExcept f x) :=
  fun s => .refl s

theorem ofRun {ε : Type} (f : ε → Failure) (x : Run ε α) : IsQuiet (Step.ofRun f x) := by
  intro s
  rw [after_ofRun]
  exact s.keeps_keep _

theorem ofLogged (x : Logged α) : IsQuiet (Step.ofLogged x) := ofRun id _

theorem bind {x : Step α} {f : α → Step β} (hx : IsQuiet x) (hf : ∀ a, IsQuiet (f a)) :
    IsQuiet (x >>= f) := by
  intro s
  have hfirst := hx s
  cases hx' : after x s with
  | mk outcome s' =>
    rw [hx'] at hfirst
    cases outcome with
    | ok a =>
      rw [after_bind_ok hx']
      exact hfirst.trans (hf a s')
    | error e =>
      rw [after_bind_error hx']
      exact hfirst

/-- The session after a quiet step. -/
theorem keeps {x : Step α} (hx : IsQuiet x) {s s' : Session} {outcome : Except Failure α}
    (h : after x s = (outcome, s')) : s.Keeps s' := by
  have hs := hx s
  rwa [h] at hs

end IsQuiet

/-! ## §4. Failures and results of steps. -/

/-- Every failure of a step, in whatever session, is one of some kind. -/
def OnlyFails (P : Failure → Prop) (x : Step α) : Prop :=
  ∀ s s' e, after x s = (.error e, s') → P e

namespace OnlyFails

variable {P : Failure → Prop} {ε : Type} {f : ε → Failure}

theorem pure (a : α) : OnlyFails P (Pure.pure a : Step α) :=
  fun _ _ _ h => absurd (congrArg Prod.fst h) (by simp)

theorem throw {e : Failure} (h : P e) : OnlyFails P (MonadExcept.throw e : Step α) :=
  fun _ _ _ he => Except.error.inj (congrArg Prod.fst he) ▸ h

theorem files : OnlyFails P Step.files :=
  fun _ _ _ h => absurd (congrArg Prod.fst h) (by simp)

theorem ofExcept {x : Except ε α} (h : FailsOnly (fun e => P (f e)) x) :
    OnlyFails P (Step.ofExcept f x) :=
  fun _ _ e he => h.mapError (fun _ => id) e (congrArg Prod.fst he)

theorem ofRun {x : Run ε α} (h : FailsOnly (fun e => P (f e)) x.outcome) :
    OnlyFails P (Step.ofRun f x) := by
  intro s s' e he
  rw [after_ofRun] at he
  exact h.mapError (fun _ => id) e (congrArg Prod.fst he)

theorem change {act : FileSystem → Logged (FileSystem × Except ε α)}
    (h : ∀ fs, FailsOnly (fun e => P (f e)) (act fs).value.2) :
    OnlyFails P (Step.change f act) := by
  intro s s' e he
  rw [after_change] at he
  exact (h s.files).mapError (fun _ => id) e (congrArg Prod.fst he)

theorem printRaw (text : String) : OnlyFails P (Step.printRaw text) :=
  fun _ _ _ h => absurd (congrArg Prod.fst h) (by simp)

theorem print {line : String} (h : FailsOnly (fun e => P (.text e)) (Console.shown line)) :
    OnlyFails P (Step.print line) := by
  unfold Step.print
  cases hline : Console.shown line with
  | ok text => exact printRaw text
  | error e => exact throw (h e hline)

/-- A step after another one, whose result is one that the first step can have. -/
theorem bind {x : Step α} {f : α → Step β} (hx : OnlyFails P x)
    (hf : ∀ s a s', after x s = (.ok a, s') → OnlyFails P (f a)) : OnlyFails P (x >>= f) := by
  intro s s' e h
  rcases after_bind_eq_error.mp h with h | ⟨a, between, ha, h⟩
  · exact hx s s' e h
  · exact hf s a between ha between s' e h

theorem printAll {lines : List String}
    (h : ∀ line ∈ lines, FailsOnly (fun e => P (.text e)) (Console.shown line)) :
    OnlyFails P (printAll lines) := by
  induction lines with
  | nil => exact pure ()
  | cons line rest ih =>
    obtain ⟨hline, hrest⟩ := List.forall_mem_cons.mp h
    exact (print hline).bind fun _ _ _ _ => ih hrest

end OnlyFails

/-- Every result of a step, in whatever session, is one of some kind. -/
def OnlyReturns (P : α → Prop) (x : Step α) : Prop :=
  ∀ s s' a, after x s = (.ok a, s') → P a

namespace OnlyReturns

variable {P : α → Prop}

theorem pure {a : α} (h : P a) : OnlyReturns P (Pure.pure a : Step α) :=
  fun _ _ _ ha => Except.ok.inj (congrArg Prod.fst ha) ▸ h

/-- The last step says what is returned. -/
theorem bind {x : Step β} {f : β → Step α} (hf : ∀ b, OnlyReturns P (f b)) :
    OnlyReturns P (x >>= f) := by
  intro s s' a h
  obtain ⟨b, between, -, h⟩ := after_bind_eq_ok.mp h
  exact hf b between s' a h

end OnlyReturns

end Step

end ScriptingBindings.Command
