/-
  ScriptingBindings.Proofs.FileSystem.Changes
  ──────────────────────────────────
  **WHAT A CHANGE LEAVES ALONE.**

  A write changes one place, where no directory is.  Making directories adds
  directories, and only on the way to the one that is wanted.  Everything else
  stays, and so do the terms, so a chain of changes is known by the places that
  it touches.

      writeWith p f  →  entry at p.place = f (content before), all else as before

  Two file systems that differ in the contents of some files at most have the
  same paths: a path leads to the same place in both, and there is something
  in both or in neither.  What is read there is the same unless it is one of
  these files.
-/
import ScriptingBindings.Proofs.FileSystem.Places

namespace ScriptingBindings.FileSystem

variable {fs fs' fs'' : FileSystem} {l l' : Location} {p : Path} {P Q : Location → Prop}

/-! ## §1. Agreement. -/

/-- Every place but those of some kind has what it had. -/
def AgreeBut (P : Location → Prop) (before after : FileSystem) : Prop :=
  ∀ l, ¬ P l → after.entry? l = before.entry? l

theorem AgreeBut.refl (P : Location → Prop) (fs : FileSystem) : AgreeBut P fs fs :=
  fun _ _ => rfl

theorem AgreeBut.trans (h : AgreeBut P fs fs') (h' : AgreeBut P fs' fs'') : AgreeBut P fs fs'' :=
  fun l hl => (h' l hl).trans (h l hl)

theorem AgreeBut.mono (h : AgreeBut P fs fs') (hPQ : ∀ l, P l → Q l) : AgreeBut Q fs fs' :=
  fun l hl => h l (fun hP => hl (hPQ l hP))

/-! ## §2. One place. -/

/-- Replacing the entries of one place leaves the others. -/
theorem lookup_map_ite (entries : List (Location × Entry)) (e : Entry) :
    (entries.map fun old => if old.1 = l then (l, e) else old).lookup l' =
      if l' = l then (entries.lookup l).map (fun _ => e) else entries.lookup l' := by
  induction entries with
  | nil => simp
  | cons old rest ih =>
    obtain ⟨place, entry⟩ := old
    rw [List.map_cons, List.lookup_cons, List.lookup_cons, List.lookup_cons, ih]
    by_cases hold : place = l
    · subst hold
      by_cases hl : l' = place
      · simp [hl]
      · simp [hl, beq_false_of_ne hl]
    · by_cases hl : l' = l
      · subst hl
        simp [hold, beq_false_of_ne (Ne.symm hold)]
      · simp [hold, hl]

/-- What is put at a place is there, and nothing else changes. -/
theorem entry?_put (e : Entry) (hl : l.isGiven = false) :
    entry? (fs.put l e) l' = if l' = l then some e else fs.entry? l' := by
  unfold entry? put
  dsimp only
  by_cases hgiven : l'.isGiven = true
  · have hne : l' ≠ l := by
      rintro rfl
      exact absurd (hgiven.symm.trans hl) (by simp)
    simp [hgiven, hne]
  · rw [if_neg hgiven, if_neg hgiven]
    cases hfound : fs.entries.lookup l with
    | some old => simp [lookup_map_ite, hfound]
    | none =>
      simp only [Option.isSome_none, Bool.false_eq_true, if_false, List.lookup_append]
      by_cases hl' : l' = l
      · simp [hl', hfound]
      · have hother : (l' == l) = false := beq_false_of_ne hl'
        simp [hl', List.lookup_cons, hother]

/-- The root and the working directory are directories already. -/
theorem isGiven_eq_false (h : fs.entry? l ≠ some .directory) : l.isGiven = false := by
  cases hgiven : l.isGiven with
  | false => rfl
  | true => exact absurd (if_pos hgiven) h

/-- What is put where nothing is, is put where it may be. -/
theorem putNew_eq_ok {e : Entry} :
    fs.putNew l e = .ok fs' ↔
      fs.bars l .write = false ∧ fs.bars l.back .write = false ∧ fs.put l e = fs' := by
  unfold putNew
  cases fs.bars l .write with
  | true => simp
  | false =>
    cases fs.bars l.back .write with
    | true => simp
    | false => simp

/-! ## §3. Writing. -/

/-- What the file at a place holds. -/
def contentAt? (fs : FileSystem) (l : Location) : Option Content :=
  match fs.entry? l with
  | some (.file content) => some content
  | _ => none

/-- A path leads to a file, which holds some content. -/
structure IsFile (fs : FileSystem) (p : Path) (content : Content) : Prop where
  found : fs.locate p = .ok p.place
  entry : fs.entry? p.place = some (.file content)

/-- A file was written: its path leads to a place that may be written and where no directory was,
the file holds the content, and every other place is as it was. -/
structure IsWritten (p : Path) (content : Content) (before after : FileSystem) : Prop where
  found : before.locate p = .ok p.place
  granted : before.bars p.place .write = false
  free : before.entry? p.place ≠ some .directory
  entry : after.entry? p.place = some (.file content)
  others : AgreeBut (· = p.place) before after
  terms : after.terms = before.terms

theorem isWritten_put (hfound : fs.locate p = .ok p.place)
    (hgranted : fs.bars p.place .write = false) (hfree : fs.entry? p.place ≠ some .directory)
    (content : Content) : IsWritten p content fs (fs.put p.place (.file content)) where
  found := hfound
  granted := hgranted
  free := hfree
  terms := rfl
  entry := by rw [entry?_put _ (isGiven_eq_false hfree), if_pos rfl]
  others := fun l hne => by rw [entry?_put _ (isGiven_eq_false hfree), if_neg hne]

/-- **A write changes its own file alone**, of which it makes the new content from the old one. -/
theorem isWritten_of_writeWith {revise : Option Content → Content}
    (h : fs.writeWith p revise = .ok fs') :
    IsWritten p (revise (fs.contentAt? p.place)) fs fs' := by
  unfold writeWith at h
  obtain ⟨l, hl, h⟩ := bind_eq_ok.mp h
  obtain rfl := place_of_locate hl
  unfold contentAt?
  cases hentry : fs.entry? p.place with
  | none =>
    rw [hentry] at h
    obtain ⟨hgranted, -, rfl⟩ := putNew_eq_ok.mp (mapError_eq_ok.mp h)
    exact isWritten_put hl hgranted (by simp [hentry]) (revise none)
  | some e =>
    rw [hentry] at h
    cases e with
    | directory => exact absurd h (by simp)
    | file content =>
      cases hgranted : fs.bars p.place .write with
      | true =>
        simp only [hgranted, if_true] at h
        exact absurd h (by simp)
      | false =>
        simp only [hgranted, Bool.false_eq_true, if_false] at h
        exact Except.ok.inj h ▸ isWritten_put hl hgranted (by simp [hentry]) (revise (some content))

/-- A file that is found can be written, unless its place is barred. -/
theorem IsFile.exists_writeWith {content : Content} (h : IsFile fs p content)
    (hgranted : fs.bars p.place .write = false) (revise : Option Content → Content) :
    ∃ fs', fs.writeWith p revise = .ok fs' := by
  unfold writeWith
  rw [h.found, ok_bind, h.entry]
  simp only [hgranted, Bool.false_eq_true, if_false]
  exact ⟨_, rfl⟩

/-- A file that is found is there. -/
theorem IsFile.hasPath {content : Content} (h : IsFile fs p content) :
    fs.hasPath p = .ok true := by
  unfold FileSystem.hasPath
  simp only [h.found, h.entry, Option.isSome_some]

/-- A file that is found can be read, unless its place is barred. -/
theorem IsFile.read_eq {content : Content} (h : IsFile fs p content) :
    fs.read p = if fs.bars p.place .read = true then .error ⟨.denied, p⟩ else .ok content := by
  unfold FileSystem.read
  rw [h.found, ok_bind, h.entry]
  rfl

namespace IsWritten

variable {content : Content}

theorem keepsDirectories (h : IsWritten p content fs fs') : KeepsDirectories fs fs' where
  terms := h.terms
  directories := fun l hl => by rw [h.others l (fun he => h.free (he ▸ hl)), hl]

/-- What was written is in the file. -/
theorem isFile (h : IsWritten p content fs fs') : IsFile fs' p content where
  found := h.keepsDirectories.locate h.found
  entry := h.entry

end IsWritten

/-! ## §4. Making directories. -/

/-- Directories are added on the way to a path, and nothing else changes. -/
structure AddsDirectories (p : Path) (before after : FileSystem) : Prop where
  terms : after.terms = before.terms
  places : ∀ l, after.entry? l = before.entry? l ∨
    (p.LeadsThrough l ∧ before.entry? l = none ∧ after.entry? l = some .directory)

theorem AddsDirectories.refl (p : Path) (fs : FileSystem) : AddsDirectories p fs fs :=
  ⟨rfl, fun _ => .inl rfl⟩

theorem AddsDirectories.trans (h : AddsDirectories p fs fs') (h' : AddsDirectories p fs' fs'') :
    AddsDirectories p fs fs'' := by
  refine ⟨h'.terms.trans h.terms, fun l => ?_⟩
  rcases h'.places l with hsame' | ⟨hway, hnone, hdirectory⟩
  · rw [hsame']
    exact h.places l
  · rcases h.places l with hsame | ⟨_, _, hdirectory'⟩
    · exact .inr ⟨hway, hsame ▸ hnone, hdirectory⟩
    · exact absurd (hnone.symm.trans hdirectory') (by simp)

theorem AddsDirectories.keepsDirectories (h : AddsDirectories p fs fs') :
    KeepsDirectories fs fs' := by
  refine ⟨h.terms, fun l hl => ?_⟩
  rcases h.places l with hsame | ⟨-, hnone, -⟩
  · rw [hsame, hl]
  · exact absurd (hnone.symm.trans hl) (by simp)

theorem addsDirectories_of_makeAt (hl : p.LeadsThrough l) (h : fs.makeAt l = .ok fs') :
    AddsDirectories p fs fs' := by
  unfold makeAt at h
  cases hentry : fs.entry? l with
  | none =>
    rw [hentry] at h
    obtain ⟨-, -, rfl⟩ := putNew_eq_ok.mp h
    have hfree : fs.entry? l ≠ some .directory := by simp [hentry]
    refine ⟨rfl, fun l' => ?_⟩
    rw [entry?_put _ (isGiven_eq_false hfree)]
    split
    next hl' => exact .inr ⟨hl' ▸ hl, hl' ▸ hentry, rfl⟩
    next => exact .inl rfl
  | some e =>
    rw [hentry] at h
    cases e with
    | directory => exact Except.ok.inj h ▸ .refl p fs
    | file content => exact absurd h (by simp)

/-- The chain goes on with the parts that follow some of the path, from where those lead. -/
theorem addsDirectories_of_makeChain (before : List String) {parts : List String} {n : Nat}
    (hparts : before ++ parts = p.parts)
    (h : fs.makeChain p (Path.mk p.root before).place n parts = .ok fs') :
    AddsDirectories p fs fs' := by
  induction parts generalizing fs before n with
  | nil => exact Except.ok.inj h ▸ .refl p fs
  | cons part rest ih =>
    rw [makeChain] at h
    obtain ⟨inner, hstep, h⟩ := bind_eq_ok.mp h
    obtain ⟨made, hmade, h⟩ := bind_eq_ok.mp h
    have hinner : (Path.mk p.root (before ++ [part])).place = inner := by
      rw [← (step_eq_ok.mp (mapError_eq_ok.mp hstep)).2.2.2]
      exact List.foldl_append ..
    have hthrough : p.LeadsThrough inner :=
      ⟨before ++ [part], ⟨rest, by rw [List.append_assoc]; exact hparts⟩, hinner⟩
    have hrest : (before ++ [part]) ++ rest = p.parts := by
      rw [List.append_assoc]
      exact hparts
    rw [← hinner] at h
    exact (addsDirectories_of_makeAt hthrough (mapError_eq_ok.mp hmade)).trans (ih _ hrest h)

/-- **Making directories adds directories on the way, and does nothing else.** -/
theorem addsDirectories_of_makeDirectories [Machine] (h : fs.makeDirectories p = .ok fs') :
    AddsDirectories p fs fs' := by
  unfold makeDirectories at h
  cases hl : fs.locate p with
  | ok l =>
    rw [hl] at h
    exact addsDirectories_of_makeAt (place_of_locate hl ▸ p.leadsThrough_place)
      (mapError_eq_ok.mp h)
  | error e =>
    rw [hl] at h
    dsimp only at h
    split at h
    next => exact absurd h (by simp)
    next =>
      split at h
      next => exact absurd h (by simp)
      next => exact addsDirectories_of_makeChain [] rfl h

/-! ## §5. Reading beside a file that grows. -/

/-- Two file systems differ in what files at places of some kind hold at most. -/
structure SameButContents (P : Location → Prop) (fs fs' : FileSystem) : Prop where
  terms : fs.terms = fs'.terms
  places : ∀ l, fs.entry? l = fs'.entry? l ∨
    (P l ∧ ∃ content content', fs.entry? l = some (.file content) ∧
      fs'.entry? l = some (.file content'))

namespace SameButContents

theorem bars_eq (h : SameButContents P fs fs') (l : Location) (access : Access) :
    fs.bars l access = fs'.bars l access := by
  rw [bars, h.terms, bars]

theorem step_eq (h : SameButContents P fs fs') (l : Location) (part : String) :
    fs.step l part = fs'.step l part := by
  unfold step
  rw [h.bars_eq, h.terms]
  rcases h.places l with hsame | ⟨-, content, content', hfirst, hsecond⟩
  · rw [hsame]
  · rw [hfirst, hsecond]

theorem locate_eq (h : SameButContents P fs fs') (p : Path) : fs.locate p = fs'.locate p := by
  unfold locate
  rw [h.terms, show fs.step = fs'.step from funext fun l => funext fun part => h.step_eq l part]

theorem hasPath_eq (h : SameButContents P fs fs') (p : Path) : fs.hasPath p = fs'.hasPath p := by
  unfold hasPath
  rw [h.locate_eq p]
  cases fs'.locate p with
  | error e => rfl
  | ok l =>
    rcases h.places l with hsame | ⟨-, content, content', hfirst, hsecond⟩
    · simp only [hsame]
    · simp only [hfirst, hsecond, Option.isSome_some]

/-- **What is read at a path is the same**, unless it is a file whose content may differ. -/
theorem read_eq (h : SameButContents P fs fs') {p : Path} (hp : ¬ P p.place) :
    fs.read p = fs'.read p := by
  unfold read
  rw [h.locate_eq p]
  cases hlocate : fs'.locate p with
  | error e => rfl
  | ok l =>
    obtain rfl := place_of_locate hlocate
    rcases h.places p.place with hsame | ⟨hP, -⟩
    · rw [ok_bind, ok_bind, hsame, h.bars_eq]
    · exact absurd hP hp

end SameButContents

/-- A file that is read is there. -/
theorem hasPath_of_read {content : Content}
    (h : fs.read p = .ok content) : fs.hasPath p = .ok true := by
  unfold read at h
  obtain ⟨l, hlocate, h⟩ := bind_eq_ok.mp h
  unfold hasPath
  rw [hlocate]
  cases hentry : fs.entry? l with
  | none => rw [hentry] at h; exact absurd h (by simp)
  | some e => simp [hentry]

end ScriptingBindings.FileSystem
