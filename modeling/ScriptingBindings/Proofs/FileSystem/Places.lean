/-
  ScriptingBindings.Proofs.FileSystem.Places
  ──────────────────────────────────
  **PATHS AND PLACES.**

  What is there decides whether a path can be followed, not where it leads:

      locate fs p = .ok l  →  p.place = l

  So a path keeps its place as long as no directory on the way is lost, and
  two runs on different files write to the same places.
-/
import ScriptingBindings.FileSystem.Basic
import ScriptingBindings.Proofs.Success

namespace ScriptingBindings.FileSystem

/-! ## §1. Where a path leads. -/

/-- The place that a part leads to from another one. -/
def Location.enter (l : Location) (part : String) : Location :=
  if part = ".." then l.back else l.child part

/-- The place that a path leads to, if it can be followed. -/
def Path.place (p : Path) : Location :=
  p.parts.foldl Location.enter { fromRoot := p.isAbsolute }

/-- A place is where a path leads before its last parts. -/
def Path.LeadsThrough (p : Path) (l : Location) : Prop :=
  ∃ parts, parts <+: p.parts ∧ (Path.mk p.root parts).place = l

theorem Path.leadsThrough_place (p : Path) : p.LeadsThrough p.place :=
  ⟨p.parts, List.prefix_refl p.parts, rfl⟩

/-- Two names lead to two places. -/
theorem Location.child_inj {l : Location} {name other : String} :
    l.child name = l.child other ↔ name = other := by
  simp [child]

/-- A path below a directory leads on from the place of the directory. -/
theorem Path.place_join {p q : Path} (hq : q.isAbsolute = false) :
    (p.join q).place = q.parts.foldl Location.enter p.place := by
  rw [join, hq]
  exact List.foldl_append ..

/-! ## §2. Following a path. -/

variable {fs fs' : FileSystem} {l l' : Location} {p : Path}

/-- A step is taken from a directory that can be searched, to a name that is not too long. -/
theorem step_eq_ok {part : String} :
    fs.step l part = .ok l' ↔
      fs.entry? l = some .directory ∧ fs.bars l .search = false ∧
        (part = ".." ∨ part.utf8ByteSize ≤ fs.terms.longestName) ∧ l.enter part = l' := by
  unfold step Location.enter
  cases fs.entry? l with
  | none => simp
  | some e =>
    cases e with
    | file content => simp
    | directory =>
      cases fs.bars l .search with
      | true => simp
      | false =>
        by_cases hback : part = ".."
        · simp [hback]
        · by_cases hlong : fs.terms.longestName < part.utf8ByteSize
          · simp [hback, hlong, Nat.not_le.mpr hlong]
          · simp [hback, hlong, Nat.not_lt.mp hlong]

/-- A path is followed step by step, unless its text is no path or too long. -/
theorem locate_eq_ok :
    fs.locate p = .ok l ↔
      (p.parts.any fun part => part.toList.contains (Char.ofNat 0)) = false ∧
        p.text.utf8ByteSize ≤ fs.terms.longestPath ∧
          p.parts.foldlM fs.step { fromRoot := p.isAbsolute } = .ok l := by
  unfold locate
  cases (p.parts.any fun part => part.toList.contains (Char.ofNat 0)) with
  | true => simp
  | false =>
    rw [if_neg Bool.false_ne_true]
    split
    next hlong => simp [Nat.not_le.mpr hlong]
    next hlong => simp [mapError_eq_ok, Nat.not_lt.mp hlong]

theorem foldl_enter_of_foldlM_step {parts : List String} (h : parts.foldlM fs.step l = .ok l') :
    parts.foldl Location.enter l = l' := by
  induction parts generalizing l with
  | nil => exact Except.ok.inj h
  | cons part rest ih =>
    rw [List.foldlM_cons] at h
    obtain ⟨next, hstep, hrest⟩ := bind_eq_ok.mp h
    rw [List.foldl_cons, (step_eq_ok.mp hstep).2.2.2]
    exact ih hrest

/-- **A path that can be followed leads to its place.** -/
theorem place_of_locate (h : fs.locate p = .ok l) : p.place = l :=
  foldl_enter_of_foldlM_step (locate_eq_ok.mp h).2.2

/-! ## §3. Directories that stay. -/

/-- Every directory is still there, on the same terms. -/
structure KeepsDirectories (before after : FileSystem) : Prop where
  terms : after.terms = before.terms
  directories : ∀ l, before.entry? l = some .directory → after.entry? l = some .directory

theorem KeepsDirectories.refl (fs : FileSystem) : KeepsDirectories fs fs := ⟨rfl, fun _ h => h⟩

theorem KeepsDirectories.trans {fs'' : FileSystem} (h : KeepsDirectories fs fs')
    (h' : KeepsDirectories fs' fs'') : KeepsDirectories fs fs'' where
  terms := h'.terms.trans h.terms
  directories := fun l hl => h'.directories l (h.directories l hl)

/-- The same places are barred. -/
theorem KeepsDirectories.bars_eq (h : KeepsDirectories fs fs') (l : Location) (access : Access) :
    fs'.bars l access = fs.bars l access := by
  rw [bars, h.terms, bars]

theorem KeepsDirectories.foldlM_step (h : KeepsDirectories fs fs') {parts : List String}
    (hsteps : parts.foldlM fs.step l = .ok l') : parts.foldlM fs'.step l = .ok l' := by
  induction parts generalizing l with
  | nil => exact hsteps
  | cons part rest ih =>
    rw [List.foldlM_cons] at hsteps ⊢
    obtain ⟨next, hstep, hrest⟩ := bind_eq_ok.mp hsteps
    obtain ⟨hdirectory, hsearch, hname, hnext⟩ := step_eq_ok.mp hstep
    have hstep' : fs'.step l part = .ok next := step_eq_ok.mpr
      ⟨h.directories l hdirectory, (h.bars_eq l .search).trans hsearch, h.terms ▸ hname, hnext⟩
    rw [hstep', ok_bind]
    exact ih hrest

/-- A path that could be followed still can. -/
theorem KeepsDirectories.locate (h : KeepsDirectories fs fs') (hp : fs.locate p = .ok l) :
    fs'.locate p = .ok l := by
  obtain ⟨hzero, hlong, hsteps⟩ := locate_eq_ok.mp hp
  exact locate_eq_ok.mpr ⟨hzero, h.terms ▸ hlong, h.foldlM_step hsteps⟩

end ScriptingBindings.FileSystem
