/-
  ScriptingBindings.Proofs.FileSystem.Faults
  ──────────────────────────────────
  **WHICH FAULTS CAN OCCUR.**

  Asking for a path fails only if the path is too long or a directory on the
  way is barred.  Following or writing it fails as no path at all only if it
  holds a zero character, and never for the number of directories that would
  have to be made or for what is to be written.  Making directories fails for
  their number only if the path has so many parts.
-/
import ScriptingBindings.Proofs.Failure
import ScriptingBindings.Proofs.FileSystem.Places

namespace ScriptingBindings.FileSystem

variable {fs : FileSystem} {p : Path}

/-! ## §1. Faults. -/

/-- A part of a path holds a zero character. -/
def Path.HasZero (p : Path) : Prop :=
  (p.parts.any fun part => part.toList.contains (Char.ofNat 0)) = true

/-- A fault of a place on the way; the others are of a path as a whole, or of what is written. -/
def Fault.IsLocal (fault : Fault) : Prop :=
  fault ≠ .tooDeep ∧ fault ≠ .noPath ∧ fault ≠ .unencodable

/-- A fault that a path can have while it is followed. -/
structure Path.Allows (p : Path) (e : PathError) : Prop where
  shallow : e.fault ≠ .tooDeep
  encodable : e.fault ≠ .unencodable
  zero : e.fault = .noPath → p.HasZero

/-- A fault that a path can have while directories are made along it. -/
structure Path.AllowsMaking [Machine] (p : Path) (e : PathError) : Prop where
  deep : e.fault = .tooDeep → Machine.chain < p.parts.length
  encodable : e.fault ≠ .unencodable
  zero : e.fault = .noPath → p.HasZero

/-- A fault of a place on the way is one that every path can have. -/
theorem Fault.IsLocal.allows {fault : Fault} (h : fault.IsLocal) (p : Path) :
    p.Allows ⟨fault, p⟩ :=
  ⟨h.1, h.2.2, fun hzero => absurd hzero h.2.1⟩

/-! ## §2. Following paths. -/

theorem preventsAsking_iff {fault : Fault} :
    fault.preventsAsking = true ↔ fault = .tooLong ∨ fault = .denied := by
  cases fault <;> decide

theorem preventsAsking_of_hasPath {e : PathError} (h : fs.hasPath p = .error e) :
    e.fault.preventsAsking = true := by
  unfold hasPath at h
  split at h
  next => exact absurd h (by simp)
  next e' _ =>
    split at h
    next hprevents => exact Except.error.inj h ▸ hprevents
    next => exact absurd h (by simp)

/-- A path whose first step fails cannot be asked for where its fault prevents that. -/
theorem hasPath_of_step {name : String} {rest : List String} {fault : Fault}
    (hparts : p.parts = name :: rest) (hzero : ¬ p.HasZero)
    (hlong : p.text.utf8ByteSize ≤ fs.terms.longestPath)
    (hstep : fs.step { fromRoot := p.isAbsolute } name = .error fault)
    (hfault : fault.preventsAsking = true) : fs.hasPath p = .error ⟨fault, p⟩ := by
  have hlocate : fs.locate p = .error ⟨fault, p⟩ := by
    unfold locate
    split
    next h => exact absurd h hzero
    next =>
      rw [if_neg (Nat.not_lt.mpr hlong), hparts, List.foldlM_cons, hstep]
      rfl
  rw [hasPath, hlocate]
  exact if_pos hfault

theorem failsOnly_step (fs : FileSystem) (l : Location) (part : String) :
    FailsOnly Fault.IsLocal (fs.step l part) := by
  unfold step
  split
  next => exact .error ⟨by simp, by simp, by simp⟩
  next => exact .error ⟨by simp, by simp, by simp⟩
  next =>
    split
    next => exact .error ⟨by simp, by simp, by simp⟩
    next =>
      split
      next => exact .ok _
      next =>
        split
        next => exact .error ⟨by simp, by simp, by simp⟩
        next => exact .ok _

theorem failsOnly_locate (fs : FileSystem) (p : Path) : FailsOnly p.Allows (fs.locate p) := by
  unfold locate
  split
  next hzero => exact .error ⟨by simp, by simp, fun _ => hzero⟩
  next =>
    split
    next => exact .error ⟨by simp, by simp, by simp⟩
    next =>
      refine (FailsOnly.foldlM (fun l part _ => failsOnly_step fs l part) _).mapError ?_
      exact fun fault hfault => hfault.allows p

theorem failsOnly_putNew (fs : FileSystem) (l : Location) (e : Entry) :
    FailsOnly Fault.IsLocal (fs.putNew l e) := by
  unfold putNew
  split
  next => exact .error ⟨by simp, by simp, by simp⟩
  next => exact .ok _

theorem failsOnly_writeWith (fs : FileSystem) (p : Path) (revise : Option Content → Content) :
    FailsOnly p.Allows (fs.writeWith p revise) := by
  refine (failsOnly_locate fs p).bind fun l => ?_
  split
  next =>
    split
    next => exact .error ⟨by simp, by simp, by simp⟩
    next => exact .ok _
  next => exact .error ⟨by simp, by simp, by simp⟩
  next =>
    exact (failsOnly_putNew fs l _).mapError fun fault h => h.allows p

/-! ## §3. Making directories. -/

theorem failsOnly_makeAt (fs : FileSystem) (l : Location) :
    FailsOnly Fault.IsLocal (fs.makeAt l) := by
  unfold makeAt
  split
  next => exact .ok _
  next => exact .error ⟨by simp, by simp, by simp⟩
  next => exact failsOnly_putNew fs l .directory

theorem failsOnly_makeChain (p : Path) (fs : FileSystem) (l : Location) (n : Nat)
    (parts : List String) : FailsOnly (fun e => e.fault.IsLocal) (makeChain p fs l n parts) := by
  induction parts generalizing fs l n with
  | nil => exact .ok fs
  | cons part rest ih =>
    refine FailsOnly.bind ?_ fun inner => FailsOnly.bind ?_ fun fs' => ih fs' inner (n + 1)
    · exact (failsOnly_step fs l part).mapError fun _ h => h
    · exact (failsOnly_makeAt fs inner).mapError fun _ h => h

theorem length_missingParts_le (fs : FileSystem) (l : Location) (parts : List String) :
    (fs.missingParts l parts).length ≤ parts.length := by
  induction parts generalizing l with
  | nil => exact Nat.le_refl 0
  | cons part rest ih =>
    unfold missingParts
    split
    next inner _ => exact Nat.le_succ_of_le (ih inner)
    next => exact Nat.le_refl _

theorem failsOnly_makeDirectories [Machine] (fs : FileSystem) (p : Path) :
    FailsOnly p.AllowsMaking (fs.makeDirectories p) := by
  have hlocal {e : PathError} (h : e.fault.IsLocal) : p.AllowsMaking e :=
    ⟨fun hd => absurd hd h.1, h.2.2, fun hz => absurd hz h.2.1⟩
  unfold makeDirectories
  dsimp only
  split
  next l _ => exact (failsOnly_makeAt fs l).mapError fun _ h => hlocal h
  next e hlocate =>
    have hallowed := failsOnly_locate fs p e hlocate
    split
    next => exact .error ⟨fun h => absurd h hallowed.shallow, hallowed.encodable, hallowed.zero⟩
    next =>
      split
      next hmany =>
        have hle := length_missingParts_le fs { fromRoot := p.isAbsolute } p.parts
        exact .error ⟨fun _ => Nat.lt_of_lt_of_le hmany hle, by simp, by simp⟩
      next => exact fun e he => hlocal (failsOnly_makeChain p fs _ 0 p.parts e he)

/-- A path with a zero character is no directory, and none can be made of it. -/
theorem makeDirectories_of_hasZero [Machine] (fs : FileSystem) (h : p.HasZero) :
    fs.makeDirectories p = .error ⟨.noPath, p⟩ := by
  have hlocate : fs.locate p = .error ⟨.noPath, p⟩ := by
    rw [locate]
    exact if_pos h
  rw [makeDirectories, hlocate]
  exact if_pos (by simp)

end ScriptingBindings.FileSystem
