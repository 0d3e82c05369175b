/-
  ScriptingBindings.Proofs.Command.Writing
  ──────────────────────────────────
  **WHAT A RUN WRITES.**

  Each result with code is written to a file of its own.  Once written, a file
  keeps its code while the next ones are written, since no two basenames share
  a place; only records may still come behind it, if it is the file for the
  records.
-/
import ScriptingBindings.Proofs.Command.Steps
import ScriptingBindings.Proofs.Text.Lines

namespace ScriptingBindings.Command

open FileSystem Step

/-! ## §1. Places of files. -/

/-- The path of the file for the code of a basename. -/
def codePath (directory : Path) (basename : String) : Path :=
  Output.filePath directory basename (Language.fileExtension .swift)

/-- The name of a file is no step back: it has more than two characters. -/
theorem fileName_ne (basename : String) {short : String} (h : short.length < 6) :
    basename ++ Language.fileExtension .swift ≠ short := by
  intro heq
  have hlength := congrArg String.length heq
  rw [String.length_append, show (Language.fileExtension .swift).length = 6 by decide] at hlength
  omega

/-- The name of a file is one part of a path. -/
theorem ofString_fileName {basename : String} (h : '/' ∉ basename.toList) :
    Path.ofString (basename ++ Language.fileExtension .swift)
      = ⟨"", [basename ++ Language.fileExtension .swift]⟩ := by
  have hname : '/' ∉ (basename ++ Language.fileExtension .swift).toList := by
    rw [String.toList_append, List.mem_append]
    rintro (hb | he)
    · exact h hb
    · exact absurd he (by decide)
  have hparts : Path.partsOf (basename ++ Language.fileExtension .swift).toList
      = [basename ++ Language.fileExtension .swift] := by
    rw [Path.partsOf, Text.cutAt_of_not_mem hname, List.map_singleton, String.ofList_toList]
    exact List.filter_eq_self.mpr
      (by simp [fileName_ne basename (show "".length < 6 by decide),
        fileName_ne basename (show ".".length < 6 by decide)])
  have hroot : Path.rootOf (basename ++ Language.fileExtension .swift).toList = "" := by
    unfold Path.rootOf
    split
    next heq => exact absurd (heq ▸ List.mem_cons_self) hname
    next heq => exact absurd (heq ▸ List.mem_cons_self) hname
    next heq => exact absurd (heq ▸ List.mem_cons_self) hname
    next => rfl
  rw [Path.ofString, hparts, hroot]

theorem codePath_eq (directory : Path) {basename : String} (h : '/' ∉ basename.toList) :
    codePath directory basename
      = ⟨directory.root, directory.parts ++ [basename ++ Language.fileExtension .swift]⟩ := by
  rw [codePath, Output.filePath, ofString_fileName h]
  rfl

theorem place_codePath (directory : Path) {basename : String} (h : '/' ∉ basename.toList) :
    (codePath directory basename).place
      = directory.place.child (basename ++ Language.fileExtension .swift) := by
  rw [codePath, Output.filePath, ofString_fileName h, Path.place_join rfl]
  exact if_neg (fileName_ne basename (show "..".length < 6 by decide))

/-- Two basenames have two places. -/
theorem place_codePath_inj {directory : Path} {basename other : String}
    (h : '/' ∉ basename.toList) (h' : '/' ∉ other.toList)
    (hplace : (codePath directory basename).place = (codePath directory other).place) :
    basename = other := by
  rw [place_codePath directory h, place_codePath directory h', Location.child_inj] at hplace
  exact String.append_left_inj _ |>.mp hplace

/-! ## §2. One result after the other. -/

variable {s s' : Session} {directory : Path}

/-- The record of a file that was written. -/
def wroteRecord (path : Path) : Record :=
  ⟨.output, .info, "Wrote " ++ path.text⟩

/-- Code that is written goes to its file, with a record of it. -/
theorem write_of_writeItem {fs fs' : FileSystem} {fileExtension basename code : String}
    {path : Option Path}
    (h : (Output.writeItem directory fileExtension fs (basename, .code code)).value
      = (fs', .ok path)) :
    fs.write (Output.filePath directory basename fileExtension) code = .ok fs' ∧
      (Output.writeItem directory fileExtension fs (basename, .code code)).log
        = [wroteRecord (Output.filePath directory basename fileExtension)] := by
  unfold Output.writeItem at h ⊢
  dsimp only at h ⊢
  cases hwrite : fs.write (Output.filePath directory basename fileExtension) code with
  | error e =>
    rw [hwrite] at h
    exact absurd (congrArg Prod.snd h) (by simp)
  | ok written =>
    rw [hwrite] at h
    exact ⟨congrArg Except.ok (congrArg Prod.fst h), rfl⟩

/-- Code that no file can hold is not written. -/
theorem writeItem_unencodable_ne {fs fs' : FileSystem} {fileExtension basename : String}
    {path : Option Path} :
    (Output.writeItem directory fileExtension fs (basename, .unencodable)).value
      ≠ (fs', .ok path) := by
  unfold Output.writeItem
  dsimp only
  cases fs.write (Output.filePath directory basename fileExtension) "" with
  | error e => exact fun h => absurd (congrArg Prod.snd h) (by simp)
  | ok written => exact fun h => absurd (congrArg Prod.snd h) (by simp)

/-- The file for a result can be followed to, and holds its code and the records left since it was
written. -/
structure Session.HasCode (s : Session) (directory : Path) (basename code : String) : Prop where
  found : s.files.locate (codePath directory basename) = .ok (codePath directory basename).place
  holds : ∃ records, s.Holds (codePath directory basename).place (.text code)
    (wroteRecord (codePath directory basename) :: records)

/-- Changes elsewhere leave the code of a result in its file. -/
theorem Session.ChangesOnly.hasCode {P : Location → Prop} {basename code : String}
    (h : Session.ChangesOnly P s s') (hplace : ¬ P (codePath directory basename).place)
    (hcode : s.HasCode directory basename code) : s'.HasCode directory basename code where
  found := h.directories.locate hcode.found
  holds := by
    obtain ⟨records, hrecords⟩ := hcode.holds
    obtain ⟨more, hmore⟩ := h.contents _ _ _ hplace hrecords
    exact ⟨records ++ more, hmore⟩

/-- A result is written to its file, which has its code from then on. -/
theorem writeItem_eq_ok {basename : String} {result : Generated} {path : Option Path} (ho : s.IsOpen)
    (hcode : failureLine? result = none)
    (h : after (change .writing fun files => Output.writeItem directory
      (Language.fileExtension .swift) files (basename, Output.item result)) s = (.ok path, s')) :
    result.succeeded = true ∧ s.ChangesOnly (· = (codePath directory basename).place) s' ∧
      s'.HasCode directory basename (codeText result) := by
  obtain ⟨fs, hvalue, rfl⟩ := change_eq_ok h
  obtain ⟨code, warnings, metadata, rfl⟩ : ∃ code warnings metadata,
      result = .code code warnings metadata := by
    cases result with
    | code text warnings metadata => exact ⟨_, _, _, rfl⟩
    | unencodable shown warnings metadata => exact absurd hvalue writeItem_unencodable_ne
    | failed e => exact absurd hcode (by simp [failureLine?])
  obtain ⟨hwrite, hlog⟩ := write_of_writeItem hvalue
  have hwritten : IsWritten (codePath directory basename) (.text code) s.files fs :=
    isWritten_of_writeWith hwrite
  have hchange := Session.changesOnly_write hwritten
  have hholds : Session.Holds { s with files := fs } (codePath directory basename).place
      (.text code) [] := by
    rw [Session.Holds, linesAt_nil, Content.append_empty]
    exact hwritten.entry
  have hkeep := Session.keeps_keep { s with files := fs } [wroteRecord (codePath directory basename)]
  refine ⟨rfl, ?_⟩
  show s.ChangesOnly _ (Session.keep _ (Output.writeItem directory (Language.fileExtension .swift)
    s.files (basename, .code code)).log) ∧ Session.HasCode (Session.keep _ (Output.writeItem
      directory (Language.fileExtension .swift) s.files (basename, .code code)).log) _ _ _
  rw [hlog]
  refine ⟨hchange.trans (hkeep.mono fun _ => False.elim), ?_, [], ?_⟩
  · exact hkeep.directories.locate hwritten.isFile.found
  · exact Session.holds_keep (hchange.isOpen ho) hholds _

/-- The places of the files for results. -/
def codePlaces (directory : Path) (results : OrderedMap Generated) : List Location :=
  results.map fun entry => (codePath directory entry.1).place

theorem nodup_codePlaces {results : OrderedMap Generated} (h : results.keys.Nodup)
    (hparts : ∀ entry ∈ results, '/' ∉ entry.1.toList) :
    (codePlaces directory results).Nodup := by
  induction results with
  | nil => exact List.nodup_nil
  | cons entry rest ih =>
    obtain ⟨hentry, hrest⟩ := List.nodup_cons.mp h
    have hrestParts : ∀ other ∈ rest, '/' ∉ other.1.toList :=
      fun other ho => hparts other (List.mem_cons_of_mem entry ho)
    refine List.nodup_cons.mpr ⟨?_, ih hrest hrestParts⟩
    intro hplace
    obtain ⟨other, ho, heq⟩ := List.mem_map.mp hplace
    have hname : other.1 = entry.1 :=
      place_codePath_inj (hrestParts other ho) (hparts entry List.mem_cons_self) heq
    exact hentry (List.mem_map.mpr ⟨other, ho, hname⟩)

/-- **Results that are written have code, which is in their files**, and nothing else changes. -/
theorem writeEach_eq_ok {results : OrderedMap Generated} {paths : List Path} (ho : s.IsOpen)
    (h : after (writeEach directory results) s = (.ok paths, s'))
    (hcodes : ∀ entry ∈ results, failureLine? entry.2 = none)
    (hplaces : (codePlaces directory results).Nodup) :
    s.ChangesOnly (· ∈ codePlaces directory results) s' ∧ ∀ entry ∈ results,
      entry.2.succeeded = true ∧ s'.HasCode directory entry.1 (codeText entry.2) := by
  induction results generalizing s paths with
  | nil =>
    obtain rfl : s = s' := congrArg Prod.snd h
    exact ⟨.refl s, fun _ he => absurd he List.not_mem_nil⟩
  | cons entry rest ih =>
    obtain ⟨basename, result⟩ := entry
    unfold writeEach at h
    obtain ⟨path, between, hfirst, h⟩ := after_bind_eq_ok.mp h
    obtain ⟨others, s₂, hothers, h⟩ := after_bind_eq_ok.mp h
    obtain rfl : s₂ = s' := congrArg Prod.snd h
    obtain ⟨hsucceeded, hchange, hcode⟩ :=
      writeItem_eq_ok ho (hcodes (basename, result) List.mem_cons_self) hfirst
    obtain ⟨hplace, hrest⟩ := List.nodup_cons.mp hplaces
    obtain ⟨hchange', hcodes'⟩ := ih (hchange.isOpen ho) hothers
      (fun e he => hcodes e (List.mem_cons_of_mem _ he)) hrest
    refine ⟨?_, ?_⟩
    · exact (hchange.mono fun l hl => hl ▸ List.mem_cons_self).trans
        (hchange'.mono fun l hl => List.mem_cons_of_mem _ hl)
    · intro e he
      rcases List.mem_cons.mp he with rfl | he
      · -- No later result is written to this place.
        exact ⟨hsucceeded, hchange'.hasCode hplace hcode⟩
      · exact hcodes' e he

/-! ## §3. The whole output. -/

/-- The files after output: each result is in its file, with nothing behind its code but records
if it is the file for these; and apart from these files only directories are new, on the way to
the directory of the output. -/
structure IsOutput (sink : Option Sink) (directory : Path) (results : OrderedMap Generated)
    (before after : FileSystem) : Prop where
  apart : (codePlaces directory results).Nodup
  codes : ∀ entry ∈ results, ∃ records, after.IsFile (codePath directory entry.1)
    (.text (codeText entry.2 ++ linesAt sink (codePath directory entry.1).place
      (wroteRecord (codePath directory entry.1) :: records)))
  others : ∀ l, ¬ IsLogPlace sink l → l ∉ codePlaces directory results →
    after.entry? l = before.entry? l ∨
      (directory.LeadsThrough l ∧ before.entry? l = none ∧ after.entry? l = some .directory)

/-- Files that agree but for that for the records will do as those that were there before. -/
theorem IsOutput.of_agreeBut {sink : Option Sink} {results : OrderedMap Generated}
    {before fs after : FileSystem} (h : IsOutput sink directory results fs after)
    (hfs : AgreeBut (IsLogPlace sink) before fs) :
    IsOutput sink directory results before after where
  apart := h.apart
  codes := h.codes
  others := fun l hl hother => hfs l hl ▸ h.others l hl hother

/-- A file for the records that takes milestones does not stay with the code that is written to
it. -/
theorem IsOutput.not_isFile_code {k : Sink} {results : OrderedMap Generated}
    {before after : FileSystem} (h : IsOutput (some k) directory results before after)
    {entry : String × Generated} (he : entry ∈ results)
    (hplace : k.path.place = (codePath directory entry.1).place)
    (hlevel : k.level.rank ≤ Level.info.rank) :
    ¬ after.IsFile (codePath directory entry.1) (.text (codeText entry.2)) := by
  obtain ⟨records, hfile⟩ := h.codes entry he
  intro hcode
  have heq : codeText entry.2 ++ linesAt (some k) (codePath directory entry.1).place
      (wroteRecord (codePath directory entry.1) :: records) = codeText entry.2 := by
    simpa using hfile.entry.symm.trans hcode.entry
  have hlines : linesAt (some k) (codePath directory entry.1).place
      (wroteRecord (codePath directory entry.1) :: records)
        = (wroteRecord (codePath directory entry.1)).line ++ "\n" ++ k.lines records := by
    rw [linesAt, if_pos hplace]
    exact Sink.lines_cons hlevel records
  have hlength := congrArg String.length heq
  rw [hlines, String.length_append, String.length_append, String.length_append] at hlength
  have hone : "\n".length = 1 := by decide
  omega

/-- The directory of the output is made before anything is written. -/
theorem makeDirectories_eq_ok [Machine] {u : Unit}
    (h : after (change .writing fun files => match files.makeDirectories directory with
      | .ok files => return (files, .ok ())
      | .error e => return (files, .error e)) s = (.ok u, s')) :
    ∃ fs, AddsDirectories directory s.files fs ∧ Session.Keeps { s with files := fs } s' := by
  obtain ⟨fs, hvalue, rfl⟩ := change_eq_ok h
  refine ⟨fs, ?_, Session.keeps_keep _ _⟩
  cases hmake : s.files.makeDirectories directory with
  | error e =>
    rw [hmake] at hvalue
    exact absurd (congrArg Prod.snd hvalue) (by simp)
  | ok made =>
    rw [hmake] at hvalue
    obtain rfl : made = fs := congrArg Prod.fst hvalue
    exact addsDirectories_of_makeDirectories hmake

/-- **What is written is the output of the results, whole.** -/
theorem writeAll_eq_ok [Machine] {c : Config} {results : OrderedMap Generated} {u : Unit}
    (ho : s.IsOpen) (h : after (writeAll c results) s = (.ok u, s'))
    (hcodes : ∀ entry ∈ results, failureLine? entry.2 = none) (hkeys : results.keys.Nodup)
    (hparts : ∀ entry ∈ results, '/' ∉ entry.1.toList) :
    (∀ entry ∈ results, entry.2.succeeded = true) ∧
      ∃ directory, outputDirectory c = .ok directory ∧
        IsOutput s.sink directory results s.files s'.files := by
  obtain ⟨directory, s₁, hfirst, h⟩ := after_bind_eq_ok.mp h
  obtain ⟨hdirectory, rfl⟩ := after_ofExcept_eq_ok.mp hfirst
  obtain ⟨_, s₂, hmade, h⟩ := after_bind_eq_ok.mp h
  obtain ⟨paths, s₃, hwritten, hprinted⟩ := after_bind_eq_ok.mp h
  obtain ⟨fs, hadded, hkeep⟩ := makeDirectories_eq_ok hmade
  have hplaces : (codePlaces directory results).Nodup := nodup_codePlaces hkeys hparts
  have hopened : Session.IsOpen { s with files := fs } :=
    fun k hk => (ho k hk).imp hadded.keepsDirectories.locate
      (hadded.keepsDirectories.bars_eq _ _).trans
  obtain ⟨hchange, hhas⟩ := writeEach_eq_ok (hkeep.isOpen hopened) hwritten hcodes hplaces
  have hlast : s₃.Keeps s' := (OnlyPrints.printAll _).isQuiet.keeps hprinted
  have hrest := (hkeep.mono fun _ => False.elim).trans
    (hchange.trans (hlast.mono fun _ => False.elim))
  refine ⟨fun entry he => (hhas entry he).1, directory, hdirectory, hplaces, ?_, ?_⟩
  · intro entry he
    obtain ⟨hfound, records, hholds⟩ := hlast.hasCode id (hhas entry he).2
    exact ⟨records, hfound, hrest.sink ▸ hholds⟩
  · intro l hl hother
    have hsame := hrest.files l (fun h => h.elim hother hl)
    rcases hadded.places l with hl | hl
    · exact .inl (hsame.trans hl)
    · exact .inr ⟨hl.1, hl.2.1, hsame.trans hl.2.2⟩

end ScriptingBindings.Command
