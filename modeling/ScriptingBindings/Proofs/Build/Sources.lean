/-
  ScriptingBindings.Proofs.Build.Sources
  ──────────────────────────────────
  **WHAT A DICTIONARY IS BUILT FROM.**

  A dictionary is built from the content of its document and from the standard
  definitions.  The place where the content was found matters to what is told
  of a malformed one alone.  Of the files only these two are read, so others
  may grow in the meantime.
-/
import ScriptingBindings.Proofs.Build.Inclusions
import ScriptingBindings.Proofs.FileSystem.Changes
import ScriptingBindings.Proofs.Loading

namespace ScriptingBindings

open Dictionary
open FileSystem (Path Location SameButContents)

/-! ## §1. Contents. -/

namespace Document

/-- A content is a document where it is well-formed. -/
theorem outcome_ofContent (content : Content) (source : String) :
    (ofContent content source).outcome = match Markup.read? content with
      | some root => .ok ⟨source, root⟩
      | none => .error (.malformed source) := by
  unfold ofContent
  cases Markup.read? content with
  | some root => rfl
  | none => rfl

/-- A document in a file is that of its content. -/
theorem outcome_ofFile_of_read {files : FileSystem} {path : Path} {content : Content}
    (h : files.read path = .ok content) :
    (ofFile files path).outcome = (ofContent content path.text).outcome := by
  have hnote : (do
      let document ← ofContent content path.text
      note .info ("Successfully loaded sdef from " ++ path.text)
      return document : Run LoadError Document).outcome = (ofContent content path.text).outcome := by
    rw [Run.outcome_bind]
    cases (ofContent content path.text).outcome with
    | ok document => rfl
    | error e => rfl
  unfold ofFile
  rw [h, FileSystem.hasPath_of_read h, Run.outcome_bind]
  simp only [Run.outcome_ofExcept, Except.mapError, ok_bind, Bool.not_true, Bool.false_eq_true,
    if_false]
  split
  next => exact hnote
  next => exact hnote

/-- A document comes from a file that can be read. -/
theorem exists_content_of_ofFile {files : FileSystem} {path : Path} {document : Document}
    (h : (ofFile files path).outcome = .ok document) :
    ∃ content, files.read path = .ok content := by
  unfold ofFile at h
  obtain ⟨found, -, h⟩ := Run.outcome_bind_eq_ok.mp h
  split at h
  next => exact absurd h (by simp)
  next =>
    extract_lets rest at h
    have hrest : ∀ u, (rest u).outcome = .ok document →
        ∃ content, files.read path = .ok content := by
      intro u hu
      simp only [rest] at hu
      split at hu
      next => exact absurd hu (by simp)
      next content hread => exact ⟨content, hread⟩
    split at h
    next =>
      obtain ⟨u, -, h⟩ := Run.outcome_bind_eq_ok.mp h
      exact hrest u h
    next => exact hrest () h

/-- **A file holds a document** where it can be read and its content is well-formed. -/
theorem ofFile_eq_ok {files : FileSystem} {path : Path} {document : Document} :
    (ofFile files path).outcome = .ok document ↔ ∃ content root, files.read path = .ok content ∧
      Markup.read? content = some root ∧ document = ⟨path.text, root⟩ := by
  constructor
  · intro h
    obtain ⟨content, hread⟩ := exists_content_of_ofFile h
    rw [outcome_ofFile_of_read hread, outcome_ofContent] at h
    cases hroot : Markup.read? content with
    | none =>
      rw [hroot] at h
      exact absurd h (by simp)
    | some root =>
      rw [hroot] at h
      exact ⟨content, root, hread, hroot, (Except.ok.inj h).symm⟩
  · rintro ⟨content, root, hread, hroot, rfl⟩
    rw [outcome_ofFile_of_read hread, outcome_ofContent, hroot]

end Document

namespace Build

/-- The dictionary of a content that was found somewhere. -/
def ofContent (files : FileSystem) (settings : BuildSettings) (source : String)
    (content : Content) : Except BuildError Dictionary :=
  match Markup.read? content with
  | some root => (ofRoot files settings (some root)).outcome
  | none => .error (.load (.malformed source))

theorem outcome_ofDocument (files : FileSystem) (settings : BuildSettings) (document : Document) :
    (ofDocument files settings document).outcome
      = (ofRoot files settings (some document.root)).outcome := rfl

/-- A dictionary is built from the document that a content is. -/
theorem bind_ofContent (files : FileSystem) (settings : BuildSettings) (source : String)
    (content : Content) :
    ((Document.ofContent content source).outcome.mapError BuildError.load >>= fun document =>
      (ofRoot files settings (some document.root)).outcome)
      = ofContent files settings source content := by
  rw [Document.outcome_ofContent, ofContent]
  cases Markup.read? content with
  | some root => rfl
  | none => rfl

/-- The dictionary in a file is that of its content. -/
theorem outcome_load (around : Surroundings) (settings : BuildSettings) {path : String}
    {content : Content} (hpath : path.isEmpty = false)
    (h : around.files.read (.ofString path) = .ok content) :
    (load around settings path "").outcome
      = ofContent around.files settings (Path.ofString path).text content := by
  have hload : (Document.load around path "").outcome
      = (Document.ofContent content (Path.ofString path).text).outcome := by
    rw [← Document.outcome_ofFile_of_read h, Document.load, Document.Origin.choose, hpath]
    rfl
  rw [load, Run.outcome_bind, Run.outcome_mapError, hload, ← bind_ofContent]
  rfl

/-- The dictionary of a content has the same suites whether inclusions are kept or not. -/
theorem alike_ofContent (files : FileSystem) (settings : BuildSettings) (track : Bool)
    (source : String) (content : Content) :
    Alike SameSuites (ofContent files settings source content)
      (ofContent files { settings with trackInclusions := track } source content) := by
  unfold ofContent
  cases Markup.read? content with
  | some root => exact alike_ofRoot files settings track (some root)
  | none => exact .error _

end Build

/-! ## §2. Files that grow. -/

variable {P : Location → Prop} {fs fs' : FileSystem}

theorem Document.ofFile_congr (h : SameButContents P fs fs') {path : Path} (hpath : ¬ P path.place) :
    ofFile fs path = ofFile fs' path := by
  unfold ofFile
  rw [h.hasPath_eq path, h.read_eq hpath]

theorem Catalog.resolve_congr (h : SameButContents P fs fs') (settings : Settings)
    (hstandard : ¬ P settings.standard.place) (root : Markup.Element) (suites : List Suite) :
    resolve fs settings root suites = resolve fs' settings root suites := by
  have hsuites : standardSuites fs settings = standardSuites fs' settings := by
    unfold standardSuites Document.ofOrigin Document.Origin.fetch
    dsimp only
    rw [Document.ofFile_congr h hstandard]
  unfold resolve loadStandard
  rw [h.hasPath_eq settings.standard, hsuites]

/-- **A dictionary is the same while files grow that are not read for it.** -/
theorem Build.ofRoot_congr (h : SameButContents P fs fs') {settings : BuildSettings}
    (hstandard : ∀ p, standardPath? settings.standard = some p → ¬ P p.place)
    (root : Option Markup.Element) : ofRoot fs settings root = ofRoot fs' settings root := by
  cases root with
  | none => rfl
  | some e =>
    unfold ofRoot
    cases hcatalog : settings.catalog? with
    | none => rfl
    | some place =>
      obtain ⟨p, hp, rfl⟩ := Option.map_eq_some_iff.mp hcatalog
      have hresolve := Catalog.resolve_congr h
        ⟨settings.includeHidden, settings.trackInclusions, p⟩ (hstandard p hp) e
      simp only [hresolve]

end ScriptingBindings
