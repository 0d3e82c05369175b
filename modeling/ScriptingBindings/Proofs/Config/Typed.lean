/-
  ScriptingBindings.Proofs.Config.Typed
  ──────────────────────────────────
  **SETTINGS OF THEIR DECLARED KINDS.**

  Each setting has a kind.  Settings that fit their kinds make a configuration
  of the declared kinds without a broken text, whatever they are written over:
  the defaults fit, and writing entries that fit over entries that fit gives
  entries that fit.

  Such a configuration can be checked, whatever is to be warned of, and so can
  the ones that are derived from it.
-/
import ScriptingBindings.Config.Validation
import ScriptingBindings.Proofs.FileSystem.Faults
import ScriptingBindings.Proofs.Generation.Failures
import ScriptingBindings.Proofs.OrderedMap

namespace ScriptingBindings.Config

/-! ## §1. Kinds. -/

/-- The settings that are absent or a text. -/
def textSettings : List String := ["basename", "standard_definitions_path", "bundle_identifier"]

/-- The settings that are truth values. -/
def flagSettings : List String :=
  ["include_hidden", "generate_recursively", "generate_class_names_enum",
   "generate_strongly_typed_extensions", "generate_namespace_typealiases",
   "generate_flat_typealiases", "add_comments"]

/-- A value is of the kind of a setting, and not broken. -/
structure Fits (name : String) (v : Json) : Prop where
  text : name ∈ textSettings → v.IsOptional Json.IsWholeText
  flag : name ∈ flagSettings → v.IsFlag
  directory : name = "output_directory" → v.IsWholeText
  width : name = "indent_size" → ∃ width, v = .int width
  custom : name = customName →
    ∃ entries, v = .obj entries ∧ HasTypedEntries Json.IsWholeText entries

/-- An entry is a setting with a value of its kind. -/
structure IsFitting (entry : String × Json) : Prop where
  known : settingNames.contains entry.1 = true
  fits : Fits entry.1 entry.2

variable {name : String}

theorem fits_flag (h : name ∈ flagSettings) (b : Bool) : Fits name (.bool b) where
  text := fun ht => absurd h (by revert ht; revert name; decide)
  flag := fun _ => ⟨b, rfl⟩
  directory := fun hd => absurd h (by rw [hd]; decide)
  width := fun hw => absurd h (by rw [hw]; decide)
  custom := fun hc => absurd h (by rw [hc]; decide)

theorem fits_str (h : name ∈ "output_directory" :: textSettings) (s : String) :
    Fits name (.str s) where
  text := fun _ => .inr ⟨s, rfl⟩
  flag := fun hf => absurd h (by revert hf; revert name; decide)
  directory := fun _ => ⟨s, rfl⟩
  width := fun hw => absurd h (by rw [hw]; decide)
  custom := fun hc => absurd h (by rw [hc]; decide)

/-! ## §2. Settings. -/

/-- A setting fits if its value and its default do. -/
theorem fits_getD {m : OrderedMap Json} (h : ∀ entry ∈ m, IsFitting entry) {v : Json}
    (hv : Fits name v) : Fits name ((m.get? name).getD v) := by
  cases hget : m.get? name with
  | none => exact hv
  | some w => exact (h _ (OrderedMap.mem_of_get? hget)).fits

theorem fits_null (h : name ∈ textSettings) : Fits name .null where
  text := fun _ => .inl rfl
  flag := fun hf => absurd h (by revert hf; revert name; decide)
  directory := fun hd => absurd h (by rw [hd]; decide)
  width := fun hw => absurd h (by rw [hw]; decide)
  custom := fun hc => absurd h (by rw [hc]; decide)

theorem fits_width (n : Int) : Fits "indent_size" (.int n) where
  text := fun h => absurd h (by decide)
  flag := fun h => absurd h (by decide)
  directory := fun h => absurd h (by decide)
  width := fun _ => ⟨n, rfl⟩
  custom := fun h => absurd h (by decide)

theorem fits_custom {entries : OrderedMap Json} (h : HasTypedEntries Json.IsWholeText entries) :
    Fits customName (.obj entries) where
  text := fun h => absurd h (by decide)
  flag := fun h => absurd h (by decide)
  directory := fun h => absurd h (by decide)
  width := fun h => absurd h (by decide)
  custom := fun _ => ⟨entries, rfl, h⟩

/-- Settings that fit make a configuration of the declared kinds. -/
theorem isWhole_ofSettings {m : OrderedMap Json} (h : ∀ entry ∈ m, IsFitting entry) :
    (ofSettings m).IsWhole where
  basename := (fits_getD h (fits_null (by decide))).text (by decide)
  outputDirectory := (fits_getD h (fits_str (by decide) ".")).directory rfl
  includeHidden := (fits_getD h (fits_flag (by decide) false)).flag (by decide)
  generateRecursively := (fits_getD h (fits_flag (by decide) false)).flag (by decide)
  standardDefinitionsPath := (fits_getD h (fits_null (by decide))).text (by decide)
  generateClassNamesEnum := (fits_getD h (fits_flag (by decide) false)).flag (by decide)
  generateStronglyTypedExtensions := (fits_getD h (fits_flag (by decide) false)).flag (by decide)
  generateNamespaceTypealiases := (fits_getD h (fits_flag (by decide) false)).flag (by decide)
  generateFlatTypealiases := (fits_getD h (fits_flag (by decide) false)).flag (by decide)
  bundleIdentifier := (fits_getD h (fits_null (by decide))).text (by decide)
  addComments := (fits_getD h (fits_flag (by decide) true)).flag (by decide)
  indentSize := (fits_getD h (fits_width 4)).width rfl
  custom := (fits_getD h (fits_custom
    ⟨fun _ hv => absurd hv (by simp [OrderedMap.get?]),
      fun _ hv => absurd hv (by simp [OrderedMap.get?])⟩)).custom rfl

/-- Entries that are all settings make a configuration as they are. -/
theorem ofEntries_of_known {m : OrderedMap Json}
    (h : ∀ entry ∈ m, settingNames.contains entry.1 = true) : ofEntries m = .ok (ofSettings m) := by
  have hknown : m.filter (fun entry => settingNames.contains entry.1) = m :=
    List.filter_eq_self.mpr h
  have hothers : m.filter (fun entry => !settingNames.contains entry.1) = [] :=
    List.filter_eq_nil_iff.mpr fun entry he => by rw [h entry he]; decide
  unfold ofEntries
  rw [hknown, hothers]
  rfl

/-- The defaults are those of the settings, and no overrides. -/
theorem mem_defaults {entry : String × Json} (h : entry ∈ defaults "swift") :
    entry ∈ ({} : Config).settings ∨ entry = (customName, .obj [("type_overrides", .obj [])]) := by
  have hlower : Text.lower "swift" = "swift" := by decide +kernel
  unfold defaults at h
  rw [if_pos hlower] at h
  exact (OrderedMap.mem_of_mem_put h).symm.imp_left fun he =>
    List.mem_of_mem_filter (List.mem_of_mem_filter he)

theorem isFitting_defaults : ∀ entry ∈ defaults "swift", IsFitting entry := by
  have hsettings : ∀ entry ∈ ({} : Config).settings, IsFitting entry := by
    simp only [settings, List.forall_mem_cons]
    exact ⟨⟨by decide, fits_null (by decide)⟩, ⟨by decide, fits_str (by decide) "."⟩,
      ⟨by decide, fits_flag (by decide) false⟩, ⟨by decide, fits_flag (by decide) false⟩,
      ⟨by decide, fits_null (by decide)⟩, ⟨by decide, fits_flag (by decide) false⟩,
      ⟨by decide, fits_flag (by decide) false⟩, ⟨by decide, fits_flag (by decide) false⟩,
      ⟨by decide, fits_flag (by decide) false⟩, ⟨by decide, fits_null (by decide)⟩,
      ⟨by decide, fits_flag (by decide) true⟩, ⟨by decide, fits_width 4⟩,
      fun _ he => absurd he List.not_mem_nil⟩
  intro entry he
  rcases mem_defaults he with he | rfl
  · exact hsettings entry he
  · exact ⟨by decide, fits_custom ⟨fun v hv => absurd hv (by simp [OrderedMap.get?]),
      fun v hv => ⟨[], by simpa [OrderedMap.get?, eq_comm] using hv, by simp⟩⟩⟩

/-- A level is four spaces wide by default. -/
theorem eq_of_mem_defaults {v : Json} (h : ("indent_size", v) ∈ defaults "swift") :
    v = .int 4 := by
  rcases mem_defaults h with h | h
  · simpa [settings] using h
  · exact absurd (Prod.mk.inj h).1 (by decide)

/-! ## §3. Loading. -/

/-- A file that is there and has the extension is read if what it holds is the text of an
object. -/
theorem readFile_eq_ok [Machine] {files : FileSystem} {path : FileSystem.Path}
    {m : OrderedMap Json} :
    readFile files path = .ok m ↔ files.hasPath path = .ok true ∧
      path.hasExtension fileExtension = true ∧ ∃ content text, files.read path = .ok content ∧
        content.text? = some text ∧ Json.read text = .ok (.obj m) := by
  unfold readFile
  rw [bind_eq_ok]
  simp only [mapError_eq_ok]
  constructor
  · rintro ⟨found, hfound, h⟩
    split at h
    next => exact absurd h (by simp [throw, throwThe, MonadExceptOf.throw])
    next hthere =>
      split at h
      next => exact absurd h (by simp [throw, throwThe, MonadExceptOf.throw])
      next hname =>
        obtain ⟨content, hread, h⟩ := bind_eq_ok.mp h
        split at h
        case h_5 fields hvalue =>
          obtain ⟨text, htext, hvalue⟩ := Option.map_eq_some_iff.mp hvalue
          obtain rfl := Except.ok.inj h
          exact ⟨by simpa [hfound] using hthere, by simpa using hname, content, text,
            mapError_eq_ok.mp hread, htext, hvalue⟩
        all_goals exact absurd h (by simp [throw, throwThe, MonadExceptOf.throw])
  · rintro ⟨hfound, hname, content, text, hread, htext, hvalue⟩
    refine ⟨true, hfound, ?_⟩
    rw [hname, hread]
    simp only [Bool.not_true, Bool.false_eq_true, if_false]
    rw [mapError_eq_ok.mpr rfl, ok_bind, htext, Option.map_some, hvalue]
    rfl

/-- A configuration is loaded from the entries of the file and the settings over them. -/
theorem load_eq_ok [Machine] {files : FileSystem} {language : String} {custom file : Json}
    {c : Config} :
    load files language custom file = .ok c ↔
      ∃ read m, fileEntries files file = .ok read ∧
        overlaid ((defaults language).putAll read) custom = .ok m ∧ ofEntries m = .ok c := by
  unfold load
  simp only [bind_eq_ok, mapError_eq_ok, exists_and_left]

/-- Entries written over others are among both. -/
theorem exists_overlaid (m entries : OrderedMap Json) :
    ∃ written, overlaid m (.obj entries) = .ok written ∧
      ∀ entry ∈ written, entry ∈ m ∨ entry ∈ entries := by
  unfold overlaid
  split
  next => exact ⟨_, rfl, fun entry he => OrderedMap.mem_of_mem_putAll he⟩
  next => exact ⟨_, rfl, fun entry he => .inl he⟩

/-- **Without a file, settings that fit give a configuration of the declared kinds**, made of the
defaults and the settings. -/
theorem exists_load [Machine] {entries : OrderedMap Json} (h : ∀ entry ∈ entries, IsFitting entry)
    (files : FileSystem) {file : String} (hfile : file.isEmpty = true) :
    ∃ m, load files "swift" (.obj entries) (.str file) = .ok (ofSettings m) ∧
      (∀ entry ∈ m, entry ∈ defaults "swift" ∨ entry ∈ entries) ∧ (ofSettings m).IsWhole := by
  obtain ⟨m, hm, hmem⟩ := exists_overlaid (defaults "swift") entries
  have hfits : ∀ entry ∈ m, IsFitting entry := fun entry he =>
    (hmem entry he).elim (isFitting_defaults entry) (h entry)
  have hnone : fileEntries files (.str file) = .ok [] := by
    rw [fileEntries, Json.isTruthy, hfile]
    rfl
  have hknown := ofEntries_of_known fun entry he => (hfits entry he).known
  exact ⟨m, load_eq_ok.mpr ⟨[], m, hnone, hm, hknown⟩, hmem, isWhole_ofSettings hfits⟩

/-- A failure is not the fault of a path, unless the path cannot be asked for. -/
def BlamesUnaskable (e : ConfigFailure) : Prop :=
  ∀ pe, e = .path pe → pe.fault.preventsAsking = true

theorem blamesUnaskable_error (e : ConfigError) : BlamesUnaskable (.error e) :=
  fun _ h => absurd h (by simp)

theorem blamesUnaskable_misuse (m : Misuse) : BlamesUnaskable (.misuse m) :=
  fun _ h => absurd h (by simp)

theorem failsOnly_readFile [Machine] (files : FileSystem) (path : FileSystem.Path) :
    FailsOnly BlamesUnaskable (readFile files path) := by
  unfold readFile
  refine FailsOnly.bind ?_ fun found => ?_
  · refine FailsOnly.mapError (P := fun pe => pe.fault.preventsAsking = true)
      (fun _ => FileSystem.preventsAsking_of_hasPath) fun pe hpe pe' h => ?_
    exact ConfigFailure.path.inj h ▸ hpe
  · -- From here on the file is there, and no failure tells of its path.
    split
    next => exact .error (blamesUnaskable_error _)
    next =>
      split
      next => exact .error (blamesUnaskable_error _)
      next =>
        refine FailsOnly.bind (.mapError_of_forall (fun _ => blamesUnaskable_error _) _)
          fun content => ?_
        split
        next => exact .error (blamesUnaskable_misuse _)
        next => exact .error (blamesUnaskable_error _)
        next => exact .error (blamesUnaskable_misuse _)
        next => exact .error (blamesUnaskable_misuse _)
        next => exact .ok _
        next => exact .error (blamesUnaskable_error _)

theorem failsOnly_fileEntries [Machine] (files : FileSystem) (file : Json) :
    FailsOnly BlamesUnaskable (fileEntries files file) := by
  unfold fileEntries
  split
  next =>
    split
    next => exact failsOnly_readFile files _
    next => exact .error (blamesUnaskable_misuse _)
  next => exact .ok _

/-- **The path of a configuration file is at fault only if it cannot be asked for.** -/
theorem failsOnly_load [Machine] (files : FileSystem) (language : String) (custom file : Json) :
    FailsOnly (fun e => ∀ pe, e = .path pe → pe.fault.preventsAsking = true)
      (load files language custom file) := by
  have hmisuse {α : Type} (x : Except Misuse α) : FailsOnly BlamesUnaskable (x.mapError .misuse) :=
    .mapError_of_forall blamesUnaskable_misuse x
  exact (failsOnly_fileEntries files file).bind fun read =>
    (hmisuse _).bind fun m => hmisuse _

/-! ## §4. Configurations of the declared kinds. -/

namespace IsWhole

variable {c : Config}

theorem withBasename (h : c.IsWhole) (basename : String) :
    ({ c with basename := .str basename } : Config).IsWhole :=
  { h with basename := .inr ⟨basename, rfl⟩ }

theorem forInclusion (h : c.IsWhole) : c.forInclusion.IsWhole :=
  { h with generateFlatTypealiases := ⟨false, rfl⟩, bundleIdentifier := .inl rfl }

/-- An optional text can be tested, whatever the test. -/
theorem exists_textWarning {v : Json} (h : v.IsOptional Json.IsWholeText) (test : String → Bool)
    (warning : String → String) : ∃ ws, textWarning test warning v = .ok ws := by
  rcases h with rfl | ⟨s, rfl⟩
  · exact ⟨_, rfl⟩
  · exact ⟨_, rfl⟩

/-- **What is to be warned of can be told.** -/
theorem exists_warnings (h : c.IsWhole) : ∃ ws, c.warnings = .ok ws := by
  obtain ⟨basename, hbasename⟩ : ∃ ws, basenameWarning c.basename = .ok ws :=
    exists_textWarning h.basename _ _
  obtain ⟨bundle, hbundle⟩ : ∃ ws, bundleWarning c.bundleIdentifier = .ok ws :=
    exists_textWarning h.bundleIdentifier _ _
  obtain ⟨width, hwidth⟩ := h.indentSize
  obtain ⟨entries, hcustom, hentries⟩ := h.custom
  have hoverrides : ∃ ws, overridesWarning c.custom = .ok ws := by
    rw [hcustom]
    unfold overridesWarning
    split
    next fields hfields =>
      cases hfields
      split
      next => exact ⟨_, rfl⟩
      next => exact ⟨_, rfl⟩
      next => exact ⟨_, rfl⟩
    next hother => exact absurd rfl (hother entries)
  obtain ⟨overrides, hoverrides⟩ := hoverrides
  have hindent : indentWarning c.indentSize
      = .ok (if decide (width < 1) = true then ["Invalid indent_size: " ++ (Json.int width).display]
        else []) := by
    rw [hwidth]
    rfl
  unfold warnings
  rw [hbasename, ok_bind, hindent, ok_bind, hbundle, ok_bind, if_pos rfl, hoverrides]
  exact ⟨_, rfl⟩

end IsWhole

end ScriptingBindings.Config
