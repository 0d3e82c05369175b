/-
  ScriptingBindings.Proofs.Config.RoundTrip
  ──────────────────────────────────
  **SAVING AND LOADING.**

  A saved configuration is an object of its settings with the custom ones
  written over them.  Loading sorts the members again by their names, so a
  custom setting that has the name of a setting takes its place and is lost as
  a custom one.  This is the only loss:

      load (save c) keeps c  ↔  no custom setting has the name of a setting

  What can be loaded at all is a file with the extension of configuration
  files that may be read.
-/
import ScriptingBindings.Proofs.Config.Options
import ScriptingBindings.Proofs.FileSystem.Changes
import ScriptingBindings.Proofs.Json.RoundTrip
import ScriptingBindings.Proofs.Text.Lines

namespace ScriptingBindings

/-! ## §1. Nesting. -/

namespace Json

theorem nestingFields_le {fields : List (String × Json)} {n : Nat}
    (h : ∀ field ∈ fields, field.2.nesting < n) : nestingFields fields ≤ n := by
  induction fields with
  | nil => exact Nat.zero_le n
  | cons field fields ih =>
    obtain ⟨hfield, hfields⟩ := List.forall_mem_cons.mp h
    rw [nestingFields]
    exact max_le hfield (ih hfields)

theorem nesting_lt_nestingFields {fields : List (String × Json)} {field : String × Json}
    (h : field ∈ fields) : field.2.nesting < nestingFields fields := by
  induction fields with
  | nil => exact absurd h List.not_mem_nil
  | cons first fields ih =>
    rw [nestingFields]
    rcases List.mem_cons.mp h with rfl | h
    · exact lt_max_of_lt_left (Nat.lt_succ_self _)
    · exact lt_max_of_lt_right (ih h)

theorem nesting_lt_nestingItems {items : List Json} {v : Json} (h : v ∈ items) :
    v.nesting < nestingItems items := by
  induction items with
  | nil => exact absurd h List.not_mem_nil
  | cons first items ih =>
    rw [nestingItems]
    rcases List.mem_cons.mp h with rfl | h
    · exact lt_max_of_lt_left (Nat.lt_succ_self _)
    · exact lt_max_of_lt_right (ih h)

theorem nesting_ofCodes (codes : List Text.Code) : (ofCodes codes).nesting = 0 := by
  unfold ofCodes
  split
  next => rfl
  next => rfl

/-- The items of a sequence are nested less deeply than it, or not at all. -/
theorem nesting_of_mem_sequence {v w : Json} {items : List Json} (h : v.sequence = .ok items)
    (hw : w ∈ items) : w.nesting < v.nesting ∨ w.nesting = 0 := by
  match v with
  | arr vs =>
    obtain rfl := Except.ok.inj h
    exact .inl (nesting_lt_nestingItems hw)
  | str s =>
    obtain rfl := Except.ok.inj h
    obtain ⟨c, -, rfl⟩ := List.mem_map.mp hw
    exact .inr rfl
  | broken b =>
    obtain rfl := Except.ok.inj h
    obtain ⟨code, -, rfl⟩ := List.mem_map.mp hw
    exact .inr (nesting_ofCodes [code])
  | obj fields =>
    obtain rfl := Except.ok.inj h
    obtain ⟨field, -, rfl⟩ := List.mem_map.mp hw
    exact .inr rfl
  | null | bool _ | int _ | fractional _ => exact absurd h (by simp [sequence])

/-- The value of an entry is nested no more deeply than the pair. -/
theorem nesting_le_of_entry {v : Json} {entry : String × Json} (h : v.entry = .ok entry) :
    entry.2.nesting ≤ v.nesting := by
  unfold Json.entry at h
  obtain ⟨items, hitems, h⟩ := bind_eq_ok.mp h
  split at h
  next name value =>
    obtain ⟨name', -, h⟩ := bind_eq_ok.mp h
    rw [← Except.ok.inj h]
    have := nesting_of_mem_sequence hitems (w := value) (by simp)
    dsimp only
    omega
  next => exact absurd h (by simp)

/-- A text of one character is no pair. -/
theorem entry_singleton_ne_ok (c : Char) (entry : String × Json) :
    (str (String.singleton c)).entry ≠ .ok entry := by
  unfold Json.entry
  rw [sequence, String.toList_singleton, ok_bind]
  simp

/-- Nor is one of a single code point. -/
theorem entry_ofCodes_singleton_ne_ok (code : Text.Code) (entry : String × Json) :
    (ofCodes [code]).entry ≠ .ok entry := by
  unfold ofCodes
  split
  next =>
    unfold Json.entry
    rw [sequence, ok_bind]
    simp
  next =>
    rw [List.map_singleton]
    exact entry_singleton_ne_ok code.shown entry

/-- An entry of a value is a member of it, or one of the pairs that it is a sequence of. -/
theorem mem_or_exists_of_entries {v : Json} {m : OrderedMap Json} (h : v.entries = .ok m)
    {entry : String × Json} (hentry : entry ∈ m) :
    (∃ fields, v = obj fields ∧ entry ∈ fields) ∨
      (∀ fields, v ≠ obj fields) ∧ ∃ items, v.sequence = .ok items ∧
        ∃ pair ∈ items, pair.entry = .ok entry := by
  unfold entries at h
  split at h
  next fields => exact .inl ⟨fields, rfl, Except.ok.inj h ▸ hentry⟩
  next hother =>
    obtain ⟨items, hitems, h⟩ := bind_eq_ok.mp h
    obtain ⟨pairs, hpairs, h⟩ := bind_eq_ok.mp h
    obtain rfl := Except.ok.inj h
    have hmem := (OrderedMap.mem_of_mem_putAll hentry).resolve_left List.not_mem_nil
    obtain ⟨pair, hpair, hpairEntry⟩ :=
      exists_right_of_forall₂ (mapM_eq_ok.mp hpairs).flip hmem
    exact .inr ⟨hother, items, hitems, pair, hpair, hpairEntry⟩

/-- The entries of a value are nested less deeply than the value. -/
theorem nesting_lt_of_entries {v : Json} {m : OrderedMap Json} (h : v.entries = .ok m)
    {entry : String × Json} (hentry : entry ∈ m) : entry.2.nesting < v.nesting := by
  rcases mem_or_exists_of_entries h hentry with
    ⟨fields, rfl, hmem⟩ | ⟨hother, items, hitems, pair, hpair, hpairEntry⟩
  · exact nesting_lt_nestingFields hmem
  · have hle := nesting_le_of_entry hpairEntry
    match v with
    | arr vs =>
      obtain rfl := Except.ok.inj hitems
      exact hle.trans_lt (nesting_lt_nestingItems hpair)
    | str s =>
      obtain rfl := Except.ok.inj hitems
      obtain ⟨c, -, rfl⟩ := List.mem_map.mp hpair
      exact absurd hpairEntry (entry_singleton_ne_ok c entry)
    | broken b =>
      obtain rfl := Except.ok.inj hitems
      obtain ⟨code, -, rfl⟩ := List.mem_map.mp hpair
      exact absurd hpairEntry (entry_ofCodes_singleton_ne_ok code entry)
    | obj fields => exact absurd rfl (hother fields)
    | null | bool _ | int _ | fractional _ => exact absurd hitems (by simp [sequence])

end Json

namespace FileSystem.Path

/-- The name of a path is the last part of its text, unless that says nothing. -/
theorem name_ofString {s : String} {before : List (List Char)} {last : List Char}
    (h : Text.cutAt '/' s.toList = before ++ [last]) (hlast : last ≠ [] ∧ last ≠ ['.']) :
    (ofString s).name = String.ofList last := by
  have hkept : (String.ofList last != "" && String.ofList last != ".") = true := by
    have hempty : String.ofList last ≠ "" := fun he => hlast.1 (String.ofList_inj.mp he)
    have hdot : String.ofList last ≠ "." := fun he => hlast.2 (String.ofList_inj.mp he)
    simp [hempty, hdot]
  show ((((Text.cutAt '/' s.toList).map String.ofList).filter
    (fun part => part != "" && part != ".")).getLast?).getD "" = _
  rw [h, List.map_append, List.filter_append, List.map_singleton,
    List.filter_cons_of_pos (by exact hkept), List.filter_nil, List.getLast?_concat]
  rfl

/-- A name is cut before its last dot if there is something in front of it. -/
theorem cutName_append (head : List Char) {ext : List Char} (hext : ext ≠ []) (hdot : '.' ∉ ext) :
    cutName (head ++ '.' :: ext) = if head = [] then ('.' :: ext, []) else (head, '.' :: ext) := by
  have htail : ((head ++ '.' :: ext).reverse.takeWhile (· != '.')).reverse = ext := by
    have hall : ∀ c ∈ ext.reverse, (c != '.') = true := by
      intro c hc
      simp only [bne_iff_ne]
      rintro rfl
      exact hdot (List.mem_reverse.mp hc)
    rw [List.reverse_append, List.reverse_cons, List.append_assoc,
      List.takeWhile_append_of_pos hall]
    simp
  have hhead : (head ++ '.' :: ext).take ((head ++ '.' :: ext).length - ext.length - 1) = head := by
    have hlength : (head ++ '.' :: ext).length - ext.length - 1 = head.length := by
      rw [List.length_append, List.length_cons]
      omega
    rw [hlength, List.take_left]
  unfold cutName
  simp only [htail, hhead]
  by_cases hempty : head = []
  · simp [hempty]
  · simp [hempty, hext]

end FileSystem.Path

namespace Config

open FileSystem (Path)

variable {files files' : FileSystem} {c c' : Config} {path : Path} {fields : OrderedMap Json}

/-! ## §2. Saving. -/

/-- All settings hold sound values. -/
structure IsSound (c : Config) : Prop where
  custom : c.custom.IsSound
  settings : ∀ entry ∈ c.settings, entry.2.IsSound

theorem nodup_keys_settings (c : Config) : c.settings.keys.Nodup := by
  show (["basename", "output_directory", "include_hidden", "generate_recursively",
    "standard_definitions_path", "generate_class_names_enum", "generate_strongly_typed_extensions",
    "generate_namespace_typealiases", "generate_flat_typealiases", "bundle_identifier",
    "add_comments", "indent_size"] : List String).Nodup
  decide

/-- A file is given the settings, and the custom ones written over them. -/
theorem fileMembers_eq_ok [Machine] (hcustom : c.custom = .obj fields) {m : OrderedMap Json} :
    c.fileMembers = .ok m ↔ c.isCopied = true ∧ m = c.settings.putAll fields := by
  have hentries : c.entries = .ok (c.settings.putAll fields) := by
    rw [entries, hcustom]
    rfl
  unfold fileMembers
  split
  next hcopied => rw [hentries, Except.ok.injEq, eq_comm, and_iff_right hcopied]
  next hdeep => exact iff_of_false (by simp) fun h => hdeep h.1

/-- What can be copied is read as it was written. -/
theorem read_pretty_members [Machine] (hcustom : c.custom = .obj fields) (hsound : c.IsSound)
    (hcopied : c.isCopied = true)
    (hwritable : (Json.obj (c.settings.putAll fields)).isWritable = true) :
    Json.read (Json.obj (c.settings.putAll fields)).pretty
      = .ok (.obj (c.settings.putAll fields)) := by
  have hparts : (Json.obj fields).IsSound := hcustom ▸ hsound.custom
  rw [isCopied, List.all_cons, Bool.and_eq_true, List.all_eq_true, decide_eq_true_eq, hcustom]
    at hcopied
  obtain ⟨hfields, hsettings⟩ := hcopied
  refine Json.read_pretty
    ⟨⟨OrderedMap.nodup_keys_putAll (nodup_keys_settings c) fields, ?_⟩, hwritable⟩ ?_
  · refine Json.areSoundFields_iff.mpr fun entry hentry => ?_
    rcases OrderedMap.mem_of_mem_putAll hentry with hentry | hentry
    · exact hsound.settings entry hentry
    · exact Json.areSoundFields_iff.mp hparts.2 entry hentry
  · -- What can be copied is not so deep that reading stops.
    refine Nat.lt_of_le_of_lt
      (Json.nestingFields_le (n := Machine.copies + 1) fun entry hentry => ?_) Machine.copies_lt
    rcases OrderedMap.mem_of_mem_putAll hentry with hentry | hentry
    · have := decide_eq_true_eq.mp (hsettings entry.2 (List.mem_map_of_mem hentry))
      omega
    · have := Json.nesting_lt_nestingFields hentry
      rw [Json.nesting] at hfields
      omega

theorem save_eq_ok [Machine] :
    save files c path = .ok files' ↔
      ∃ m, c.fileMembers = .ok m ∧ files.write path (Json.obj m).pretty = .ok files' ∧
        (Json.obj m).isWritable = true := by
  unfold save
  simp only [bind_eq_ok, mapError_eq_ok, Json.isWritable_iff]
  constructor
  · rintro ⟨m, hm, written, hwrite, h⟩
    split at h
    next hwritable =>
      obtain rfl := Except.ok.inj h
      exact ⟨m, hm, hwrite, hwritable⟩
    next => exact absurd h (by simp [throw, throwThe, MonadExceptOf.throw])
  · rintro ⟨m, hm, hwrite, hwritable⟩
    exact ⟨m, hm, files', hwrite, by rw [hwritable]; rfl⟩

/-- **A configuration is saved where a file can be written**, unless it is nested too deeply to be
copied, an integer in it has too many digits or a text in it is broken. -/
theorem save_eq_ok_iff [Machine] (hcustom : c.custom = .obj fields) :
    save files c path = .ok files' ↔ c.isCopied = true ∧
      (Json.obj (c.settings.putAll fields)).isWritable = true ∧
        files.write path (Json.obj (c.settings.putAll fields)).pretty = .ok files' := by
  rw [save_eq_ok]
  constructor
  · rintro ⟨m, hm, hwrite, hwritable⟩
    obtain ⟨hcopied, rfl⟩ := (fileMembers_eq_ok hcustom).mp hm
    exact ⟨hcopied, hwritable, hwrite⟩
  · rintro ⟨hcopied, hwritable, hwrite⟩
    exact ⟨_, (fileMembers_eq_ok hcustom).mpr ⟨hcopied, rfl⟩, hwrite, hwritable⟩

/-- A saved configuration is an object of its settings and the custom ones. -/
theorem read_save [Machine] (hcustom : c.custom = .obj fields) (hsound : c.IsSound)
    (hsave : save files c path = .ok files') :
    ∃ text, FileSystem.IsWritten path (.text text) files files' ∧
      Json.read text = .ok (.obj (c.settings.putAll fields)) := by
  obtain ⟨hcopied, hwritable, hwrite⟩ := (save_eq_ok_iff hcustom).mp hsave
  exact ⟨_, FileSystem.isWritten_of_writeWith hwrite,
    read_pretty_members hcustom hsound hcopied hwritable⟩

/-- A saved configuration is read unless its file has another extension or must not be read. -/
theorem readFile_save [Machine] (hcustom : c.custom = .obj fields) (hsound : c.IsSound)
    (hsave : save files c path = .ok files') {m : OrderedMap Json} :
    readFile files' path = .ok m ↔ path.hasExtension fileExtension = true ∧
      files.bars path.place .read = false ∧ m = c.settings.putAll fields := by
  obtain ⟨text, hwritten, hvalue⟩ := read_save hcustom hsound hsave
  rw [readFile_eq_ok, hwritten.isFile.hasPath, hwritten.isFile.read_eq,
    hwritten.keepsDirectories.bars_eq path.place .read, eq_self_iff_true, true_and]
  refine and_congr_right fun _ => ?_
  cases files.bars path.place .read with
  | true => simp
  | false =>
    constructor
    · rintro ⟨content, read, hread, htext, hread'⟩
      obtain rfl := Except.ok.inj hread
      obtain rfl := Option.some.inj htext
      exact ⟨rfl, Json.obj.inj (Except.ok.inj (hread'.symm.trans hvalue))⟩
    · rintro ⟨-, rfl⟩
      exact ⟨_, text, rfl, rfl, hvalue⟩

/-! ## §3. Loading. -/

/-- The members of a saved configuration, written over the defaults. -/
def reloaded (c : Config) (fields : OrderedMap Json) : OrderedMap Json :=
  (defaults "swift").putAll (c.settings.putAll fields)

/-- A file that is written is not the working directory. -/
theorem ne_of_save [Machine] {name : String} (hsave : save files c (.ofString name) = .ok files') :
    name.isEmpty = false := by
  cases hempty : name.isEmpty with
  | false => rfl
  | true =>
    obtain ⟨m, -, hwrite, -⟩ := save_eq_ok.mp hsave
    have hfree := (FileSystem.isWritten_of_writeWith hwrite).free
    rw [String.isEmpty_iff.mp hempty] at hfree
    exact absurd rfl hfree

/-- A saved configuration is loaded from its own members if its file has the right extension
and may be read, and not at all if not. -/
theorem load_save [Machine] {name : String} (hcustom : c.custom = .obj fields) (hsound : c.IsSound)
    (hsave : save files c (.ofString name) = .ok files') :
    load files' "swift" .null (.str name) = .ok c' ↔
      (Path.ofString name).hasExtension fileExtension = true ∧
        files.bars (Path.ofString name).place .read = false ∧
          ofEntries (reloaded c fields) = .ok c' := by
  have hentries : fileEntries files' (.str name) = readFile files' (.ofString name) := by
    rw [fileEntries, if_pos (by simp [Json.isTruthy, ne_of_save hsave])]
    rfl
  simp only [load_eq_ok, hentries, readFile_save hcustom hsound hsave]
  constructor
  · rintro ⟨read, m, ⟨hname, hgranted, rfl⟩, hm, hc⟩
    obtain rfl := Except.ok.inj hm
    exact ⟨hname, hgranted, hc⟩
  · rintro ⟨hname, hgranted, hc⟩
    exact ⟨_, _, ⟨hname, hgranted, rfl⟩, rfl, hc⟩

/-! ## §4. What is kept. -/

/-- The custom settings that every configuration of the language has. -/
def givenCustom : OrderedMap Json := [("type_overrides", .obj [])]

theorem get?_defaults_custom : (defaults "swift").get? customName = some (.obj givenCustom) := by
  have hlower : Text.lower "swift" = "swift" := by decide +kernel
  unfold defaults
  rw [if_pos hlower]
  rfl

theorem get?_givenCustom {key : String} (h : settingNames.contains key = true) :
    givenCustom.get? key = none := by
  refine OrderedMap.get?_eq_none fun hmem => ?_
  rw [List.mem_singleton.mp hmem] at h
  exact absurd h (by decide)

theorem settingNames_of_mem_settings {key : String} (h : key ∈ c.settings.keys) :
    settingNames.contains key = true :=
  List.contains_iff_mem.mpr (List.mem_append_left [customName] h)

/-- Every setting but the custom ones stands under its name. -/
theorem exists_get?_settings (c : Config) {key : String} (h : settingNames.contains key = true)
    (hcustom : key ≠ customName) : ∃ v, c.settings.get? key = some v := by
  refine OrderedMap.exists_get?_of_mem_keys ?_
  rcases List.mem_append.mp (List.contains_iff_mem.mp h) with hmem | hmem
  · exact hmem
  · exact absurd (List.mem_singleton.mp hmem) hcustom

theorem get?_settings_custom (c : Config) : c.settings.get? customName = none := rfl

theorem get?_reloaded (hfields : fields.keys.Nodup) (key : String) :
    (reloaded c fields).get? key = ((fields.get? key).or (c.settings.get? key)).or
      ((defaults "swift").get? key) := by
  rw [reloaded, OrderedMap.get?_putAll
    (OrderedMap.nodup_keys_putAll (nodup_keys_settings c) fields), OrderedMap.get?_putAll hfields]

/-- A setting is what stands under its name. -/
theorem ofSettings_eq {m : OrderedMap Json} (h : ∀ name, settingNames.contains name = true →
    name ≠ customName → m.get? name = c.settings.get? name) :
    ofSettings m = { c with custom := (m.get? customName).getD (.obj []) } := by
  unfold ofSettings
  rw [h "basename" (by decide) (by decide), h "output_directory" (by decide) (by decide),
    h "include_hidden" (by decide) (by decide), h "generate_recursively" (by decide) (by decide),
    h "standard_definitions_path" (by decide) (by decide),
    h "generate_class_names_enum" (by decide) (by decide),
    h "generate_strongly_typed_extensions" (by decide) (by decide),
    h "generate_namespace_typealiases" (by decide) (by decide),
    h "generate_flat_typealiases" (by decide) (by decide),
    h "bundle_identifier" (by decide) (by decide), h "add_comments" (by decide) (by decide),
    h "indent_size" (by decide) (by decide)]
  rfl

/-- The members that are no settings are custom ones. -/
theorem filter_others_reloaded (c : Config) (fields : OrderedMap Json) :
    (reloaded c fields).filter (fun entry => !settingNames.contains entry.1) =
      OrderedMap.putAll [] (fields.filter fun entry => !settingNames.contains entry.1) := by
  have hdefaults : (defaults "swift").filter (fun entry => !settingNames.contains entry.1) = [] :=
    List.filter_eq_nil_iff.mpr fun entry hentry => by
      rw [(isFitting_defaults entry hentry).known]
      decide
  have hsettings : c.settings.filter (fun entry => !settingNames.contains entry.1) = [] :=
    List.filter_eq_nil_iff.mpr fun entry hentry => by
      rw [settingNames_of_mem_settings (List.mem_map_of_mem hentry)]
      decide
  have hfilter (m entries : OrderedMap Json) :=
    OrderedMap.filter_putAll (fun name => !settingNames.contains name) m entries
  rw [reloaded, hfilter, hfilter, hdefaults, hsettings,
    OrderedMap.putAll_putAll OrderedMap.nodup_keys_nil]
  rfl

/-- A configuration that was loaded has every setting of another one and all that is custom in
it, and overrides of types if there were none. -/
structure Keeps (c c' : Config) : Prop where
  settings : c'.settings = c.settings
  custom : ∃ fields fields', c.custom = .obj fields ∧ c'.custom = .obj fields' ∧
    (OrderedMap.keys fields').Nodup ∧ ∀ key, OrderedMap.get? fields' key
      = (OrderedMap.get? fields key).or (givenCustom.get? key)

section Others

variable (hothers : ∀ key ∈ fields.keys, settingNames.contains key = false)

include hothers

theorem get?_reloaded_known (hfields : fields.keys.Nodup) {key : String}
    (h : settingNames.contains key = true) :
    OrderedMap.get? ((reloaded c fields).filter fun entry => settingNames.contains entry.1) key
      = (c.settings.get? key).or ((defaults "swift").get? key) := by
  have hnone : fields.get? key = none :=
    OrderedMap.get?_eq_none fun hmem => absurd (h.symm.trans (hothers key hmem)) (by decide)
  rw [OrderedMap.get?_filter (p := settingNames.contains) h, get?_reloaded hfields, hnone]
  rfl

theorem get?_reloaded_setting (hfields : fields.keys.Nodup) {key : String}
    (h : settingNames.contains key = true) (hcustom : key ≠ customName) :
    OrderedMap.get? ((reloaded c fields).filter fun entry => settingNames.contains entry.1) key
      = c.settings.get? key := by
  obtain ⟨v, hv⟩ := exists_get?_settings c h hcustom
  rw [get?_reloaded_known hothers hfields h, hv]
  rfl

theorem get?_reloaded_custom (hfields : fields.keys.Nodup) :
    OrderedMap.get? ((reloaded c fields).filter fun entry => settingNames.contains entry.1)
      customName = some (.obj givenCustom) := by
  rw [get?_reloaded_known hothers hfields (by decide), get?_settings_custom,
    get?_defaults_custom]
  rfl

theorem filter_others : fields.filter (fun entry => !settingNames.contains entry.1) = fields :=
  List.filter_eq_self.mpr fun entry hentry => by
    rw [hothers entry.1 (List.mem_map_of_mem hentry)]
    rfl

/-- Custom settings with names of their own are written over the given ones. -/
theorem ofEntries_reloaded (hfields : fields.keys.Nodup) :
    ofEntries (reloaded c fields) = .ok { c with custom := .obj (givenCustom.putAll fields) } := by
  have hcustom := get?_reloaded_custom (c := c) hothers hfields
  have hwritten : givenCustom.putAll (OrderedMap.putAll [] fields) = givenCustom.putAll fields :=
    OrderedMap.putAll_putAll OrderedMap.nodup_keys_nil fields
  unfold ofEntries
  dsimp only
  rw [filter_others_reloaded, filter_others hothers, hcustom]
  split
  next hnone =>
    rw [List.isEmpty_iff.mp hnone] at hwritten
    rw [ofSettings_eq fun _ h hne => get?_reloaded_setting hothers hfields h hne, hcustom,
      ← hwritten]
    rfl
  next =>
    have hput (key : String) (h : settingNames.contains key = true) (hne : key ≠ customName) :
        OrderedMap.get? (OrderedMap.put
          ((reloaded c fields).filter fun entry => settingNames.contains entry.1) customName
            (.obj (givenCustom.putAll (OrderedMap.putAll [] fields)))) key
          = c.settings.get? key := by
      rw [OrderedMap.get?_put, if_neg (Ne.symm hne), get?_reloaded_setting hothers hfields h hne]
    show Except.ok (ofSettings _) = _
    rw [ofSettings_eq hput, OrderedMap.get?_put, if_pos rfl, hwritten]
    rfl

end Others

/-- Settings that are written over the given ones are kept. -/
theorem keeps_putAll (hcustom : c.custom = .obj fields) (hfields : fields.keys.Nodup) :
    Keeps c { c with custom := .obj (givenCustom.putAll fields) } where
  settings := rfl
  custom := ⟨fields, _, hcustom, rfl, OrderedMap.nodup_keys_putAll (by decide) fields,
    OrderedMap.get?_putAll hfields⟩

/-- What stands under the name of a setting among the custom ones was so before. -/
theorem get?_custom {m fields' : OrderedMap Json} (h : ofEntries m = .ok c')
    (hcustom : c'.custom = .obj fields') {key : String} (hkey : settingNames.contains key = true) :
    ∃ given, ((m.get? customName).getD (.obj [])).entries = .ok given ∧
      OrderedMap.get? fields' key = given.get? key := by
  unfold ofEntries at h
  dsimp only at h
  rw [OrderedMap.get?_filter (p := settingNames.contains) (by decide)] at h
  split at h
  next =>
    obtain rfl := Except.ok.inj h
    have hvalue : (m.get? customName).getD (.obj []) = .obj fields' := by
      rw [← hcustom, ← OrderedMap.get?_filter (p := settingNames.contains) (by decide)]
      rfl
    exact ⟨fields', by rw [hvalue]; rfl, rfl⟩
  next =>
    obtain ⟨given, hgiven, h⟩ := bind_eq_ok.mp h
    obtain rfl := Except.ok.inj h
    refine ⟨given, hgiven, ?_⟩
    have hvalue : Json.obj (given.putAll (m.filter fun entry => !settingNames.contains entry.1))
        = .obj fields' := by
      rw [← hcustom]
      show _ = (OrderedMap.get? (OrderedMap.put _ customName _) customName).getD _
      rw [OrderedMap.get?_put, if_pos rfl]
      rfl
    obtain rfl := Json.obj.inj hvalue
    have hnone : OrderedMap.get?
        (m.filter fun entry => !settingNames.contains entry.1).reverse key = none := by
      refine OrderedMap.get?_eq_none fun hmem => ?_
      obtain ⟨entry, hentry, rfl⟩ := List.mem_map.mp hmem
      have := (List.mem_filter.mp (List.mem_reverse.mp hentry)).2
      rw [hkey] at this
      exact absurd this (by decide)
    rw [OrderedMap.get?_putAll_reverse, hnone]
    rfl

/-- **A custom setting with the name of a setting is not kept**: it takes the place of the
setting, and one under the name of the custom settings would have to hold itself. -/
theorem not_keeps {key : String} (hcustom : c.custom = .obj fields) (hfields : fields.keys.Nodup)
    (hkey : key ∈ fields.keys) (hsetting : settingNames.contains key = true)
    (h : ofEntries (reloaded c fields) = .ok c') : ¬ Keeps c c' := by
  intro hkeeps
  obtain ⟨own, fields', hown, hcustom', -, hget⟩ := hkeeps.custom
  obtain rfl := Json.obj.inj (hown.symm.trans hcustom)
  obtain ⟨v, hv⟩ := OrderedMap.exists_get?_of_mem_keys hkey
  -- A member `custom` stands in the file for all that is given; without it the defaults do.
  cases hself : OrderedMap.get? own customName with
  | none =>
    obtain ⟨given, hgiven, hsame⟩ := get?_custom h hcustom' hsetting
    rw [get?_reloaded hfields, hself, get?_settings_custom, get?_defaults_custom] at hgiven
    obtain rfl := Except.ok.inj hgiven
    rw [hget key, hv, get?_givenCustom hsetting] at hsame
    exact absurd hsame (by simp)
  | some w =>
    obtain ⟨given, hgiven, hsame⟩ := get?_custom h hcustom'
      (show settingNames.contains customName = true by decide)
    rw [get?_reloaded hfields, hself] at hgiven
    rw [hget customName, hself] at hsame
    -- The value would be one of its own entries.
    exact absurd (Json.nesting_lt_of_entries hgiven (OrderedMap.mem_of_get? hsame.symm))
      (lt_irrefl _)

/-- A path has the extension if its text ends in it behind a name. -/
theorem hasExtension_iff (stem : String) :
    (Path.ofString (stem ++ fileExtension)).hasExtension fileExtension = true ↔
      ∃ c, stem.toList.getLast? = some c ∧ c ≠ '/' := by
  obtain ⟨before, tail, hcut, htail⟩ := Text.exists_cutAt_append '/' stem.toList
  have hparts : Text.cutAt '/' (stem ++ fileExtension).toList
      = before ++ [tail ++ fileExtension.toList] := by
    rw [String.toList_append]
    exact hcut _ (by decide)
  have hname : (Path.ofString (stem ++ fileExtension)).name
      = String.ofList (tail ++ fileExtension.toList) :=
    FileSystem.Path.name_ofString hparts (by cases tail <;> simp [fileExtension])
  have hcutName :=
    FileSystem.Path.cutName_append tail (show "json".toList ≠ [] by decide) (by decide)
  rw [← htail]
  unfold Path.hasExtension Path.extension
  rw [hname, String.toList_ofList, show fileExtension.toList = '.' :: "json".toList from rfl,
    hcutName]
  by_cases hempty : tail = []
  · rw [if_pos hempty]
    exact iff_of_false (by decide +kernel) (fun h => h hempty)
  · rw [if_neg hempty]
    refine iff_of_true ?_ hempty
    show (Text.lower (String.ofList ('.' :: "json".toList)) == fileExtension) = true
    decide +kernel

/-- **What is saved is loaded again without loss** exactly if the file has a name in front of its
extension, it may be read, and no custom setting has the name of a setting.  It is saved where a
file can be written, unless it is nested too deeply to be copied, an integer in it has too many
digits or a text in it is broken. -/
theorem load_save_keeps_iff [Machine] (files files' : FileSystem) (stem : String)
    (hcustom : c.custom = .obj fields) (hsound : c.IsSound) :
    (save files c (.ofString (stem ++ fileExtension)) = .ok files' ↔ c.isCopied = true ∧
      (Json.obj (c.settings.putAll fields)).isWritable = true ∧
        files.write (.ofString (stem ++ fileExtension))
          (Json.obj (c.settings.putAll fields)).pretty = .ok files') ∧
      (save files c (.ofString (stem ++ fileExtension)) = .ok files' →
        ((∃ c', load files' "swift" .null (.str (stem ++ fileExtension)) = .ok c' ∧ Keeps c c') ↔
          (∃ last, stem.toList.getLast? = some last ∧ last ≠ '/') ∧
            files.bars (Path.ofString (stem ++ fileExtension)).place .read = false ∧
              ∀ key ∈ fields.keys, key ∉ settingNames)) := by
  refine ⟨save_eq_ok_iff hcustom, fun hsave => ?_⟩
  have hfields : fields.keys.Nodup := by
    have := hsound.custom
    rw [hcustom] at this
    exact this.1
  simp only [load_save hcustom hsound hsave, hasExtension_iff]
  constructor
  · rintro ⟨c', ⟨hname, hgranted, hmade⟩, hkeeps⟩
    refine ⟨hname, hgranted, fun key hkey hmem => ?_⟩
    exact not_keeps hcustom hfields hkey (List.contains_iff_mem.mpr hmem) hmade hkeeps
  · rintro ⟨hname, hgranted, hothers⟩
    refine ⟨_, ⟨hname, hgranted, ofEntries_reloaded (fun key hkey => ?_) hfields⟩,
      keeps_putAll hcustom hfields⟩
    simpa using hothers key hkey

/-- A configuration with a name and an import. -/
def notes : Config where
  basename := .str "Notes"
  custom := .obj [("extra_imports", .arr [.str "AppKit"])]

section Usual

attribute [local instance] Machine.usual

theorem load_save_keeps_iff_notes :
    ∃ files', save {} notes (.ofString ("saved" ++ fileExtension)) = .ok files' ∧
      ∃ c', load files' "swift" .null (.str ("saved" ++ fileExtension)) = .ok c' ∧
        Keeps notes c' := by
  have hsound : notes.IsSound := by
    refine ⟨⟨by decide, ⟨trivial, trivial⟩, trivial⟩, ?_⟩
    simp [notes, settings, Json.IsSound]
  obtain ⟨files', hwrite⟩ : ∃ files', FileSystem.write {} (.ofString ("saved" ++ fileExtension))
      (Json.obj (notes.settings.putAll [("extra_imports", .arr [.str "AppKit"])])).pretty
        = .ok files' := ⟨_, rfl⟩
  obtain ⟨hsaved, hkept⟩ :=
    load_save_keeps_iff {} files' "saved" (rfl : notes.custom = .obj _) hsound
  have hsave := hsaved.mpr ⟨by decide, by decide, hwrite⟩
  exact ⟨files', hsave, (hkept hsave).mpr ⟨⟨'d', by decide, by decide⟩, by decide, by decide⟩⟩

/-- The width of a level as a custom setting. -/
def indented : Config where
  custom := .obj [("indent_size", .int 2)]

/-- **A custom width is lost**, and the width of the configuration with it. -/
theorem custom_width_lost :
    ∃ files' c', save {} indented (.ofString "c.json") = .ok files' ∧
      load files' "swift" .null (.str "c.json") = .ok c' ∧
        c'.indentSize = .int 2 ∧ c'.custom = .obj givenCustom ∧ ¬ Keeps indented c' := by
  have hsound : indented.IsSound := by
    refine ⟨⟨by decide, trivial, trivial⟩, ?_⟩
    simp [indented, settings, Json.IsSound]
  have hmade : ofEntries (reloaded indented [("indent_size", .int 2)])
      = .ok { indentSize := .int 2, custom := .obj givenCustom } := by
    have hlower : Text.lower "swift" = "swift" := by decide +kernel
    unfold reloaded defaults
    rw [if_pos hlower]
    rfl
  obtain ⟨files', hsave⟩ : ∃ files', save {} indented (.ofString "c.json") = .ok files' :=
    ⟨_, (save_eq_ok_iff rfl).mpr ⟨by decide, by decide, rfl⟩⟩
  refine ⟨files', _, hsave, (load_save rfl hsound hsave).mpr ⟨by decide +kernel, by decide, hmade⟩, rfl,
    rfl, ?_⟩
  exact not_keeps rfl (by decide) List.mem_cons_self
    (show settingNames.contains "indent_size" = true by decide) hmade

end Usual

end Config

end ScriptingBindings
