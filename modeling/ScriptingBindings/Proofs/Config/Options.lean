/-
  ScriptingBindings.Proofs.Config.Options
  ──────────────────────────────────
  **SETTINGS COLLECTED IN ONE MAP.**

  The settings of a file and those that are given directly can be collected
  in one map before they are loaded.  Without the basename, which is given
  apart, they make the same configuration but for that:

      load file settings = .ok c  →  load none (options file settings)
                                       = .ok { c with basename := null }
-/
import ScriptingBindings.Proofs.Config.Typed

namespace ScriptingBindings.Config

/-! ## §1. Options. -/

/-- The name of the setting that names start with. -/
def basenameName : String := "basename"

/-- The entries of a file and the settings over them, without the basename. -/
def options (entries settings : OrderedMap Json) : OrderedMap Json :=
  (OrderedMap.putAll [] (entries ++ settings)).erase basenameName

variable {m entries settings : OrderedMap Json} {c : Config} {name : String}

theorem nodup_keys_collected (entries settings : OrderedMap Json) :
    (OrderedMap.putAll [] (entries ++ settings)).keys.Nodup :=
  OrderedMap.nodup_keys_putAll OrderedMap.nodup_keys_nil _

/-- Entries are written over others whether there are any or not. -/
theorem overlaid_obj (m entries : OrderedMap Json) :
    overlaid m (.obj entries) = .ok (m.putAll entries) := by
  cases entries with
  | nil => rfl
  | cons entry rest => rfl

/-- The basename is the only setting that its own entry makes. -/
theorem ofSettings_erase_basename (m : OrderedMap Json) :
    ofSettings (m.erase basenameName) = { ofSettings m with basename := .null } := by
  have hother (name : String) (h : name ≠ basenameName) :
      OrderedMap.get? (m.erase basenameName) name = m.get? name := OrderedMap.get?_erase_of_ne h
  have hself : OrderedMap.get? (m.erase basenameName) "basename" = none :=
    OrderedMap.get?_erase_self m basenameName
  unfold ofSettings
  rw [hself, hother "output_directory" (by decide), hother "include_hidden" (by decide),
    hother "generate_recursively" (by decide), hother "standard_definitions_path" (by decide),
    hother "generate_class_names_enum" (by decide),
    hother "generate_strongly_typed_extensions" (by decide),
    hother "generate_namespace_typealiases" (by decide),
    hother "generate_flat_typealiases" (by decide), hother "bundle_identifier" (by decide),
    hother "add_comments" (by decide), hother "indent_size" (by decide),
    hother customName (by decide)]
  rfl

/-- Erasing the basename changes nothing else in a configuration. -/
theorem ofEntries_erase_basename (h : ofEntries m = .ok c) :
    ofEntries (m.erase basenameName) = .ok { c with basename := .null } := by
  have hknown : (m.erase basenameName).filter (fun entry => settingNames.contains entry.1)
      = OrderedMap.erase (m.filter fun entry => settingNames.contains entry.1) basenameName := by
    simp only [OrderedMap.erase, List.filter_filter, Bool.and_comm]
  have hothers : (m.erase basenameName).filter (fun entry => !settingNames.contains entry.1)
      = m.filter fun entry => !settingNames.contains entry.1 := by
    rw [OrderedMap.erase, List.filter_filter]
    refine List.filter_congr fun entry _ => ?_
    by_cases hname : entry.1 = basenameName
    · rw [hname]
      decide
    · simp [hname]
  unfold ofEntries at h ⊢
  rw [hknown, hothers]
  dsimp only at h ⊢
  split at h
  next hnone =>
    rw [if_pos hnone, ofSettings_erase_basename, Except.ok.inj h]
  next hsome =>
    obtain ⟨given, hgiven, h⟩ := bind_eq_ok.mp h
    rw [if_neg hsome, OrderedMap.get?_erase_of_ne (by decide), hgiven, ok_bind]
    have hcustom : customName ≠ basenameName := by decide
    have hput := OrderedMap.erase_put (m.filter fun entry => settingNames.contains entry.1)
      customName basenameName (Json.obj (OrderedMap.putAll given
        (m.filter fun entry => !settingNames.contains entry.1)))
    rw [if_neg hcustom] at hput
    rw [← hput, ofSettings_erase_basename, Except.ok.inj h]
    rfl

/-- The defaults hold no basename. -/
theorem erase_defaults : (defaults "swift").erase basenameName = defaults "swift" := by
  have hlower : Text.lower "swift" = "swift" := by decide +kernel
  unfold defaults
  rw [if_pos hlower]
  rfl

/-- What is loaded is made of the defaults with everything that is collected over them. -/
theorem load_eq_ok_collected [Machine] {files : FileSystem} {file : Json}
    (hentries : fileEntries files file = .ok entries) :
    load files "swift" (.obj settings) file = .ok c ↔
      ofEntries ((defaults "swift").putAll (OrderedMap.putAll [] (entries ++ settings))) = .ok c := by
  have hcollected : (defaults "swift").putAll (OrderedMap.putAll [] (entries ++ settings))
      = ((defaults "swift").putAll entries).putAll settings := by
    rw [OrderedMap.putAll_putAll OrderedMap.nodup_keys_nil, OrderedMap.putAll_append]
    rfl
  rw [load_eq_ok, hcollected]
  constructor
  · rintro ⟨read, m, hread, hm, hc⟩
    obtain rfl := Except.ok.inj (hentries.symm.trans hread)
    obtain rfl := Except.ok.inj ((overlaid_obj _ _).symm.trans hm)
    exact hc
  · intro hc
    exact ⟨entries, _, hentries, overlaid_obj _ _, hc⟩

/-- **The options alone make the same configuration, but for its basename.** -/
theorem load_options [Machine] {files : FileSystem} {file : Json}
    (hentries : fileEntries files file = .ok entries)
    (h : load files "swift" (.obj settings) file = .ok c) :
    load files "swift" (.obj (options entries settings)) .null
      = .ok { c with basename := .null } := by
  have herased := ofEntries_erase_basename ((load_eq_ok_collected hentries).mp h)
  rw [OrderedMap.erase_putAll, erase_defaults] at herased
  exact load_eq_ok.mpr ⟨[], _, rfl, overlaid_obj _ _, herased⟩

/-! ## §2. Settings of a configuration. -/

/-- A setting is the one that was collected, or the default. -/
theorem exists_ofSettings [Machine] {files : FileSystem} {file : Json}
    (hentries : fileEntries files file = .ok entries)
    (h : load files "swift" (.obj settings) file = .ok c) :
    ∃ m, c = ofSettings m ∧ ∀ name, settingNames.contains name = true → name ≠ customName →
      name ≠ basenameName → m.get? name
        = ((options entries settings).get? name).or ((defaults "swift").get? name) := by
  have hmade := (load_eq_ok_collected hentries).mp h
  have hfound (name : String) (hbasename : name ≠ basenameName) :
      OrderedMap.get? ((defaults "swift").putAll (OrderedMap.putAll [] (entries ++ settings))) name
        = ((options entries settings).get? name).or ((defaults "swift").get? name) := by
    rw [OrderedMap.get?_putAll (nodup_keys_collected entries settings), options,
      OrderedMap.get?_erase_of_ne hbasename]
  unfold ofEntries at hmade
  dsimp only at hmade
  split at hmade
  next =>
    refine ⟨_, (Except.ok.inj hmade).symm, fun name hknown _ hbasename => ?_⟩
    rw [OrderedMap.get?_filter (p := settingNames.contains) hknown, hfound name hbasename]
  next =>
    obtain ⟨given, -, hmade⟩ := bind_eq_ok.mp hmade
    refine ⟨_, (Except.ok.inj hmade).symm, fun name hknown hcustom hbasename => ?_⟩
    rw [OrderedMap.get?_put, if_neg (Ne.symm hcustom),
      OrderedMap.get?_filter (p := settingNames.contains) hknown, hfound name hbasename]

/-- Building is set up from the options as it is from the configuration. -/
theorem quickSettings_options [Machine] {files : FileSystem} {file : Json}
    (hentries : fileEntries files file = .ok entries)
    (h : load files "swift" (.obj settings) file = .ok c) :
    Request.quickSettings (options entries settings)
      = { includeHidden := c.includeHidden.isTruthy, standard := c.standardDefinitionsPath } := by
  obtain ⟨m, rfl, hm⟩ := exists_ofSettings hentries h
  have hlower : Text.lower "swift" = "swift" := by decide +kernel
  have hhidden := hm "include_hidden" (by decide) (by decide) (by decide)
  have hstandard := hm "standard_definitions_path" (by decide) (by decide) (by decide)
  rw [defaults, if_pos hlower] at hhidden hstandard
  unfold Request.quickSettings ofSettings
  rw [hhidden, hstandard]
  cases (options entries settings).get? "include_hidden" <;>
    cases (options entries settings).get? "standard_definitions_path" <;> rfl

end ScriptingBindings.Config
