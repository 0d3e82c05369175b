/-
  ScriptingBindings.Proofs.Command.Configuration
  ──────────────────────────────────
  **THE CONFIGURATION OF A RUN.**

  A run is configured where the settings can be loaded, there is a basename
  that names can start with, and nothing is to be warned of:

      configure a files = .ok (c, basename)
        →  c = { loaded with basename := basename },  warnings c = .ok []

  Arguments alone make a configuration of the declared kinds: only a file can
  hold a value of another kind, or set the width of a level.
-/
import ScriptingBindings.Command.Run
import ScriptingBindings.Proofs.Config.Typed

namespace ScriptingBindings

/-! ## §1. Basenames. -/

/-- A text of some shape holds no character that the shape does not name, apart from the line
feed at its end. -/
theorem Config.not_mem_of_isShaped {first rest : Char → Bool} {s : List Char} {c : Char}
    (h : isShaped first rest s = true) (hfirst : first c = false) (hrest : rest c = false)
    (hline : c ≠ '\n') : c ∉ s := by
  cases s with
  | nil => exact List.not_mem_nil
  | cons d cs =>
    rw [isShaped, Bool.and_eq_true] at h
    obtain ⟨hd, htail⟩ := h
    have hne : c ≠ d := by
      rintro rfl
      exact absurd (hd.symm.trans hfirst) (by simp)
    have htake : c ∉ cs.takeWhile rest := by
      intro hc
      have hkept : rest c = true := List.all_eq_true.mp List.all_takeWhile c hc
      exact absurd (hkept.symm.trans hrest) (by simp)
    have hdrop : c ∉ cs.dropWhile rest := by
      split at htail
      next hnil => rw [hnil]; exact List.not_mem_nil
      next hone => rw [hone, List.mem_singleton]; exact hline
      next => exact absurd htail (by simp)
    have hsplit : cs = cs.takeWhile rest ++ cs.dropWhile rest :=
      List.takeWhile_append_dropWhile.symm
    rw [List.mem_cons, hsplit, List.mem_append]
    rintro (hc | hc | hc)
    · exact hne hc
    · exact htake hc
    · exact hdrop hc

/-- A basename holds letters, digits and underscores, apart from the line feed at its end. -/
theorem Config.not_mem_of_isBasename {s : String} (h : isBasename s = true) {c : Char}
    (hc : (c.isAlphanum || c == '_') = false) (hline : c ≠ '\n') : c ∉ s.toList := by
  refine not_mem_of_isShaped h ?_ hc hline
  simp only [Char.isAlphanum, Bool.or_eq_false_iff] at hc ⊢
  exact ⟨hc.1.1, hc.2⟩

namespace Command

/-! ## §2. Loading. -/

variable {a : Arguments} {files : FileSystem} {c : Config} {basename : String}

/-- The configuration as it is loaded, before its basename is settled. -/
def Arguments.load [Machine] (a : Arguments) (files : FileSystem) : Except ConfigFailure Config :=
  Config.load files Language.swift.name (.obj a.settings) (.str (a.value .config))

/-- **A run is configured by what is loaded and a basename, without any warning.** -/
theorem configure_eq_ok [Machine] :
    a.configure files = .ok (c, basename) ↔
      ∃ loaded, a.load files = .ok loaded ∧ a.basename loaded.basename = .ok basename ∧
        Config.isBasename basename = true ∧
          c = { loaded with basename := .str basename } ∧ c.warnings = .ok [] := by
  unfold Arguments.configure
  rw [bind_eq_ok]
  refine exists_congr fun loaded => ?_
  rw [mapError_eq_ok, bind_eq_ok]
  refine and_congr Iff.rfl ?_
  constructor
  · rintro ⟨b, hb, h⟩
    split at h
    next => exact absurd h (by simp)
    next hshape =>
      obtain ⟨ws, hws, h⟩ := bind_eq_ok.mp h
      rw [mapError_eq_ok] at hws
      split at h
      next hempty =>
        obtain ⟨rfl, rfl⟩ := Prod.mk.inj (Except.ok.inj h)
        exact ⟨hb, by simpa using hshape, rfl, List.isEmpty_iff.mp hempty ▸ hws⟩
      next => exact absurd h (by simp)
  · rintro ⟨hb, hshape, rfl, hws⟩
    refine ⟨basename, hb, ?_⟩
    rw [hshape, if_neg (by simp)]
    dsimp only
    rw [hws]
    rfl

/-! ## §3. Settings of arguments. -/

namespace Arguments

/-- The arguments set texts and truth values, each under the name of a setting of that kind. -/
theorem forall_settings {P : String × Json → Prop}
    (htext : ∀ name ∈ "output_directory" :: Config.textSettings, ∀ s, P (name, .str s))
    (hflag : ∀ name ∈ Config.flagSettings, ∀ b, P (name, .bool b)) :
    ∀ entry ∈ a.settings, P entry := by
  have htexts {name : String} (hname : name ∈ "output_directory" :: Config.textSettings)
      (s : Switch) : ∀ entry ∈ settings.text a name s, P entry := by
    intro entry he
    unfold settings.text at he
    split at he
    next => exact absurd he List.not_mem_nil
    next => exact List.mem_singleton.mp he ▸ htext name hname _
  have hflags {name : String} (hname : name ∈ Config.flagSettings) (s : Switch) :
      ∀ entry ∈ settings.flag a name s, P entry := by
    intro entry he
    unfold settings.flag at he
    split at he
    next => exact List.mem_singleton.mp he ▸ hflag name hname true
    next => exact absurd he List.not_mem_nil
  have hcomments : ∀ entry ∈ (if a.has .noComments then [("add_comments", .bool false)] else []
      : OrderedMap Json), P entry := by
    intro entry he
    split at he
    next => exact List.mem_singleton.mp he ▸ hflag "add_comments" (by decide) false
    next => exact absurd he List.not_mem_nil
  unfold settings
  simp only [List.forall_mem_append, and_assoc]
  exact ⟨htexts (by decide) _, htexts (by decide) _, hflags (by decide) _, hflags (by decide) _,
    htexts (by decide) _, hflags (by decide) _, hflags (by decide) _, hflags (by decide) _,
    hflags (by decide) _, htexts (by decide) _, hcomments⟩

theorem isFitting_settings : ∀ entry ∈ a.settings, Config.IsFitting entry := by
  have htexts : ∀ name ∈ "output_directory" :: Config.textSettings,
      Config.settingNames.contains name = true := by decide
  have hflags : ∀ name ∈ Config.flagSettings, Config.settingNames.contains name = true := by
    decide
  exact forall_settings (fun name hname s => ⟨htexts name hname, Config.fits_str hname s⟩)
    fun name hname b => ⟨hflags name hname, Config.fits_flag hname b⟩

/-- **Without a configuration file the configuration is of the declared kinds**, without a broken
text, and a level is four spaces wide. -/
theorem exists_load [Machine] (files : FileSystem) (hfile : (a.value .config).isEmpty = true) :
    ∃ c, a.load files = .ok c ∧ c.IsWhole ∧ c.indentSize = .int 4 := by
  obtain ⟨m, hload, hmem, hwhole⟩ := Config.exists_load a.isFitting_settings files hfile
  refine ⟨_, hload, hwhole, ?_⟩
  show (m.get? "indent_size").getD (.int 4) = .int 4
  cases hget : m.get? "indent_size" with
  | none => rfl
  | some v =>
    rcases hmem _ (OrderedMap.mem_of_get? hget) with he | he
    · exact Config.eq_of_mem_defaults he
    · have htexts : ∀ name ∈ "output_directory" :: Config.textSettings, name ≠ "indent_size" := by
        decide
      have hflags : ∀ name ∈ Config.flagSettings, name ≠ "indent_size" := by decide
      have hother : ∀ entry ∈ a.settings, entry.1 ≠ "indent_size" :=
        forall_settings (fun name hname _ => htexts name hname) fun name hname _ => hflags name hname
      exact absurd rfl (hother _ he)

end Arguments

end Command

end ScriptingBindings
