/-
  ScriptingBindings.Proofs.Swift.Setters
  ──────────────────────────────────
  **WHICH PROPERTIES CAN BE SET.**

  Properties are declared under the name they are read by, the first of each
  name.  Setters have names of another make and are declared afterwards, for
  all properties that can be set: the first of each setter's name, unless a
  property or an accessor has it.

      playList, playlist     two properties, one setter's name:  setPlaylist

  So a property that can be set is without a setter exactly where its setter's
  name is taken, and no setter is that of a property that is only to be read.
-/
import ScriptingBindings.Proofs.Swift.DeclarationLines
import ScriptingBindings.Proofs.Swift.MemberLines

namespace ScriptingBindings.Swift

open Dictionary

variable {o : Options} {names : Names} {title : String}

/-! ## §1. The names of setters. -/

/-- **No setter has an untyped name.** -/
theorem setter_ne_untyped (property accessor : String) :
    Names.setter property ≠ Names.untyped accessor := by
  intro h
  have hfirst := congrArg (fun s : String => s.toList.head?) h
  simp [Names.setter, Names.untyped] at hfirst

theorem setter_ne_identifierName (property : String) : Names.setter property ≠ identifierName := by
  intro h
  have hfirst := congrArg (fun s : String => s.toList.head?) h
  simp [Names.setter, identifierName] at hfirst

/-- An accessor is in the way of a setter by its own name only. -/
theorem setter_mem_taken_iff {a : AccessorDeclaration}
    (h : ∀ u, a.untyped = some u → u = Names.untyped a.name) (property : String) :
    Names.setter property ∈ a.taken ↔ Names.setter property = a.name := by
  rw [AccessorDeclaration.taken, List.mem_cons, or_iff_left_iff_imp, Option.mem_toList]
  intro hu
  exact absurd (h _ hu) (setter_ne_untyped property a.name)

/-! ## §2. Which setters are declared. -/

/-- The name of the setter of a property. -/
def setterName (q : Property) : String := Names.setter q.name

/-- The properties that can be set. -/
def settable (ps : List Property) : List Property :=
  ps.filter fun q => !q.isReadOnly

/-- What is declared as the setter of a property. -/
theorem declareSetter_eq_ok {q : Property} {s : SetterDeclaration} :
    declareSetter o names q = .ok s ↔
      Names.member q.name = .ok s.parameter ∧ s.name = setterName q ∧
        ∃ r, mapType o.overrides names q.type = .ok r ∧ s.type = r.spelling := by
  rw [declareSetter_eq]
  simp only [bind_eq_ok, pure_eq_ok, Except.ok.injEq]
  constructor
  · rintro ⟨parameter, hparameter, r, hr, rfl⟩
    exact ⟨hparameter, rfl, r, hr, rfl⟩
  · rintro ⟨hparameter, hname, r, hr, htype⟩
    refine ⟨s.parameter, hparameter, r, hr, ?_⟩
    cases s
    simp_all [setterName]

/-- Which setters are declared depends only on which of their names are taken. -/
theorem declareSetters_congr {taken taken' : List String} {ps : List Property}
    (h : ∀ p, Names.setter p ∈ taken ↔ Names.setter p ∈ taken') :
    declareSetters o names taken ps = declareSetters o names taken' ps := by
  induction ps generalizing taken taken' with
  | nil => rfl
  | cons p ps ih =>
    rw [declareSetters_cons, declareSetters_cons, ih h]
    cases hs : declareSetter o names p with
    | error e => rfl
    | ok s =>
      have hcontains : taken.contains s.name = taken'.contains s.name := by
        rw [Bool.eq_iff_iff, List.contains_iff_mem, List.contains_iff_mem,
          (declareSetter_eq_ok.mp hs).2.1]
        exact h p.name
      have hmore : declareSetters o names (s.name :: taken) ps
          = declareSetters o names (s.name :: taken') ps :=
        ih fun q => by rw [List.mem_cons, List.mem_cons, h q]
      simp only [ok_bind, hcontains, hmore]

/-- **Setters are declared for the first property of each setter's name** among those that can be
set, unless the name is taken. -/
theorem forall₂_declareSetters {taken : List String} {ps : List Property}
    {ss : List SetterDeclaration} (h : declareSetters o names taken ps = .ok ss) :
    List.Forall₂ (fun q s => declareSetter o names q = .ok s)
      (firstOfEach setterName taken (settable ps)) ss := by
  -- Each setter takes its name before the rest is declared, so the names taken are free here.
  induction ps generalizing taken ss with
  | nil =>
    rw [← Except.ok.inj h]
    exact .nil
  | cons q ps ih =>
    rw [declareSetters_cons] at h
    unfold settable
    split at h
    next hread =>
      rw [List.filter_cons, if_neg (by simp [hread])]
      exact ih h
    next hread =>
      rw [List.filter_cons, if_pos (by simp [hread])]
      obtain ⟨s, hs, h⟩ := bind_eq_ok.mp h
      have hname : s.name = setterName q := (declareSetter_eq_ok.mp hs).2.1
      split at h
      next htaken =>
        rw [List.contains_iff_mem, hname] at htaken
        rw [firstOfEach_cons_of_mem setterName htaken]
        exact ih h
      next htaken =>
        obtain ⟨more, hmore, h⟩ := bind_eq_ok.mp h
        rw [List.contains_iff_mem, hname] at htaken
        rw [firstOfEach_cons_of_not_mem setterName htaken, ← Except.ok.inj h, ← hname]
        exact .cons hs (ih hmore)

/-! ## §3. The properties that declared names stem from. -/

/-- The first property that is read by a name. -/
def firstRead? (ps : List Property) (name : String) : Option Property :=
  ps.find? fun q => decide (readName q = .ok name)

theorem firstRead?_cons (q : Property) (ps : List Property) (name : String) :
    firstRead? (q :: ps) name
      = if readName q = .ok name then some q else firstRead? ps name := by
  unfold firstRead?
  by_cases h : readName q = .ok name
  · rw [if_pos h, List.find?_cons_of_pos (by simpa using h)]
  · rw [if_neg h, List.find?_cons_of_neg (by simpa using h)]

/-- A property that is read is read by its own name: so is the identifier. -/
theorem readName_eq (q : Property) : readName q = Names.member q.name := by
  unfold readName
  split
  next hid =>
    -- The identifier is sanitized to itself.
    rw [hid]
    decide +kernel
  next => rfl

/-- A property is declared with its name and its type. -/
structure IsReadOf (o : Options) (names : Names) (q : Property) (d : PropertyDeclaration) :
    Prop where
  name : Names.member q.name = .ok d.name
  type : ∃ r, mapType o.overrides names q.type = .ok r ∧ d.type = r.spelling
  description : d.description = q.description

/-- **A declared property stems from the first one of its name.** -/
theorem firstRead?_of_mem_properties {ps : List Property} {m m' : Members}
    (h : (ps.foldlM (Members.addProperty o names title) m).outcome = .ok m')
    {d : PropertyDeclaration} (hd : d ∈ m'.properties) :
    d ∈ m.properties ∨
      (d.name ∉ m.taken ∧ ∃ q, firstRead? ps d.name = some q ∧ IsReadOf o names q d) := by
  -- What is declared later was not taken before, so no property before it is read by its name.
  induction ps generalizing m with
  | nil => exact .inl (Except.ok.inj h ▸ hd)
  | cons p ps ih =>
    rw [List.foldlM_cons] at h
    obtain ⟨next, hnext, hrest⟩ := Run.outcome_bind_eq_ok.mp h
    obtain ⟨name, hname, htaken, -⟩ := addProperty_eq_ok hnext
    rcases ih hrest with hmem | ⟨haway, q, hq, hread⟩
    · rcases addProperty_cases hnext with
        ⟨-, _, -, rfl⟩ | ⟨hid, made, hmade, ⟨-, rfl⟩ | ⟨hnew, r, hr, rfl⟩⟩
      · exact .inl hmem
      · exact .inl hmem
      · rcases List.mem_append.mp hmem with hmem | hmem
        · exact .inl hmem
        · rw [List.mem_singleton.mp hmem]
          refine .inr ⟨hnew, p, ?_, hmade, ⟨r, hr, rfl⟩, rfl⟩
          rw [firstRead?_cons, if_pos (by rw [readName, if_neg hid, hmade])]
    · rw [htaken, not_or] at haway
      refine .inr ⟨haway.2, q, ?_, hread⟩
      rw [firstRead?_cons, hname, if_neg (fun heq => haway.1 (Except.ok.inj heq).symm), hq]

/-! ## §4. Classes. -/

section Classes

variable {c : Dictionary.Class} {p : ProtocolDeclaration} {m : Members}

/-- The names that a setter keeps away from. -/
def ProtocolDeclaration.ownNames (p : ProtocolDeclaration) : List String :=
  p.properties.map PropertyDeclaration.name ++ p.accessors.map AccessorDeclaration.name

/-- A declared property stems from the first property of its name, which stands behind others. -/
structure StemsFrom (o : Options) (names : Names) (ps before : List Property) (q : Property)
    (d : PropertyDeclaration) : Prop where
  position : ∃ after, ps = before ++ q :: after
  first : ∀ r ∈ before, readName r ≠ .ok d.name
  read : IsReadOf o names q d

theorem StemsFrom.firstRead?_eq {ps before : List Property} {q : Property}
    {d : PropertyDeclaration} (h : StemsFrom o names ps before q d) :
    firstRead? ps d.name = some q := by
  obtain ⟨⟨after, rfl⟩, hfirst, hread⟩ := h
  rw [firstRead?, List.find?_eq_some_iff_append]
  exact ⟨by simpa using (readName_eq q).trans hread.name, before, after, rfl,
    fun r hr => by simpa using hfirst r hr⟩

/-- The setter of a property, with the name and the type that the property is declared with. -/
def ProtocolDeclaration.Sets (p : ProtocolDeclaration) (q : Property) (d : PropertyDeclaration) :
    Prop :=
  ∃ s ∈ p.setters, s.name = setterName q ∧ s.parameter = d.name ∧ s.type = d.type

namespace IsMadeOf

theorem exists_stemsFrom (h : IsMadeOf o names c p m) {d : PropertyDeclaration}
    (hd : d ∈ p.properties) : ∃ before q, StemsFrom o names c.properties before q d := by
  rw [h.properties] at hd
  rcases firstRead?_of_mem_properties h.members hd with hmem | ⟨-, q, hq, hread⟩
  · exact absurd hmem List.not_mem_nil
  · obtain ⟨-, before, after, hsplit, hfirst⟩ := List.find?_eq_some_iff_append.mp hq
    exact ⟨before, q, ⟨after, hsplit⟩, fun r hr => by simpa using hfirst r hr, hread⟩

/-- Of the names that are taken, only those of properties and accessors matter for setters. -/
theorem setter_mem_iff (h : IsMadeOf o names c p m) (property : String) :
    Names.setter property ∈ p.accessors.flatMap AccessorDeclaration.taken ++ m.taken ↔
      Names.setter property ∈ p.ownNames := by
  have haccessor : ∀ a ∈ p.accessors,
      (Names.setter property ∈ a.taken ↔ a.name = Names.setter property) := by
    intro a ha
    rw [setter_mem_taken_iff, eq_comm]
    intro u hu
    rw [((declareAccessors_eq_ok h.accessors).2 a ha).2.untyped, Option.ite_none_right_eq_some] at hu
    exact (Option.some.inj hu.2).symm
  have hread : Names.setter property ∈ m.taken ↔
      Names.setter property ∈ p.properties.map PropertyDeclaration.name := by
    rw [h.reads_iff, Reads, or_iff_left (fun hid => setter_ne_identifierName property hid.1)]
  rw [ProtocolDeclaration.ownNames, List.mem_append, List.mem_append, or_comm, hread]
  refine or_congr_right ?_
  rw [List.mem_flatMap, List.mem_map]
  exact exists_congr fun a => and_congr_right (haccessor a)

theorem forall₂_setters (h : IsMadeOf o names c p m) :
    List.Forall₂ (fun q s => declareSetter o names q = .ok s)
      (firstOfEach setterName p.ownNames (settable c.properties)) p.setters := by
  have hsetters := h.setters
  rw [declareSetters_congr h.setter_mem_iff] at hsetters
  exact forall₂_declareSetters hsetters

/-- Where a property has its setter, no member and no property before it has the setter's name. -/
theorem setterName_ne_of_sets (h : IsMadeOf o names c p m) {before after : List Property}
    {q : Property} {d : PropertyDeclaration}
    (hsettable : settable c.properties = settable before ++ q :: settable after)
    (hfirst : ∀ r ∈ before, readName r ≠ .ok d.name) (hsets : p.Sets q d) :
    setterName q ∉ p.ownNames ∧ ∀ r ∈ settable before, setterName r ≠ setterName q := by
  obtain ⟨s, hs, hname, hparameter, -⟩ := hsets
  obtain ⟨q', hq', hdeclared⟩ := exists_right_of_forall₂ h.forall₂_setters.flip hs
  obtain ⟨hmember, hkey, -⟩ := declareSetter_eq_ok.mp hdeclared
  have hown : setterName q' = setterName q := hkey.symm.trans hname
  refine ⟨hown ▸ (mem_of_mem_firstOfEach setterName hq').2, fun r hr hclash => ?_⟩
  -- The setter would be that of a property before this one, and be read by the same name.
  rw [hsettable] at hq'
  have hbefore : q' ∈ settable before :=
    mem_of_mem_firstOfEach_append setterName hq' hr (hclash.trans hown.symm)
  exact hfirst q' (List.mem_of_mem_filter hbefore) (by rw [readName_eq, hmember, hparameter])

/-- A setter that is declared for a property has the name and the type of the property. -/
theorem sets_of_mem (h : IsMadeOf o names c p m) {q : Property} {d : PropertyDeclaration}
    (hread : IsReadOf o names q d)
    (hq : q ∈ firstOfEach setterName p.ownNames (settable c.properties)) : p.Sets q d := by
  obtain ⟨s, hs, hdeclared⟩ := exists_right_of_forall₂ h.forall₂_setters hq
  obtain ⟨hmember, hkey, r, hr, htype⟩ := declareSetter_eq_ok.mp hdeclared
  obtain ⟨r', hr', htype'⟩ := hread.type
  rw [hread.name, Except.ok.injEq] at hmember
  rw [hr, Except.ok.injEq] at hr'
  exact ⟨s, hs, hkey, hmember.symm, by rw [htype, htype', hr']⟩

/-- **A property has its setter** where the setter's name is neither that of a member nor that of
the setter of a property before it. -/
theorem sets_iff (h : IsMadeOf o names c p m) {before : List Property} {q : Property}
    {d : PropertyDeclaration} (hd : StemsFrom o names c.properties before q d)
    (hwritable : q.isReadOnly = false) :
    p.Sets q d ↔
      setterName q ∉ p.ownNames ∧ ∀ r ∈ settable before, setterName r ≠ setterName q := by
  obtain ⟨⟨after, hposition⟩, hfirst, hread⟩ := hd
  have hsettable : settable c.properties = settable before ++ q :: settable after := by
    rw [settable, hposition, List.filter_append, List.filter_cons, if_pos (by simp [hwritable])]
    rfl
  constructor
  · exact h.setterName_ne_of_sets hsettable hfirst
  · rintro ⟨haway, hclash⟩
    refine h.sets_of_mem hread ?_
    rw [hsettable]
    exact mem_firstOfEach_of_first setterName haway hclash

/-- Every setter is that of a property that can be set. -/
theorem exists_of_mem_setters (h : IsMadeOf o names c p m) {s : SetterDeclaration}
    (hs : s ∈ p.setters) :
    ∃ q ∈ c.properties, q.isReadOnly = false ∧ declareSetter o names q = .ok s := by
  obtain ⟨q, hq, hdeclared⟩ := exists_right_of_forall₂ h.forall₂_setters.flip hs
  obtain ⟨hmem, hwritable⟩ := List.mem_filter.mp (mem_of_mem_firstOfEach setterName hq).1
  exact ⟨q, hmem, by simpa using hwritable, hdeclared⟩

/-- No setter has the name of properties that are all only to be read. -/
theorem parameter_ne_of_isReadOnly (h : IsMadeOf o names c p m) {k : String}
    (hread : ∀ q ∈ c.properties, readName q = .ok k → q.isReadOnly = true) :
    ∀ s ∈ p.setters, s.parameter ≠ k := by
  rintro s hs rfl
  obtain ⟨q, hq, hwritable, hdeclared⟩ := h.exists_of_mem_setters hs
  have hname : readName q = .ok s.parameter :=
    (readName_eq q).trans (declareSetter_eq_ok.mp hdeclared).1
  exact absurd (hread q hq hname) (by simp [hwritable])

end IsMadeOf

/-- **Which properties of a class can be set.**  A declared property stems from the first one of
its name, and where that one can be set it has its setter unless the setter's name is taken.
Every setter is that of a property that can be set. -/
theorem classText_setters (o : Options) (names : Names) (c : Dictionary.Class) (text : String)
    (h : (classText o names c).outcome = .ok text) :
    ∃ p, (declareClass o names c).outcome = .ok p ∧ text = ofLines (p.lines o.addComments) ∧
      (∀ d ∈ p.properties, (∃ before q, StemsFrom o names c.properties before q d) ∧
        ∀ before q, StemsFrom o names c.properties before q d → q.isReadOnly = false →
          (p.Sets q d ↔ setterName q ∉ p.ownNames ∧
            ∀ r ∈ settable before, setterName r ≠ setterName q)) ∧
      (∀ s ∈ p.setters, ∃ q ∈ c.properties, q.isReadOnly = false ∧
        declareSetter o names q = .ok s) ∧
      ∀ k, (∀ q ∈ c.properties, readName q = .ok k → q.isReadOnly = true) →
        ∀ s ∈ p.setters, s.parameter ≠ k := by
  rw [outcome_classText] at h
  obtain ⟨p, hp, htext⟩ := map_eq_ok.mp h
  obtain ⟨m, hm⟩ := exists_isMadeOf hp
  refine ⟨p, hp, htext.symm, ?_, fun s hs => hm.exists_of_mem_setters hs,
    fun k hk => hm.parameter_ne_of_isReadOnly hk⟩
  intro d hd
  refine ⟨hm.exists_stemsFrom hd, ?_⟩
  intro before q hq hwritable
  exact hm.sets_iff hq hwritable

end Classes

/-- A property whose value is a text. -/
def textProperty (name : String) : Property := { name, type := { base := "text" } }

/-- A class of tracks. -/
def textClass (properties : List Property) (elements : List Dictionary.Element) :
    Dictionary.Class :=
  { name := "track", properties, elements }

/-- Two properties whose setters have one name. -/
def playlistClass : Dictionary.Class :=
  textClass [textProperty "play list", textProperty "playlist"] []

theorem classText_setters_playlist :
    ∃ text, (classText typedOptions {} playlistClass).outcome = .ok text ∧
      ∃ p, (declareClass typedOptions {} playlistClass).outcome = .ok p ∧
        text = ofLines (p.lines typedOptions.addComments) ∧
        (∀ d ∈ p.properties,
          (∃ before q, StemsFrom typedOptions {} playlistClass.properties before q d) ∧
          ∀ before q, StemsFrom typedOptions {} playlistClass.properties before q d →
            q.isReadOnly = false →
            (p.Sets q d ↔ setterName q ∉ p.ownNames ∧
              ∀ r ∈ settable before, setterName r ≠ setterName q)) ∧
        (∀ s ∈ p.setters, ∃ q ∈ playlistClass.properties, q.isReadOnly = false ∧
          declareSetter typedOptions {} q = .ok s) ∧
        ∀ k, (∀ q ∈ playlistClass.properties, readName q = .ok k → q.isReadOnly = true) →
          ∀ s ∈ p.setters, s.parameter ≠ k := by
  have hnames : (declareClass typedOptions {} playlistClass).outcome.toOption.map
      (fun p => p.members.map Member.name) = some ["playList", "playlist", "setPlaylist"] := by
    decide +kernel
  obtain ⟨p, hp, -⟩ := exists_declared_of_names hnames
  obtain ⟨text, h, -⟩ := exists_classText hp
  exact ⟨text, h, classText_setters typedOptions {} playlistClass text h⟩

/-- The names that can be read by a protocol, and those that can be set. -/
def ProtocolDeclaration.readAndSet (p : ProtocolDeclaration) : List String × List String :=
  (p.properties.map PropertyDeclaration.name, p.setters.map SetterDeclaration.parameter)

/-- What a class declares, and which property stands behind one of the names, can be computed. -/
theorem exists_stemsFrom_of_names {o : Options} {names : Names} {c : Dictionary.Class}
    {ks parameters : List String}
    (h : (declareClass o names c).outcome.toOption.map ProtocolDeclaration.readAndSet
      = some (ks, parameters))
    {k : String} (hk : k ∈ ks) {q : Property} (hq : firstRead? c.properties k = some q) :
    ∃ p d before, (declareClass o names c).outcome = .ok p ∧
      p.setters.map SetterDeclaration.parameter = parameters ∧ d ∈ p.properties ∧ d.name = k ∧
      StemsFrom o names c.properties before q d := by
  obtain ⟨p, hp, hnames⟩ := exists_eq_ok_of_map h
  obtain ⟨rfl, hparameters⟩ := Prod.mk.inj hnames
  obtain ⟨d, hd, rfl⟩ := List.mem_map.mp hk
  obtain ⟨m, hm⟩ := exists_isMadeOf hp
  obtain ⟨before, q', hstems⟩ := hm.exists_stemsFrom hd
  rw [hstems.firstRead?_eq, Option.some.injEq] at hq
  exact ⟨p, d, before, hp, hparameters, hd, rfl, hq ▸ hstems⟩

/-- A class that declares a property of this name that could be set, without a setter. -/
def LosesSetter (o : Options) (names : Names) (c : Dictionary.Class) (k : String) : Prop :=
  ∃ p d before q, (declareClass o names c).outcome = .ok p ∧ d ∈ p.properties ∧ d.name = k ∧
    StemsFrom o names c.properties before q d ∧ q.isReadOnly = false ∧
    ∀ s ∈ p.setters, s.parameter ≠ d.name

theorem losesSetter_of_names {o : Options} {names : Names} {c : Dictionary.Class}
    {ks parameters : List String}
    (h : (declareClass o names c).outcome.toOption.map ProtocolDeclaration.readAndSet
      = some (ks, parameters))
    {k : String} (hk : k ∈ ks) {q : Property} (hq : firstRead? c.properties k = some q)
    (hwritable : q.isReadOnly = false) (hlost : k ∉ parameters) : LosesSetter o names c k := by
  obtain ⟨p, d, before, hp, rfl, hd, rfl, hstems⟩ := exists_stemsFrom_of_names h hk hq
  refine ⟨p, d, before, q, hp, hd, rfl, hstems, hwritable, fun s hs hparameter => hlost ?_⟩
  exact List.mem_map.mpr ⟨s, hs, hparameter⟩

/-- A property that is called like the setter of another one. -/
def boundsClass : Dictionary.Class :=
  textClass [textProperty "bounds", textProperty "set bounds"] []

/-- An accessor that is called like the setter of a property. -/
def tracksClass : Dictionary.Class :=
  textClass [textProperty "tracks"] [{ type := "set track" }]

/-- A property that is only to be read. -/
def titleProperty : Property :=
  { name := "title", type := { base := "text" }, access := some "r" }

/-- Two spellings of a property, the second of which can be set. -/
def titleClass : Dictionary.Class :=
  textClass [titleProperty, textProperty "Title"] []

/-- **A property that can be set may be without a setter**: the setter of another property has its
name, or a property, or an accessor.  **One that is only to be read may have a setter**: that of
another spelling. -/
theorem setters_lost_and_lent :
    LosesSetter typedOptions {} playlistClass "playlist" ∧
    LosesSetter typedOptions {} boundsClass "bounds" ∧
    LosesSetter typedOptions {} tracksClass "tracks" ∧
    ∃ p d before q s, (declareClass typedOptions {} titleClass).outcome = .ok p ∧
      d ∈ p.properties ∧ StemsFrom typedOptions {} titleClass.properties before q d ∧
      q.isReadOnly = true ∧ s ∈ p.setters ∧ s.parameter = d.name := by
  have hplaylist : (declareClass typedOptions {} playlistClass).outcome.toOption.map
      ProtocolDeclaration.readAndSet = some (["playList", "playlist"], ["playList"]) := by
    decide +kernel
  have hbounds : (declareClass typedOptions {} boundsClass).outcome.toOption.map
      ProtocolDeclaration.readAndSet = some (["bounds", "setBounds"], ["setBounds"]) := by
    decide +kernel
  have htracks : (declareClass typedOptions {} tracksClass).outcome.toOption.map
      ProtocolDeclaration.readAndSet = some (["tracks"], []) := by
    decide +kernel
  have htitle : (declareClass typedOptions {} titleClass).outcome.toOption.map
      ProtocolDeclaration.readAndSet = some (["title"], ["title"]) := by
    decide +kernel
  have hfirst : firstRead? titleClass.properties "title" = some titleProperty := by decide +kernel
  refine ⟨?_, ?_, ?_, ?_⟩
  · exact losesSetter_of_names hplaylist (by decide) (q := textProperty "playlist")
      (by decide +kernel) rfl (by decide)
  · exact losesSetter_of_names hbounds (by decide) (q := textProperty "bounds")
      (by decide +kernel) rfl (by decide)
  · exact losesSetter_of_names htracks (by decide) (q := textProperty "tracks")
      (by decide +kernel) rfl (by decide)
  · obtain ⟨p, d, before, hp, hparameters, hd, hname, hstems⟩ :=
      exists_stemsFrom_of_names htitle (by decide) hfirst
    obtain ⟨s, hs, hparameter⟩ : ∃ s ∈ p.setters, s.parameter = "title" :=
      List.mem_map.mp (hparameters ▸ by decide)
    exact ⟨p, d, before, titleProperty, s, hp, hd, hstems, rfl, hs, hparameter.trans hname.symm⟩

end ScriptingBindings.Swift
