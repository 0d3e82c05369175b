/-
  ScriptingBindings.Proofs.Swift.MemberLines
  ──────────────────────────────────
  **THE MEMBERS THAT ARE DECLARED, AND WHICH OF THEM TWICE.**

  The text of a protocol declares its properties, its identifier, its accessors
  and its setters in this order, and the block that extends it declares the
  typed accessors.  Two members can only share a name in these ways:

  * a property of another spelling is called like the identifier,
  * two untyped accessors have one name,
  * an untyped accessor is called like a property or like a typed accessor.
-/
import ScriptingBindings.Proofs.Swift.Contents
import ScriptingBindings.Proofs.Swift.MemberNames
import ScriptingBindings.Proofs.Swift.Pages

namespace ScriptingBindings.Swift

open Dictionary Template

/-! ## §1. Members. -/

/-- The kinds of members. -/
inductive MemberKind where
  /-- A property that can be read. -/
  | property
  /-- The method that gives the identifier. -/
  | identifier
  /-- A method that gives contained objects. -/
  | accessor
  /-- A method that changes a property. -/
  | setter
  /-- A property that gives contained objects with their type. -/
  | typed
  deriving Repr, DecidableEq

namespace MemberKind

/-- The words before the name. -/
def before : MemberKind → String
  | property => "optional var "
  | identifier | accessor | setter => "optional func "
  | typed => "    var "

/-- What stands behind the name. -/
def after : MemberKind → String
  | property => ": "
  | identifier => "() -> "
  | accessor => "() -> SBElementArray"
  | setter => "(_ "
  | typed => ": ["

end MemberKind

/-- A member that is declared. -/
structure Member where
  kind : MemberKind
  name : String
  deriving Repr, DecidableEq

/-- The start of a member as text. -/
def Member.text (m : Member) : String :=
  m.kind.before ++ m.name ++ m.kind.after

/-- The name by which an accessor is declared: the untyped one where there is one. -/
def AccessorDeclaration.memberName (a : AccessorDeclaration) : String :=
  if (optional a.untyped).isTruthy then a.untyped.getD "" else a.name

/-- Whether the method that gives the identifier is declared. -/
def ProtocolDeclaration.hasIdentifier (p : ProtocolDeclaration) : Bool :=
  (p.identifier.getD .null).isTruthy

/-- The members of a protocol, in order. -/
def ProtocolDeclaration.members (p : ProtocolDeclaration) : List Member :=
  p.properties.map (fun q => ⟨.property, q.name⟩)
    ++ (if p.hasIdentifier then [⟨.identifier, identifierName⟩] else [])
    ++ p.accessors.map (fun a => ⟨.accessor, a.memberName⟩)
    ++ p.setters.map (fun s => ⟨.setter, s.name⟩)

/-- The members of the block that extends a protocol, in order. -/
def ProtocolDeclaration.typedMembers (o : Options) (p : ProtocolDeclaration) : List Member :=
  if o.typedAccessors then p.accessors.map (fun a => ⟨.typed, a.name⟩) else []

/-! ## §2. Members in texts. -/

section Texts

variable {addComments : Bool} {text : String}

/-- An accessor is declared under one name, whichever it is. -/
theorem shows_accessor {a : AccessorDeclaration} {scope : Scope}
    (h : fillNodes
      [.choose ⟨"accessor", some "untyped"⟩
        [.text "    @objc(", part "accessor" "name", .text ") optional func ",
         part "accessor" "untyped", line "() -> SBElementArray"]
        [.text "    @objc optional func ", part "accessor" "name",
         line "() -> SBElementArray"]] (("accessor", a.values) :: scope) = .ok text) :
    Shows text [(Member.mk .accessor a.memberName).text] := by
  rw [← List.append_nil [(Member.mk .accessor a.memberName).text]]
  refine shows_choose h rfl (fun huntyped t ht => ?_) (fun huntyped t ht => ?_) fun t _ => .nil t
  · rw [AccessorDeclaration.memberName, if_pos huntyped]
    -- Its own name stands in the attribute and is passed over.
    refine shows_drop 2 ht (fun t ht => ?_)
    refine shows_cons ") " MemberKind.accessor.before MemberKind.accessor.after "\n" ht (by decide)
      (by decide) ?_ fun t _ => .nil t
    cases hname : a.untyped with
    | none => exact absurd huntyped (by rw [hname]; decide)
    | some name => rw [AccessorDeclaration.values, hname]; rfl
  · rw [AccessorDeclaration.memberName, if_neg (by rw [huntyped]; decide)]
    exact shows_cons "    @objc " MemberKind.accessor.before MemberKind.accessor.after "\n" ht
      (by decide) (by decide) rfl fun t _ => .nil t

/-- **The text of a protocol declares its members in order.** -/
theorem shows_protocol_text {p : ProtocolDeclaration} (h : p.text addComments = .ok text) :
    Shows text (p.members.map Member.text) := by
  have hfill := protocol_text_eq_ok.mp h
  unfold ProtocolDeclaration.members ProtocolDeclaration.hasIdentifier
  simp only [List.map_append, List.map_map, List.append_assoc, apply_ite (List.map Member.text),
    List.map_cons, List.map_nil]
  -- Every group of lines is followed by further parts, the setters by the closing brace.
  rw [← List.append_nil (List.map (Member.text ∘ fun s => Member.mk .setter s.name) p.setters)]
  simp only [List.map_eq_flatMap]
  refine shows_drop 11 hfill (fun t ht => ?_)
  refine shows_each ht rfl (fun q t ht => ?_) fun t ht => ?_
  · refine shows_drop 1 ht (fun t ht => ?_)
    exact shows_cons "    @objc " MemberKind.property.before MemberKind.property.after "" ht
      (by decide) (by decide) rfl fun t _ => .nil t
  refine shows_when ht rfl (fun _ t ht => ?_) fun t ht => ?_
  · exact shows_text "    @objc " (Member.mk .identifier identifierName).text "" ht (by decide)
      fun t _ => .nil t
  refine shows_each ht rfl (fun a t ht => shows_accessor ht) fun t ht => ?_
  refine shows_each ht rfl (fun s t ht => ?_) fun t _ => .nil t
  exact shows_cons "    @objc " MemberKind.setter.before MemberKind.setter.after "" ht
    (by decide) (by decide) rfl fun t _ => .nil t

/-- The text of the typed accessors declares those of each class in order. -/
theorem shows_typedAccessorsText {ts : List TypedAccessors}
    (h : typedAccessorsText addComments ts = .ok text) :
    Shows text (ts.flatMap fun t => t.accessors.map fun a => (Member.mk .typed a.name).text) := by
  have hfill := (page_eq_ok (t := typedAccessorsTemplate) rfl rfl).mp h
  rw [← List.append_nil (ts.flatMap _)]
  refine shows_drop 2 hfill (fun t ht => ?_)
  refine shows_each ht rfl (fun e t ht => ?_) fun t _ => .nil t
  rw [← List.append_nil (e.accessors.map _), List.map_eq_flatMap]
  refine shows_drop 5 ht (fun t ht => ?_)
  refine shows_each ht rfl (fun a t ht => ?_) fun t _ => .nil t
  refine shows_drop 1 ht (fun t ht => ?_)
  exact shows_cons "" MemberKind.typed.before MemberKind.typed.after "" ht (by decide) (by decide)
    rfl fun t _ => .nil t

end Texts

/-! ## §3. Names. -/

/-- The name of the identifier, if it is declared. -/
def ProtocolDeclaration.identifierNames (p : ProtocolDeclaration) : List String :=
  if p.hasIdentifier then [identifierName] else []

theorem ProtocolDeclaration.nodup_identifierNames (p : ProtocolDeclaration) :
    p.identifierNames.Nodup := by
  unfold identifierNames
  split
  next => exact List.nodup_singleton identifierName
  next => exact List.nodup_nil

theorem disjoint_identifierNames_iff {p : ProtocolDeclaration} {ks : List String} :
    p.identifierNames.Disjoint ks ↔ (p.hasIdentifier = true → identifierName ∉ ks) := by
  unfold ProtocolDeclaration.identifierNames
  split
  next hid => simp [hid]
  next hid => simp [hid]

/-- The names of typed accessors, if there are any. -/
def ProtocolDeclaration.typedNames (o : Options) (p : ProtocolDeclaration) : List String :=
  if o.typedAccessors then p.accessors.map AccessorDeclaration.name else []

/-- The names of all members, pass by pass. -/
theorem map_name_members (o : Options) (p : ProtocolDeclaration) :
    (p.members ++ p.typedMembers o).map Member.name
      = p.properties.map PropertyDeclaration.name ++ p.identifierNames
        ++ p.accessors.map AccessorDeclaration.memberName
        ++ p.setters.map SetterDeclaration.name ++ p.typedNames o := by
  unfold ProtocolDeclaration.members ProtocolDeclaration.typedMembers
    ProtocolDeclaration.identifierNames ProtocolDeclaration.typedNames
  simp only [List.map_append, List.map_map, apply_ite (List.map Member.name), List.map_cons,
    List.map_nil]
  rfl

/-- Names that are declared in passes are different where those of which no pass takes care
are. -/
theorem nodup_passes_iff {properties identifiers accessors setters typed : List String}
    (hproperties : properties.Nodup) (hidentifiers : identifiers.Nodup) (hsetters : setters.Nodup)
    (htyped : typed.Nodup) (hpt : properties.Disjoint typed) (hit : identifiers.Disjoint typed)
    (hia : identifiers.Disjoint accessors)
    (hset : (properties ++ identifiers ++ accessors ++ typed).Disjoint setters) :
    (properties ++ identifiers ++ accessors ++ setters ++ typed).Nodup ↔
      properties.Disjoint identifiers ∧ accessors.Nodup ∧ properties.Disjoint accessors ∧
        accessors.Disjoint typed := by
  obtain ⟨⟨⟨hps, his⟩, has⟩, hts⟩ :
      ((properties.Disjoint setters ∧ identifiers.Disjoint setters) ∧ accessors.Disjoint setters) ∧
        typed.Disjoint setters := by
    simpa only [List.disjoint_append_left] using hset
  simp only [List.nodup_append', List.disjoint_append_left, hproperties, hidentifiers, hsetters,
    htyped, hpt, hit, hia, hps, his, has, List.disjoint_comm.mp hts, true_and, and_true]
  tauto

/-- The untyped names of accessors differ from each other, from the names of properties and from
the typed names. -/
structure UntypedApart (p : ProtocolDeclaration) : Prop where
  nodup : (p.accessors.map fun a => Names.untyped a.name).Nodup
  properties : (p.properties.map PropertyDeclaration.name).Disjoint
    (p.accessors.map fun a => Names.untyped a.name)
  typed : (p.accessors.map fun a => Names.untyped a.name).Disjoint
    (p.accessors.map AccessorDeclaration.name)

section Names

variable {o : Options} {names : Names} {c : Dictionary.Class} {p : ProtocolDeclaration}
  {m : Members}

theorem untyped_ne_identifierName (accessor : String) :
    Names.untyped accessor ≠ identifierName := by
  intro h
  have hfirst := congrArg (fun s : String => s.toList.head?) h
  simp [Names.untyped, identifierName] at hfirst

theorem memberName_of_isAccessorOf {elements : List Dictionary.Element} {a : AccessorDeclaration}
    (h : IsAccessorOf o elements a) :
    a.memberName = if o.typedAccessors then Names.untyped a.name else a.name := by
  unfold AccessorDeclaration.memberName
  rw [h.untyped]
  split
  next => simp [optional, Json.ofText?, Json.isTruthy, Names.untyped]
  next => rfl

theorem memberName_mem_taken (a : AccessorDeclaration) : a.memberName ∈ a.taken := by
  unfold AccessorDeclaration.memberName AccessorDeclaration.taken
  cases a.untyped with
  | none => exact List.mem_cons_self
  | some name =>
    split
    next => simp
    next => exact List.mem_cons_self

namespace IsMadeOf

theorem reads_iff (h : IsMadeOf o names c p m) (k : String) :
    k ∈ m.taken ↔ Reads p.properties p.identifier k := by
  rw [h.properties, h.identifier]
  exact h.consistent.taken k

theorem identifierName_mem_taken (h : IsMadeOf o names c p m) (hid : p.hasIdentifier = true) :
    identifierName ∈ m.taken := by
  refine (h.reads_iff identifierName).mpr (.inr ⟨rfl, ?_⟩)
  unfold ProtocolDeclaration.hasIdentifier at hid
  cases htype : p.identifier with
  | none => exact absurd hid (by rw [htype]; decide)
  | some type => rfl

theorem disjoint_properties_accessors (h : IsMadeOf o names c p m) :
    (p.properties.map PropertyDeclaration.name).Disjoint
      (p.accessors.map AccessorDeclaration.name) := by
  intro k hk haccessor
  obtain ⟨a, ha, rfl⟩ := List.mem_map.mp haccessor
  exact ((declareAccessors_eq_ok h.accessors).2 a ha).1 ((h.reads_iff a.name).mpr (.inl hk))

theorem disjoint_identifier_accessors (h : IsMadeOf o names c p m) :
    p.identifierNames.Disjoint (p.accessors.map AccessorDeclaration.name) := by
  rw [disjoint_identifierNames_iff]
  intro hid hmem
  obtain ⟨a, ha, hname⟩ := List.mem_map.mp hmem
  exact ((declareAccessors_eq_ok h.accessors).2 a ha).1 (hname ▸ h.identifierName_mem_taken hid)

/-- All names but those of setters are taken when setters are declared. -/
theorem disjoint_setters (h : IsMadeOf o names c p m) :
    (p.properties.map PropertyDeclaration.name ++ p.identifierNames
      ++ p.accessors.map AccessorDeclaration.memberName
      ++ p.typedNames o).Disjoint (p.setters.map SetterDeclaration.name) := by
  intro k hk hsetter
  obtain ⟨s, hs, rfl⟩ := List.mem_map.mp hsetter
  have haway := (declareSetters_eq_ok h.setters).2 s hs
  rw [List.mem_append, not_or, List.mem_flatMap, not_exists] at haway
  simp only [List.mem_append] at hk
  rcases hk with ((hk | hk) | hk) | hk
  · exact haway.2 ((h.reads_iff s.name).mpr (.inl hk))
  · unfold ProtocolDeclaration.identifierNames at hk
    split at hk
    next hid =>
      rw [List.mem_singleton.mp hk] at haway
      exact haway.2 (h.identifierName_mem_taken hid)
    next => exact absurd hk List.not_mem_nil
  · obtain ⟨a, ha, hname⟩ := List.mem_map.mp hk
    exact haway.1 a ⟨ha, hname ▸ memberName_mem_taken a⟩
  · unfold ProtocolDeclaration.typedNames at hk
    split at hk
    next =>
      obtain ⟨a, ha, hname⟩ := List.mem_map.mp hk
      exact haway.1 a ⟨ha, hname ▸ List.mem_cons_self⟩
    next => exact absurd hk List.not_mem_nil

/-- Without typed accessors, only the identifier can share a name. -/
theorem nodup_members_iff_of_plain (h : IsMadeOf o names c p m)
    (hplain : o.typedAccessors = false) :
    ((p.members ++ p.typedMembers o).map Member.name).Nodup ↔
      (p.properties.map PropertyDeclaration.name).Disjoint p.identifierNames := by
  obtain ⟨haccessors, hall⟩ := declareAccessors_eq_ok h.accessors
  -- Accessors are declared under their own names, and none of them is typed.
  have hnames : p.accessors.map AccessorDeclaration.memberName
      = p.accessors.map AccessorDeclaration.name := by
    refine List.map_congr_left fun a ha => ?_
    rw [memberName_of_isAccessorOf (hall a ha).2, hplain]
    rfl
  have htypedNames : p.typedNames o = [] := by rw [ProtocolDeclaration.typedNames, hplain]; rfl
  have hset := h.disjoint_setters
  rw [hnames, htypedNames] at hset
  rw [map_name_members, hnames, htypedNames,
    nodup_passes_iff h.nodup_properties p.nodup_identifierNames
      (declareSetters_eq_ok h.setters).1 List.nodup_nil (List.disjoint_nil_right _)
      (List.disjoint_nil_right _) h.disjoint_identifier_accessors hset]
  simp [haccessors, h.disjoint_properties_accessors]

/-- With typed accessors, the untyped names have to keep apart as well. -/
theorem nodup_members_iff_of_typed (h : IsMadeOf o names c p m)
    (htyped : o.typedAccessors = true) :
    ((p.members ++ p.typedMembers o).map Member.name).Nodup ↔
      (p.properties.map PropertyDeclaration.name).Disjoint p.identifierNames ∧ UntypedApart p := by
  obtain ⟨haccessors, hall⟩ := declareAccessors_eq_ok h.accessors
  -- Accessors are declared under untyped names, and under their own with a type.
  have hnames : p.accessors.map AccessorDeclaration.memberName
      = p.accessors.map fun a => Names.untyped a.name := by
    refine List.map_congr_left fun a ha => ?_
    rw [memberName_of_isAccessorOf (hall a ha).2, htyped]
    rfl
  have htypedNames : p.typedNames o = p.accessors.map AccessorDeclaration.name := by
    rw [ProtocolDeclaration.typedNames, htyped]
    rfl
  have hia : p.identifierNames.Disjoint (p.accessors.map fun a => Names.untyped a.name) := by
    rw [disjoint_identifierNames_iff]
    intro _ hmem
    obtain ⟨a, -, hname⟩ := List.mem_map.mp hmem
    exact untyped_ne_identifierName a.name hname
  have hset := h.disjoint_setters
  rw [hnames, htypedNames] at hset
  rw [map_name_members, hnames, htypedNames,
    nodup_passes_iff h.nodup_properties p.nodup_identifierNames
      (declareSetters_eq_ok h.setters).1 haccessors h.disjoint_properties_accessors
      h.disjoint_identifier_accessors hia hset]
  exact and_congr_right fun _ =>
    ⟨fun hapart => ⟨hapart.1, hapart.2.1, hapart.2.2⟩,
      fun hapart => ⟨hapart.nodup, hapart.properties, hapart.typed⟩⟩

/-- The identifier keeps apart from the properties where the first that is read by its name is
spelled like it. -/
theorem disjoint_identifierNames_properties_iff (h : IsMadeOf o names c p m) :
    (p.properties.map PropertyDeclaration.name).Disjoint p.identifierNames ↔
      (p.hasIdentifier = true →
        ∀ q, firstIdentifier? c.properties = some q → q.name = identifierName) := by
  rw [List.disjoint_comm, disjoint_identifierNames_iff, h.identifierName_mem_iff]
  simp only [not_exists, not_and, not_not]

/-- **Which members of a class share a name.** -/
theorem nodup_members_iff (h : IsMadeOf o names c p m) :
    ((p.members ++ p.typedMembers o).map Member.name).Nodup ↔
      (p.hasIdentifier = true →
        ∀ q, firstIdentifier? c.properties = some q → q.name = identifierName) ∧
      (o.typedAccessors = true → UntypedApart p) := by
  rw [← h.disjoint_identifierNames_properties_iff]
  cases htyped : o.typedAccessors with
  | false =>
    rw [h.nodup_members_iff_of_plain htyped]
    simp
  | true =>
    rw [h.nodup_members_iff_of_typed htyped]
    simp

end IsMadeOf

end Names

/-! ## §4. Classes. -/

/-- The block that extends the protocol of one class declares its typed accessors in order. -/
theorem IsMadeOf.exists_typedAccessorsPart {o : Options} {names : Names} {c : Dictionary.Class}
    {p : ProtocolDeclaration} {m : Members} (h : IsMadeOf o names c p m)
    (hname : names.interfaceName c.name = .ok p.name) :
    ∃ blocks, (typedAccessorsPart o names [c]).outcome = .ok blocks ∧
      Shows (String.join blocks) ((p.typedMembers o).map Member.text) := by
  rw [typedAccessorsPart_eq]
  unfold ProtocolDeclaration.typedMembers
  cases o.typedAccessors with
  | false => exact ⟨[], rfl, .nil _⟩
  | true =>
    simp only [if_true, Run.outcome_bind, List.mapM_cons, List.mapM_nil, Run.outcome_pure,
      h.declareTypedAccessors_eq_ok hname, ok_bind]
    cases haccessors : p.accessors with
    | nil => exact ⟨[], rfl, .nil _⟩
    | cons a as =>
      obtain ⟨block, hblock⟩ :=
        exists_typedAccessorsText o.addComments [⟨c.name, p.name, a :: as⟩]
      refine ⟨[block], ?_, ?_⟩
      · show (do
          let text ← Run.ofExcept (typedAccessorsText o.addComments [⟨c.name, p.name, a :: as⟩])
          return [text] : Run GenerationError (List String)).outcome = .ok [block]
        rw [hblock]
        rfl
      · simpa [Function.comp_def] using shows_typedAccessorsText hblock

/-- **What members a class declares, and which of them twice.**  Their names are pairwise
different exactly where no property of another spelling comes before the identifier and, where
there are typed accessors, the untyped names keep apart from each other and from all others. -/
theorem classText_declaresOnce_iff (o : Options) (names : Names) (c : Dictionary.Class)
    (text : String) (h : (classText o names c).outcome = .ok text) :
    ∃ p blocks, (declareClass o names c).outcome = .ok p ∧ p.text o.addComments = .ok text ∧
      (typedAccessorsPart o names [c]).outcome = .ok blocks ∧
      Shows text (p.members.map Member.text) ∧
      Shows (String.join blocks) ((p.typedMembers o).map Member.text) ∧
      (((p.members ++ p.typedMembers o).map Member.name).Nodup ↔
        (p.hasIdentifier = true →
          ∀ q, firstIdentifier? c.properties = some q → q.name = identifierName) ∧
        (o.typedAccessors = true → UntypedApart p)) := by
  obtain ⟨p, hp, htext⟩ := classText_eq_ok.mp h
  obtain ⟨m, hm⟩ := exists_isMadeOf hp
  obtain ⟨blocks, hblocks, hshows⟩ := hm.exists_typedAccessorsPart (declareClass_eq_ok hp).1
  exact ⟨p, blocks, hp, htext, hblocks, shows_protocol_text htext, hshows, hm.nodup_members_iff⟩

/-- A class that is declared has a text. -/
theorem exists_classText {o : Options} {names : Names} {c : Dictionary.Class}
    {p : ProtocolDeclaration} (h : (declareClass o names c).outcome = .ok p) :
    ∃ text, (classText o names c).outcome = .ok text ∧ Shows text (p.members.map Member.text) := by
  obtain ⟨text, htext⟩ := exists_protocol_text o.addComments p
  exact ⟨text, classText_eq_ok.mpr ⟨p, h, htext⟩, shows_protocol_text htext⟩

/-- What a class declares can be computed. -/
theorem exists_declared_of_names {o : Options} {names : Names} {c : Dictionary.Class}
    {ks : List String} (h : (declareClass o names c).outcome.toOption.map
      (fun p => p.members.map Member.name) = some ks) :
    ∃ p, (declareClass o names c).outcome = .ok p ∧ p.members.map Member.name = ks :=
  exists_eq_ok_of_map h

/-- Options with typed accessors. -/
def typedOptions : Options :=
  { typedAccessors := true }

/-- A track with its artworks. -/
def artworkClass : Dictionary.Class :=
  { name := "track"
    properties := [
      { name := "name", type := { base := "text" } },
      { name := "id", type := { base := "integer" }, access := some "r" }]
    elements := [{ type := "artwork" }] }

theorem classText_declaresOnce_iff_artwork :
    ∃ text, (classText typedOptions {} artworkClass).outcome = .ok text ∧
      ∃ p blocks, (declareClass typedOptions {} artworkClass).outcome = .ok p ∧
        p.text typedOptions.addComments = .ok text ∧
        (typedAccessorsPart typedOptions {} [artworkClass]).outcome = .ok blocks ∧
        Shows text (p.members.map Member.text) ∧
        Shows (String.join blocks) ((p.typedMembers typedOptions).map Member.text) ∧
        (((p.members ++ p.typedMembers typedOptions).map Member.name).Nodup ↔
          (p.hasIdentifier = true →
            ∀ q, firstIdentifier? artworkClass.properties = some q → q.name = identifierName) ∧
          (typedOptions.typedAccessors = true → UntypedApart p)) := by
  have hnames : (declareClass typedOptions {} artworkClass).outcome.toOption.map
      (fun p => p.members.map Member.name) = some ["name", "id", "untypedArtworks", "setName"] := by
    decide +kernel
  obtain ⟨p, hp, -⟩ := exists_declared_of_names hnames
  obtain ⟨text, h, -⟩ := exists_classText hp
  exact ⟨text, h, classText_declaresOnce_iff typedOptions {} artworkClass text h⟩

/-- Two spellings of the identifier. -/
def spellingsClass : Dictionary.Class :=
  { name := "track"
    properties := [
      { name := "ID", type := { base := "text" } }, { name := "id", type := { base := "integer" } }] }

/-- A property with the name of an untyped accessor. -/
def untypedClass : Dictionary.Class :=
  { name := "track"
    properties := [{ name := "untyped tracks", type := { base := "text" } }]
    elements := [{ type := "track" }] }

/-- What a class declares that declares some names twice. -/
theorem exists_text_of_not_nodup {o : Options} {names : Names} {c : Dictionary.Class}
    {ks : List String} (h : (declareClass o names c).outcome.toOption.map
      (fun p => p.members.map Member.name) = some ks) (hks : ¬ ks.Nodup) :
    ∃ text p, (classText o names c).outcome = .ok text ∧
      (declareClass o names c).outcome = .ok p ∧
      Shows text (p.members.map Member.text) ∧ ¬ (p.members.map Member.name).Nodup := by
  obtain ⟨p, hp, hnames⟩ := exists_declared_of_names h
  obtain ⟨text, htext, hshows⟩ := exists_classText hp
  exact ⟨text, p, htext, hp, hshows, hnames ▸ hks⟩

/-- **A member can be declared twice**: a property and the identifier, and a property and an
untyped accessor. -/
theorem members_declared_twice :
    (∃ text p, (classText typedOptions {} spellingsClass).outcome = .ok text ∧
      (declareClass typedOptions {} spellingsClass).outcome = .ok p ∧
      Shows text (p.members.map Member.text) ∧ ¬ (p.members.map Member.name).Nodup) ∧
    (∃ text p, (classText typedOptions {} untypedClass).outcome = .ok text ∧
      (declareClass typedOptions {} untypedClass).outcome = .ok p ∧
      Shows text (p.members.map Member.text) ∧ ¬ (p.members.map Member.name).Nodup) := by
  have hspellings : (declareClass typedOptions {} spellingsClass).outcome.toOption.map
      (fun p => p.members.map Member.name) = some ["id", "id", "setID", "setId"] := by
    decide +kernel
  have huntyped : (declareClass typedOptions {} untypedClass).outcome.toOption.map
      (fun p => p.members.map Member.name)
        = some ["untypedTracks", "untypedTracks", "setUntypedtracks"] := by
    decide +kernel
  exact ⟨exists_text_of_not_nodup hspellings (by decide),
    exists_text_of_not_nodup huntyped (by decide)⟩

end ScriptingBindings.Swift
