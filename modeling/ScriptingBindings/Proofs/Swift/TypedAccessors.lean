/-
  ScriptingBindings.Proofs.Swift.TypedAccessors
  ──────────────────────────────────
  **TYPED ACCESSORS MATCH THE PROTOCOL.**

  With typed accessors, a protocol declares each accessor by an untyped name,
  and a block that extends it gives the accessor its own name and a type:

      @objc(tracks) optional func untypedTracks() -> SBElementArray

      var tracks: [Track] {
          untypedTracks?() as? [Track] ?? []
      }

  Protocol and block are declared apart, and the untyped names are in the way of
  setters.  Still both list the same accessors, as no accessor is called like
  the identifier, and no member is lost, as no setter is called like an untyped
  accessor: the declaration with typed accessors is the one without them, with
  an untyped name put to each accessor.
-/
import ScriptingBindings.Proofs.Swift.Setters

namespace ScriptingBindings.Swift

open Dictionary Template

/-! ## §1. With and without typed accessors. -/

/-- Options with typed accessors or without. -/
def Options.withTyped (o : Options) (typed : Bool) : Options :=
  { o with typedAccessors := typed }

/-- The same accessor, with an untyped name. -/
def AccessorDeclaration.withUntyped (a : AccessorDeclaration) : AccessorDeclaration :=
  { a with untyped := some (Names.untyped a.name) }

/-- The same protocol, with untyped names for its accessors. -/
def ProtocolDeclaration.withUntyped (p : ProtocolDeclaration) : ProtocolDeclaration :=
  { p with accessors := p.accessors.map AccessorDeclaration.withUntyped }

variable {o : Options} {names : Names} {title : String}

/-- Accessors only differ in their untyped names. -/
theorem declareAccessors_withTyped (o : Options) (names : Names) (title : String)
    (taken : List String) (elements : List Dictionary.Element) :
    declareAccessors (o.withTyped true) names title taken elements
      = List.map AccessorDeclaration.withUntyped
          <$> declareAccessors (o.withTyped false) names title taken elements := by
  -- The names taken are free; an untyped name is none of them, so both runs take the same.
  induction elements generalizing taken with
  | nil => rfl
  | cons e elements ih =>
    have hon : (o.withTyped true).typedAccessors = true := rfl
    have hoff : (o.withTyped false).typedAccessors = false := rfl
    rw [declareAccessors_cons, declareAccessors_cons]
    simp only [hon, hoff, map_bind, apply_ite (List.map AccessorDeclaration.withUntyped <$> ·), ih,
      map_pure, bind_map_left, if_true, Bool.false_eq_true, if_false, List.map_cons]
    rfl

/-- Setters are the same. -/
theorem declareSetters_withTyped (o : Options) (typed : Bool) (names : Names) (taken : List String)
    (ps : List Property) :
    declareSetters (o.withTyped typed) names taken ps = declareSetters o names taken ps := by
  induction ps generalizing taken with
  | nil => rfl
  | cons p ps ih =>
    have hsetter : declareSetter (o.withTyped typed) names p = declareSetter o names p := rfl
    rw [declareSetters_cons, declareSetters_cons]
    simp only [hsetter, ih]

/-- The untyped names of accessors are in no setter's way. -/
theorem setter_mem_withUntyped_iff {accessors : List AccessorDeclaration}
    (h : ∀ a ∈ accessors, a.untyped = none) (taken : List String) (property : String) :
    Names.setter property ∈ (accessors.map AccessorDeclaration.withUntyped).flatMap
        AccessorDeclaration.taken ++ taken ↔
      Names.setter property ∈ accessors.flatMap AccessorDeclaration.taken ++ taken := by
  rw [List.mem_append, List.mem_append, List.flatMap_map, List.mem_flatMap, List.mem_flatMap]
  refine or_congr_left (exists_congr fun a => and_congr_right fun ha => ?_)
  have huntyped : ∀ u, a.withUntyped.untyped = some u → u = Names.untyped a.withUntyped.name := by
    intro u hu
    exact (Option.some.inj hu).symm
  have hplain : ∀ u, a.untyped = some u → u = Names.untyped a.name := by
    intro u hu
    rw [h a ha] at hu
    exact absurd hu (by simp)
  rw [setter_mem_taken_iff huntyped, setter_mem_taken_iff hplain]
  rfl

/-- **A class is declared as without typed accessors**, but for untyped names. -/
theorem declareClass_withTyped (o : Options) (names : Names) (c : Dictionary.Class) :
    declareClass (o.withTyped true) names c
      = ProtocolDeclaration.withUntyped <$> declareClass (o.withTyped false) names c := by
  have hproperty : Members.addProperty (o.withTyped true) names c.name
      = Members.addProperty (o.withTyped false) names c.name := rfl
  rw [declareClass_eq, declareClass_eq]
  simp only [hproperty, declareAccessors_withTyped, declareSetters_withTyped, map_bind,
    bind_map_left, map_pure]
  refine bind_congr fun interface => bind_congr fun inheritance => bind_congr fun members => ?_
  refine Run.bind_congr fun accessors haccessors => ?_
  -- Only setters are declared beside untyped names, and these are in no setter's way.
  have huntyped : ∀ a ∈ accessors, a.untyped = none := fun a ha =>
    ((declareAccessors_eq_ok haccessors).2 a ha).2.untyped
  rw [declareSetters_congr (setter_mem_withUntyped_iff huntyped members.taken)]
  rfl

/-! ## §2. The blocks that extend protocols. -/

/-- What stands where comments are asked for. -/
def noteLines (addComments : Bool) (s : String) : List (List Char) :=
  if addComments then linesOf s else []

/-- The line that opens a typed accessor. -/
def AccessorDeclaration.typedHead (a : AccessorDeclaration) : String :=
  "    var " ++ a.name ++ ": [" ++ a.type ++ "] \x7b"

/-- The line in which a typed accessor calls the untyped one. -/
def AccessorDeclaration.typedCall (a : AccessorDeclaration) : String :=
  "        " ++ (optional a.untyped).display ++ "?() as? [" ++ a.type ++ "] ?? []"

/-- The lines of a typed accessor. -/
def AccessorDeclaration.typedLines (addComments : Bool) (a : AccessorDeclaration) :
    List (List Char) :=
  noteLines addComments ("    /// Strongly typed accessor for " ++ a.title ++ " elements")
    ++ (linesOf a.typedHead ++ (linesOf a.typedCall ++ ["    \x7d".toList]))

/-- The line that opens the block for a class. -/
def TypedAccessors.head (t : TypedAccessors) : String :=
  "public extension " ++ t.name ++ " \x7b"

/-- The lines of the block for a class. -/
def TypedAccessors.lines (addComments : Bool) (t : TypedAccessors) : List (List Char) :=
  [[]] ++ (noteLines addComments ("/// Strongly typed accessors for " ++ t.title)
    ++ (linesOf t.head
      ++ (t.accessors.flatMap (AccessorDeclaration.typedLines addComments) ++ [closingLine])))

/-- The lines above all blocks. -/
def typedTitleLines : List (List Char) := [[], "// MARK: - Strongly Typed Accessors".toList]

/-- The block of a class, if it has accessors. -/
def ProtocolDeclaration.typedAccessors? (p : ProtocolDeclaration) : Option TypedAccessors :=
  if p.accessors.isEmpty then none else some ⟨p.title, p.name, p.accessors⟩

/-- The text of all blocks, if there are any. -/
def typedParts (addComments : Bool) (ts : List TypedAccessors) : List String :=
  if ts.isEmpty then []
  else [ofLines (typedTitleLines ++ ts.flatMap (TypedAccessors.lines addComments))]

/-- The nodes of a typed accessor. -/
def typedAccessorNodes : List Node :=
  [remark [.text "    /// Strongly typed accessor for ", part "accessor" "sdef_type",
     line " elements"],
   .text "    var ", part "accessor" "name", .text ": [", part "accessor" "type", line "] \x7b",
   .text "        ", part "accessor" "untyped", .text "?() as? [", part "accessor" "type",
   line "] ?? []",
   line "    \x7d"]

/-- The nodes of the block for a class. -/
def typedBlockNodes : List Node :=
  [line "", remark [.text "/// Strongly typed accessors for ", part "ext" "sdef_name", line ""],
   .text "public extension ", part "ext" "protocol", line " \x7b",
   .each "accessor" ⟨"ext", some "accessors"⟩ typedAccessorNodes,
   line "\x7d"]

section Blocks

variable {addComments : Bool} {scope : Scope}

/-- A remark of fixed shape. -/
theorem fillNode_remark {body : List Node} {s : String}
    (hadd : Ref.find scope ⟨"add_comments", none⟩ = .ok (.bool addComments))
    (hbody : fillNodes body scope = .ok (s ++ "\n")) :
    fillNode (remark body) scope = .ok (ofLines (noteLines addComments s)) := by
  rw [remark, fillNode, noteLines]
  simp only [allHold, hadd, ok_bind]
  cases addComments with
  | false => rfl
  | true => exact hbody.trans (congrArg Except.ok (append_lineFeed s))

theorem fillNode_emptyLine : fillNode (line "") scope = .ok (ofLines [[]]) := rfl

section Accessor

variable {a : AccessorDeclaration}

theorem fillNodes_typedHead :
    fillNodes
      [.text "    var ", part "accessor" "name", .text ": [", part "accessor" "type",
       line "] \x7b"]
      (("accessor", a.values) :: scope) = .ok (ofLines (linesOf a.typedHead)) := by
  have hname : Ref.find (("accessor", a.values) :: scope) ⟨"accessor", some "name"⟩
      = .ok (.str a.name) := rfl
  have htype : Ref.find (("accessor", a.values) :: scope) ⟨"accessor", some "type"⟩
      = .ok (.str a.type) := rfl
  unfold AccessorDeclaration.typedHead
  rw [← append_lineFeed]
  simp only [fillNodes_cons_cons, fillNodes_singleton, fillNode, line, part, hname, htype,
    filtered_nil, ok_bind, pure_eq_ok, Json.display_str, String.append_assoc]

theorem fillNodes_typedCall :
    fillNodes
      [.text "        ", part "accessor" "untyped", .text "?() as? [", part "accessor" "type",
       line "] ?? []"]
      (("accessor", a.values) :: scope) = .ok (ofLines (linesOf a.typedCall)) := by
  have huntyped : Ref.find (("accessor", a.values) :: scope) ⟨"accessor", some "untyped"⟩
      = .ok (optional a.untyped) := rfl
  have htype : Ref.find (("accessor", a.values) :: scope) ⟨"accessor", some "type"⟩
      = .ok (.str a.type) := rfl
  unfold AccessorDeclaration.typedCall
  rw [← append_lineFeed]
  simp only [fillNodes_cons_cons, fillNodes_singleton, fillNode, line, part, huntyped, htype,
    filtered_nil, ok_bind, pure_eq_ok, Json.display_str, String.append_assoc]

theorem fillNodes_typedAccessor
    (hadd : Ref.find scope ⟨"add_comments", none⟩ = .ok (.bool addComments)) :
    fillNodes typedAccessorNodes (("accessor", a.values) :: scope)
      = .ok (ofLines (a.typedLines addComments)) := by
  have htitle : Ref.find (("accessor", a.values) :: scope) ⟨"accessor", some "sdef_type"⟩
      = .ok (.str a.title) := rfl
  refine fillNodes_cons_of (fillNode_remark hadd ?_) ?_
  · simp only [fillNodes_cons_cons, fillNodes_singleton, fillNode, line, part, htitle,
      filtered_nil, ok_bind, pure_eq_ok, Json.display_str, String.append_assoc]
  · exact fillNodes_append_of fillNodes_typedHead (fillNodes_append_of fillNodes_typedCall rfl)

end Accessor

section Block

variable {t : TypedAccessors}

theorem fillNodes_typedBlockHead :
    fillNodes [.text "public extension ", part "ext" "protocol", line " \x7b"]
      (("ext", t.values) :: scope) = .ok (ofLines (linesOf t.head)) := by
  have hname : Ref.find (("ext", t.values) :: scope) ⟨"ext", some "protocol"⟩
      = .ok (.str t.name) := rfl
  unfold TypedAccessors.head
  rw [← append_lineFeed]
  simp only [fillNodes_cons_cons, fillNodes_singleton, fillNode, line, part, hname, filtered_nil,
    ok_bind, pure_eq_ok, Json.display_str, String.append_assoc]

/-- The block for a class. -/
theorem fillNodes_typedBlock
    (hadd : Ref.find scope ⟨"add_comments", none⟩ = .ok (.bool addComments)) :
    fillNodes typedBlockNodes (("ext", t.values) :: scope)
      = .ok (ofLines (t.lines addComments)) := by
  have htitle : Ref.find (("ext", t.values) :: scope) ⟨"ext", some "sdef_name"⟩
      = .ok (.str t.title) := rfl
  refine fillNodes_cons_of fillNode_emptyLine ?_
  refine fillNodes_cons_of (fillNode_remark hadd ?_) ?_
  · simp only [fillNodes_cons_cons, fillNodes_singleton, fillNode, line, part, htitle,
      filtered_nil, ok_bind, pure_eq_ok, Json.display_str, String.append_assoc,
      String.empty_append]
  · refine fillNodes_append_of fillNodes_typedBlockHead ?_
    exact fillNodes_cons_of (fillNode_each_of rfl fun a => fillNodes_typedAccessor hadd) rfl

end Block

theorem fillNodes_typedTitle :
    fillNodes [line "", line "// MARK: - Strongly Typed Accessors"] scope
      = .ok (ofLines typedTitleLines) := rfl

/-- **The text of all blocks, line by line.** -/
theorem typedAccessorsText_eq (addComments : Bool) (ts : List TypedAccessors) :
    typedAccessorsText addComments ts
      = .ok (ofLines (typedTitleLines ++ ts.flatMap (TypedAccessors.lines addComments))) := by
  refine (page_eq_ok (t := typedAccessorsTemplate) rfl rfl).mpr ?_
  refine fillNodes_append_of fillNodes_typedTitle ?_
  rw [fillNodes_singleton]
  exact fillNode_each_of rfl fun t => fillNodes_typedBlock rfl

end Blocks

/-! ## §3. Typed accessors match the protocol. -/

theorem title_of_declareClass {c : Dictionary.Class} {p : ProtocolDeclaration}
    (h : (declareClass o names c).outcome = .ok p) : p.title = c.name := by
  rw [declareClass_eq] at h
  obtain ⟨interface, -, h⟩ := Run.outcome_bind_eq_ok.mp h
  obtain ⟨inheritance, -, h⟩ := Run.outcome_bind_eq_ok.mp h
  obtain ⟨members, -, h⟩ := Run.outcome_bind_eq_ok.mp h
  obtain ⟨accessors, -, h⟩ := Run.outcome_bind_eq_ok.mp h
  obtain ⟨setters, -, h⟩ := Run.outcome_bind_eq_ok.mp h
  rw [← Except.ok.inj h]

/-- The typed accessors of a class are those of its protocol. -/
theorem declareTypedAccessors_of_declareClass {c : Dictionary.Class} {p : ProtocolDeclaration}
    (h : (declareClass o names c).outcome = .ok p) :
    (declareTypedAccessors o names c).outcome = .ok p.typedAccessors? := by
  obtain ⟨m, hm⟩ := exists_isMadeOf h
  rw [hm.declareTypedAccessors_eq_ok (declareClass_eq_ok h).1, ← title_of_declareClass h]
  rfl

/-- **The blocks of a file** are those of its protocols, in order. -/
theorem outcome_typedAccessorsPart (htyped : o.typedAccessors = true)
    {cs : List Dictionary.Class} {ps : List ProtocolDeclaration}
    (h : List.Forall₂ (fun c p => (declareClass o names c).outcome = .ok p) cs ps) :
    (typedAccessorsPart o names cs).outcome
      = .ok (typedParts o.addComments (ps.filterMap ProtocolDeclaration.typedAccessors?)) := by
  have hdeclared : cs.mapM (fun c => (declareTypedAccessors o names c).outcome)
      = .ok (ps.map ProtocolDeclaration.typedAccessors?) :=
    mapM_eq_ok.mpr (List.forall₂_map_right_iff.mpr
      (h.imp fun c p hp => declareTypedAccessors_of_declareClass hp))
  rw [typedAccessorsPart_eq, if_pos htyped]
  simp only [Run.outcome_bind, Run.outcome_mapM, hdeclared, ok_bind, List.filterMap_map,
    Function.id_comp]
  cases hts : ps.filterMap ProtocolDeclaration.typedAccessors? with
  | nil => rfl
  | cons t ts =>
    simp only [Run.outcome_bind, Run.outcome_ofExcept, typedAccessorsText_eq, ok_bind]
    rfl

/-- An accessor of a protocol and of the block that extends it: the block calls the method that
the protocol declares. -/
structure CallsUntyped (a : AccessorDeclaration) : Prop where
  untyped : a.untyped = some (Names.untyped a.name)
  declared : a.head
    = "    @objc(" ++ a.name ++ ") optional func " ++ Names.untyped a.name ++ "() -> SBElementArray"
  called : a.typedCall
    = "        " ++ Names.untyped a.name ++ "?() as? [" ++ a.type ++ "] ?? []"

theorem callsUntyped_withUntyped (a : AccessorDeclaration) : CallsUntyped a.withUntyped where
  untyped := rfl
  declared := by
    have htruthy : (optional a.withUntyped.untyped).isTruthy = true := by
      simp [AccessorDeclaration.withUntyped, optional, Json.ofText?, Json.isTruthy, Names.untyped]
    rw [AccessorDeclaration.head, if_pos htruthy]
    rfl
  called := rfl

/-- The texts of protocols fail alike. -/
theorem classText_withTyped_eq_error (o : Options) (names : Names) (c : Dictionary.Class)
    (e : GenerationError) :
    (classText (o.withTyped true) names c).outcome = .error e ↔
      (classText (o.withTyped false) names c).outcome = .error e := by
  rw [outcome_classText, outcome_classText, declareClass_withTyped, Run.outcome_map]
  simp only [map_eq_error]

theorem callsUntyped_of_declareClass {c : Dictionary.Class} {p : ProtocolDeclaration}
    (h : (declareClass (o.withTyped true) names c).outcome = .ok p) :
    ∀ a ∈ p.accessors, CallsUntyped a := by
  rw [declareClass_withTyped, Run.outcome_map] at h
  obtain ⟨plain, -, rfl⟩ := map_eq_ok.mp h
  intro a ha
  obtain ⟨b, -, rfl⟩ := List.mem_map.mp ha
  exact callsUntyped_withUntyped b

/-- **Typed accessors match the protocol.**  The declaration of a class is the same with and
without them but for the untyped names, and it fails alike.  The blocks of a file hold the
accessors of its protocols in order, and each calls the method that its protocol declares. -/
theorem typedAccessors_match (o : Options) (names : Names) :
    (∀ c, declareClass (o.withTyped true) names c
        = ProtocolDeclaration.withUntyped <$> declareClass (o.withTyped false) names c) ∧
    (∀ c e, (classText (o.withTyped true) names c).outcome = .error e ↔
        (classText (o.withTyped false) names c).outcome = .error e) ∧
    ∀ cs ps, List.Forall₂
        (fun c p => (declareClass (o.withTyped true) names c).outcome = .ok p) cs ps →
      List.Forall₂ (fun c p =>
          (classText (o.withTyped true) names c).outcome = .ok (ofLines (p.lines o.addComments)) ∧
          (declareTypedAccessors (o.withTyped true) names c).outcome = .ok p.typedAccessors?)
        cs ps ∧
      (typedAccessorsPart (o.withTyped true) names cs).outcome
        = .ok (typedParts o.addComments (ps.filterMap ProtocolDeclaration.typedAccessors?)) ∧
      ∀ p ∈ ps, ∀ a ∈ p.accessors, CallsUntyped a := by
  refine ⟨declareClass_withTyped o names, classText_withTyped_eq_error o names, ?_⟩
  intro cs ps h
  refine ⟨?_, outcome_typedAccessorsPart rfl h, ?_⟩
  · refine h.imp fun c p hp => ⟨?_, declareTypedAccessors_of_declareClass hp⟩
    rw [outcome_classText, hp]
    rfl
  · intro p hp
    obtain ⟨c, -, hdeclared⟩ := exists_right_of_forall₂ h.flip hp
    exact callsUntyped_of_declareClass hdeclared

theorem typedAccessors_match_artwork :
    ∃ p, (declareClass (typedOptions.withTyped true) {} artworkClass).outcome = .ok p ∧
      p.members.map Member.name = ["name", "id", "untypedArtworks", "setName"] ∧
      (typedAccessorsPart (typedOptions.withTyped true) {} [artworkClass]).outcome
        = .ok (typedParts typedOptions.addComments
            ([p].filterMap ProtocolDeclaration.typedAccessors?)) ∧
      ∀ a ∈ p.accessors, CallsUntyped a := by
  have hnames : (declareClass (typedOptions.withTyped true) {} artworkClass).outcome.toOption.map
      (fun p => p.members.map Member.name) = some ["name", "id", "untypedArtworks", "setName"] := by
    decide +kernel
  obtain ⟨p, hp, hmembers⟩ := exists_declared_of_names hnames
  obtain ⟨-, hblocks, hcalls⟩ :=
    (typedAccessors_match typedOptions {}).2.2 [artworkClass] [p] (.cons hp .nil)
  exact ⟨p, hp, hmembers, hblocks, hcalls p List.mem_cons_self⟩

end ScriptingBindings.Swift
