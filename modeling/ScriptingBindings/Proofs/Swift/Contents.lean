/-
  ScriptingBindings.Proofs.Swift.Contents
  ──────────────────────────────────
  **WHAT STANDS IN A FILE.**

  A file that is generated is made of parts: the texts of its header and of the
  standard declarations, then one text for each enumeration and one for the
  protocol of each class, and after them what closes the file.  What is
  declared for an enumeration or a class has the name that was planned.

  Every part has its lines among those of the file.
-/
import ScriptingBindings.Proofs.Swift.Plan
import ScriptingBindings.Proofs.Swift.ProtocolText
import ScriptingBindings.Proofs.Text.Lines

namespace ScriptingBindings.Swift

open Dictionary Text Template

/-! ## §1. Parts. -/

/-- The parts of a file by what they hold. -/
structure Parts where
  header : String
  standard : String
  enumerations : List String
  protocols : List String
  typed : List String
  classNames : List String
  application : String
  bindings : String
  aliases : List String

/-- The parts of a file in order. -/
def Parts.all (w : Parts) : List String :=
  [w.header, w.standard] ++ w.enumerations ++ w.protocols ++ w.typed ++ w.classNames
    ++ [w.application, w.bindings] ++ w.aliases

/-- What a file declares for a plan, and the parts that hold it. -/
structure Contents (o : Options) (names : Names) (basename : String) (p : Plan)
    (es : List EnumerationDeclaration) (ps : List ProtocolDeclaration) (w : Parts) : Prop where
  enumerations : List.Forall₂ (fun e d => (declareEnumeration names e).outcome = .ok d)
    p.enumerations es
  protocols : List.Forall₂ (fun c d => (declareClass o names c).outcome = .ok d) p.classes ps
  header : headerText basename o.imports (.of basename) = .ok w.header
  standard : standardText o.addComments (.of basename) = .ok w.standard
  enumerationTexts : List.Forall₂ (fun d t => EnumerationDeclaration.text o.addComments d = .ok t)
    es w.enumerations
  protocolTexts : List.Forall₂ (fun d t => ProtocolDeclaration.text o.addComments d = .ok t)
    ps w.protocols
  typed : (typedAccessorsPart o names p.classes).outcome = .ok w.typed
  classNames : classNamesPart o (.of basename) p.classes = .ok w.classNames
  application : applicationText o.addComments (.of basename) o.bundleIdentifier
    names.applicationFunction = .ok w.application
  bindings : bindingsText (ps.map ProtocolDeclaration.name) (.of basename) = .ok w.bindings
  aliases : aliasesPart o basename (.of basename)
    (es.map EnumerationDeclaration.name ++ ps.map ProtocolDeclaration.name) = .ok w.aliases

variable {o : Options} {names : Names} {basename : String} {p : Plan}

/-- A declared enumeration has the name of the enumeration. -/
theorem declareEnumeration_eq_ok {e : Enumeration} {d : EnumerationDeclaration}
    (h : (declareEnumeration names e).outcome = .ok d) :
    names.enumerationName e.name = .ok d.name := by
  rw [declareEnumeration_eq] at h
  obtain ⟨cases, -, h⟩ := Run.outcome_bind_eq_ok.mp h
  obtain ⟨name, hname, h⟩ := Run.outcome_bind_eq_ok.mp h
  rw [Run.outcome_ofExcept] at hname
  rw [Run.outcome_pure, Except.ok.injEq] at h
  rw [← h]
  exact hname

/-- Items that are related have the names that are made of the first ones. -/
theorem eq_map_of_forall₂ {α β γ ε : Type} {R : α → β → Prop} {f : α → Except ε γ} {g : β → γ}
    {as : List α} {bs : List β} {cs : List γ} (h : List.Forall₂ R as bs)
    (hname : ∀ a b, R a b → f a = .ok (g b)) (hcs : as.mapM f = .ok cs) : cs = bs.map g := by
  rw [mapM_eq_ok] at hcs
  induction h generalizing cs with
  | nil =>
    cases hcs
    rfl
  | @cons a b as bs hab _ ih =>
    cases hcs with
    | cons hc hcs =>
      rw [List.map_cons, ← ih hcs]
      rw [hname a b hab, Except.ok.injEq] at hc
      rw [hc]

/-- **The parts of a file.** -/
theorem contents_of_parts {written : List String}
    (h : (parts o names basename p).outcome = .ok written) :
    ∃ es ps w, Contents o names basename p es ps w ∧ written = w.all := by
  rw [parts_eq] at h
  obtain ⟨header, hheader, h⟩ := Run.outcome_bind_eq_ok.mp h
  obtain ⟨standard, hstandard, h⟩ := Run.outcome_bind_eq_ok.mp h
  obtain ⟨enumerations, henumerations, h⟩ := Run.outcome_bind_eq_ok.mp h
  obtain ⟨enumerationNames, henumerationNames, h⟩ := Run.outcome_bind_eq_ok.mp h
  obtain ⟨protocols, hprotocols, h⟩ := Run.outcome_bind_eq_ok.mp h
  obtain ⟨protocolNames, hprotocolNames, h⟩ := Run.outcome_bind_eq_ok.mp h
  obtain ⟨typed, htyped, h⟩ := Run.outcome_bind_eq_ok.mp h
  obtain ⟨classNames, hclassNames, h⟩ := Run.outcome_bind_eq_ok.mp h
  obtain ⟨application, happlication, h⟩ := Run.outcome_bind_eq_ok.mp h
  obtain ⟨bindings, hbindings, h⟩ := Run.outcome_bind_eq_ok.mp h
  obtain ⟨aliases, haliases, h⟩ := Run.outcome_bind_eq_ok.mp h
  obtain ⟨_, -, h⟩ := Run.outcome_bind_eq_ok.mp h
  rw [Run.outcome_mapM, mapM_eq_ok] at henumerations hprotocols
  rw [Run.outcome_pure, Except.ok.injEq] at h
  -- Between definitions and texts stand the declarations.
  obtain ⟨es, hes, hets⟩ := exists_between_of_forall₂
    (henumerations.imp (fun e t het => enumerationText_eq_ok.mp het))
  obtain ⟨ps, hps, hpts⟩ := exists_between_of_forall₂
    (hprotocols.imp (fun c t hct => classText_eq_ok.mp hct))
  have henames : enumerationNames = es.map EnumerationDeclaration.name :=
    eq_map_of_forall₂ hes (fun e d hd => declareEnumeration_eq_ok hd) henumerationNames
  have hpnames : protocolNames = ps.map ProtocolDeclaration.name :=
    eq_map_of_forall₂ hps (fun c d hd => (declareClass_eq_ok hd).1) hprotocolNames
  rw [Run.outcome_ofExcept] at hheader hstandard hclassNames happlication hbindings haliases
  rw [hpnames] at hbindings haliases
  rw [henames] at haliases
  exact ⟨es, ps, ⟨header, standard, enumerations, protocols, typed, classNames, application,
    bindings, aliases⟩, ⟨hes, hps, hheader, hstandard, hets, hpts, htyped, hclassNames,
    happlication, hbindings, haliases⟩, h.symm⟩

/-- **A generated file** has the parts of its plan. -/
theorem contents_of_generate {d : Dictionary} {text : String}
    (h : (generate o d basename).value = (names, .ok text)) :
    ∃ p es ps w, (plan d basename).value = (names, .ok p) ∧
      Contents o names basename p es ps w ∧ text = joinParts w.all := by
  rw [generate_eq, Logged.value_bind] at h
  cases hplan : (plan d basename).value with
  | mk known p =>
    rw [hplan] at h
    cases p with
    | error e => simp at h
    | ok p =>
      simp only [Logged.value_bind, Logged.value_pure, Prod.mk.injEq] at h
      obtain ⟨rfl, h⟩ := h
      obtain ⟨written, hparts, htext⟩ := map_eq_ok.mp h
      obtain ⟨es, ps, w, hw, rfl⟩ := contents_of_parts hparts
      exact ⟨p, es, ps, w, rfl, hw, htext.symm⟩

/-- What a file declares for definitions is named like definitions. -/
theorem Contents.forms_of_mem {es : List EnumerationDeclaration} {ps : List ProtocolDeclaration}
    {w : Parts} (h : Contents o names basename p es ps w) :
    ∀ n ∈ es.map EnumerationDeclaration.name ++ ps.map ProtocolDeclaration.name,
      names.Forms n := by
  intro n hn
  rcases List.mem_append.mp hn with hn | hn
  · obtain ⟨e, he, rfl⟩ := List.mem_map.mp hn
    obtain ⟨_, -, hdeclared⟩ := exists_right_of_forall₂ h.enumerations.flip he
    exact forms_of_enumerationName (declareEnumeration_eq_ok hdeclared)
  · obtain ⟨q, hq, rfl⟩ := List.mem_map.mp hn
    obtain ⟨_, -, hdeclared⟩ := exists_right_of_forall₂ h.protocols.flip hq
    exact forms_of_interfaceName (declareClass_eq_ok hdeclared).1

/-- Whether there is a file can be computed. -/
theorem exists_text_of_isSome {r : Names × Except GenerationError String}
    (h : r.2.toOption.isSome = true) : ∃ names text, r = (names, .ok text) := by
  match r with
  | (names, .ok text) => exact ⟨names, text, rfl⟩
  | (_, .error _) => exact absurd h (by simp [Except.toOption])

/-! ## §2. Lines of parts. -/

/-- Every part has its lines with content among those of the file. -/
theorem contentLines_subset_joinParts {parts : List String} {part : String} (h : part ∈ parts) :
    contentLines part.toList ⊆ contentLines (joinParts parts).toList := by
  intro line hline
  rw [joinParts, String.toList_ofList, contentLines_unlines]
  refine List.mem_flatMap.mpr ⟨_, List.mem_map_of_mem h, ?_⟩
  rw [trimmedPart, contentLines_append, contentLines_stripOf]
  exact List.mem_append_left _ hline

/-- A line with content after another line. -/
theorem mem_contentLines_after {s : String} (hs : '\n' ∉ s.toList) (hne : s ≠ "")
    (front before back : String) :
    s.toList ∈ contentLines (front ++ (before ++ "\n" ++ (s ++ "\n" ++ back))).toList := by
  have hsplit : (front ++ (before ++ "\n" ++ (s ++ "\n" ++ back))).toList
      = (front.toList ++ before.toList) ++ '\n' :: (s.toList ++ '\n' :: back.toList) := by
    simp
  have hne : s.toList ≠ [] := fun h => hne (String.toList_eq_nil_iff.mp h)
  rw [hsplit, contentLines_append, contentLines_append, contentLines_of_not_mem hs hne]
  simp

/-- A line that every file has, one level deep. -/
def movingLine : String := "    @objc optional func moveTo(_ to: SBObject?)"

theorem standardTemplate_eq :
    standardTemplate = standardTemplate.take 22
      ++ [line "    @objc optional func duplicateTo(_ to: SBObject?, withProperties: [String: Any]?)",
          line movingLine, line "\x7d"] :=
  rfl

theorem movingLine_mem_standardText {addComments : Bool} {f : FixedNames} {text : String}
    (h : standardText addComments f = .ok text) : movingLine.toList ∈ contentLines text.toList := by
  have hfill := (page_eq_ok (t := standardTemplate) rfl rfl).mp h
  rw [standardTemplate_eq] at hfill
  obtain ⟨front, _, -, hlines, rfl⟩ := fillNodes_append_eq_ok.mp hfill
  obtain ⟨before, _, hbefore, hrest, rfl⟩ := fillNodes_cons_eq_ok.mp hlines
  obtain ⟨middle, back, hmiddle, -, rfl⟩ := fillNodes_cons_eq_ok.mp hrest
  rw [← Except.ok.inj hbefore, ← Except.ok.inj hmiddle]
  exact mem_contentLines_after (by decide) (by decide) front _ back

end ScriptingBindings.Swift
