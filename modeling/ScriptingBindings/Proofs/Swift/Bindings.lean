/-
  ScriptingBindings.Proofs.Swift.Bindings
  ──────────────────────────────────
  **WHAT A FILE DECLARES OF A DICTIONARY, AND WHAT IT BINDS.**

  Of the classes, and of the enumerations that have values, a file declares
  those whose name is that of no other one before them; an enumeration without
  values is in nobody's way, and one that is called like the fixed save options
  is left out.  Each protocol of a class is bound in a line of its own, and
  after them the two fixed ones:

      extension SBObject: MusicTrack {}
      extension SBApplication: MusicApplicationProtocol {}
      extension SBObject: MusicGenericMethods {}

  So each class of a dictionary has its name declared once and bound once.
-/
import Mathlib.Data.List.Count
import ScriptingBindings.Proofs.Swift.OneLine
import ScriptingBindings.Proofs.Swift.TopLevel

namespace ScriptingBindings.Swift

open Dictionary Template Text

/-! ## §1. The lines of bindings. -/

/-- The line that binds a protocol to the objects of the bridge. -/
def bindingLine (name : String) : String :=
  "extension SBObject: " ++ name ++ " \x7b\x7d"

/-- The line that binds the protocol of the application. -/
def applicationBinding (f : FixedNames) : String :=
  "extension SBApplication: " ++ f.applicationProtocol ++ " \x7b\x7d"

/-- The lines that bind the protocols of classes and the fixed ones. -/
def bindingLines (protocols : List String) (f : FixedNames) : List String :=
  protocols.map bindingLine ++ [applicationBinding f, bindingLine f.genericMethods]

theorem bindingLine_injective : Function.Injective bindingLine := by
  intro n m h
  unfold bindingLine at h
  exact (String.append_right_inj _).mp ((String.append_left_inj _).mp h)

theorem applicationBinding_ne (f : FixedNames) (name : String) :
    applicationBinding f ≠ bindingLine name := by
  intro h
  -- The words before the name differ in their thirteenth letter.
  have hletter := congrArg (fun s : String => s.toList[12]?) h
  unfold applicationBinding bindingLine at hletter
  simp only [String.append_assoc, String.toList_append] at hletter
  rw [List.getElem?_append_left (by decide), List.getElem?_append_left (by decide)] at hletter
  exact absurd hletter (by decide)

/-- A protocol is bound as often as it is listed, if it is not the fixed one. -/
theorem count_bindingLines {protocols : List String} {f : FixedNames} {name : String}
    (h : name ≠ f.genericMethods) :
    (bindingLines protocols f).count (bindingLine name) = protocols.count name := by
  have hfixed : [applicationBinding f, bindingLine f.genericMethods].count (bindingLine name) = 0 := by
    refine List.count_eq_zero_of_not_mem ?_
    rw [List.mem_pair]
    rintro (hline | hline)
    · exact applicationBinding_ne f name hline.symm
    · exact h (bindingLine_injective hline)
  rw [bindingLines, List.count_append, hfixed, Nat.add_zero]
  exact List.count_map_of_injective protocols bindingLine bindingLine_injective name

section Texts

variable {scope : Scope}

/-- A line with one value between fixed texts. -/
theorem fillNodes_slotLine {base name : String} (before after : String)
    (hname : Ref.find scope ⟨base, none⟩ = .ok (.str name)) :
    fillNodes [.text before, slot base, line after] scope
      = .ok (ofLines (linesOf (before ++ name ++ after))) := by
  rw [← append_lineFeed]
  simp only [fillNodes_cons_cons, fillNodes_singleton, fillNode, line, slot, hname, filtered_nil,
    ok_bind, pure_eq_ok, Json.display_str, String.append_assoc]

theorem fillNodes_bindingsTitle :
    fillNodes [line "", line "// MARK: - Bindings", line ""] scope
      = .ok (ofLines (titleLines "Bindings")) := by
  rw [ofLines_titleLines]
  rfl

end Texts

/-- **The text of the bindings, line by line.** -/
theorem bindingsText_eq (protocols : List String) (f : FixedNames) :
    bindingsText protocols f
      = .ok (ofLines (titleLines "Bindings" ++ (bindingLines protocols f).flatMap linesOf)) := by
  refine (page_eq_ok (t := bindingsTemplate) rfl rfl).mpr ?_
  refine fillNodes_append_of fillNodes_bindingsTitle ?_
  -- The lines of classes come from a loop, the two others stand in the template.
  rw [bindingLines, List.flatMap_append, List.flatMap_map, List.flatMap_cons, List.flatMap_cons,
    List.flatMap_nil, List.append_nil]
  refine fillNodes_cons_of (fillNode_each_of rfl fun name =>
    fillNodes_slotLine "extension SBObject: " " \x7b\x7d" rfl) ?_
  exact fillNodes_append_of (fillNodes_slotLine "extension SBApplication: " " \x7b\x7d" rfl)
    (fillNodes_slotLine "extension SBObject: " " \x7b\x7d" rfl)

/-- Names of one line are bound in one line. -/
theorem isOneLine_of_mem_bindingLines {protocols : List String} {basename : String}
    (hbasename : IsOneLine basename) (hprotocols : ∀ k ∈ protocols, IsOneLine k) :
    ∀ l ∈ bindingLines protocols (.of basename), IsOneLine l := by
  have hbinding : ∀ k, IsOneLine k → IsOneLine (bindingLine k) := fun k hk =>
    IsOneLine.append (IsOneLine.append (by decide) hk) (by decide)
  have happlication : IsOneLine (applicationBinding (.of basename)) :=
    IsOneLine.append (IsOneLine.append (by decide) (hbasename.append (by decide))) (by decide)
  intro l hl
  rcases List.mem_append.mp hl with hl | hl
  · obtain ⟨k, hk, rfl⟩ := List.mem_map.mp hl
    exact hbinding k (hprotocols k hk)
  · rcases List.mem_pair.mp hl with rfl | rfl
    · exact happlication
    · exact hbinding _ (hbasename.append (by decide))

theorem linesOf_bindings {ls : List String} (h : ∀ l ∈ ls, IsOneLine l) :
    linesOf (ofLines (titleLines "Bindings" ++ ls.flatMap linesOf))
      = titleLines "Bindings" ++ ls.map String.toList ++ [[]] := by
  have hlines : ls.flatMap linesOf = ls.map String.toList := by
    rw [List.map_eq_flatMap]
    exact List.flatMap_congr fun l hl => linesOf_of_isOneLine (h l hl)
  rw [hlines, linesOf_ofLines]
  intro line hline
  rcases List.mem_append.mp hline with hline | hline
  · exact not_mem_of_mem_titleLines hline
  · obtain ⟨l, hl, rfl⟩ := List.mem_map.mp hline
    exact h l hl

/-! ## §2. The first definitions of each name. -/

/-- Whether an enumeration has values. -/
def isValued (e : Enumeration) : Bool := !e.enumerators.isEmpty

/-- What a file declares of a dictionary, and what it binds. -/
structure DeclaresFirsts (o : Options) (names : Names) (basename : String) (d : Dictionary)
    (es : List EnumerationDeclaration) (ps : List ProtocolDeclaration) (w : Parts) : Prop where
  /-- Of the enumerations that have values the first of each name, without the save options. -/
  enumerations : List.Forall₂ (fun e q => (declareEnumeration names e).outcome = .ok q)
    (firsts names.enumerationOf isValued [(FixedNames.of basename).saveOptions] d.enumerations) es
  enumerationNames : ∀ e ∈ d.enumerations,
    names.enumerationName e.name = .ok (names.enumerationOf e)
  /-- Of the classes the first of each name. -/
  classes : List.Forall₂ (fun c q => (declareClass o names c).outcome = .ok q)
    (firsts names.interfaceOf (fun _ => true) [] d.classes) ps
  interfaceNames : ∀ c ∈ d.classes, names.interfaceName c.name = .ok (names.interfaceOf c)
  bindings : w.bindings = ofLines (titleLines "Bindings"
    ++ (bindingLines (ps.map ProtocolDeclaration.name) (.of basename)).flatMap linesOf)
  lines : IsOneLine basename → linesOf w.bindings = titleLines "Bindings"
    ++ (bindingLines (ps.map ProtocolDeclaration.name) (.of basename)).map String.toList ++ [[]]
  /-- Every class has its name declared once and bound once. -/
  once : ∀ c ∈ d.classes,
    (ps.map ProtocolDeclaration.name).count (names.interfaceOf c) = 1 ∧
      (bindingLines (ps.map ProtocolDeclaration.name) (.of basename)).count
        (bindingLine (names.interfaceOf c)) = 1
  /-- No fixed name is declared anew. -/
  not_fixed : ∀ n ∈ es.map EnumerationDeclaration.name ++ ps.map ProtocolDeclaration.name,
    n ∉ (FixedNames.of basename).all

section Files

variable {o : Options} {names : Names} {basename : String} {d : Dictionary} {p : Plan}
  {es : List EnumerationDeclaration} {ps : List ProtocolDeclaration} {w : Parts}

/-- The enumerations of a file are declared for the first ones that have values. -/
theorem Contents.forall₂_enumerations_firsts (hplan : (plan d basename).value = (names, .ok p))
    (h : Contents o names basename p es ps w) :
    List.Forall₂ (fun e q => (declareEnumeration names e).outcome = .ok q)
      (firsts names.enumerationOf isValued [(FixedNames.of basename).saveOptions] d.enumerations)
      es := by
  rw [← firstOfEach_filter]
  exact (enumerations_of_plan hplan).1 ▸ h.enumerations

/-- The protocols of a file are declared for the first classes. -/
theorem Contents.forall₂_protocols_firsts (hplan : (plan d basename).value = (names, .ok p))
    (h : Contents o names basename p es ps w) :
    List.Forall₂ (fun c q => (declareClass o names c).outcome = .ok q)
      (firsts names.interfaceOf (fun _ => true) [] d.classes) ps := by
  obtain ⟨-, hclasses, -⟩ := plan_eq_ok hplan
  have hprotocols := h.protocols
  rw [hclasses, firstClasses] at hprotocols
  rw [← firstOfEach_filter, List.filter_true]
  exact hprotocols

theorem Contents.bindings_eq (h : Contents o names basename p es ps w) :
    w.bindings = ofLines (titleLines "Bindings"
      ++ (bindingLines (ps.map ProtocolDeclaration.name) (.of basename)).flatMap linesOf) := by
  have htext := h.bindings
  rw [bindingsText_eq, Except.ok.injEq] at htext
  exact htext.symm

theorem Contents.isOneLine_protocols (hplan : (plan d basename).value = (names, .ok p))
    (h : Contents o names basename p es ps w) (hbasename : IsOneLine basename) :
    ∀ k ∈ ps.map ProtocolDeclaration.name, IsOneLine k :=
  fun k hk => (h.forms_of_mem k (List.mem_append_right _ hk)).isOneLine
    ((plan_eq_ok hplan).1.base.symm ▸ hbasename)

/-- Every class has its name declared once. -/
theorem Contents.count_name_protocols (hplan : (plan d basename).value = (names, .ok p))
    (h : Contents o names basename p es ps w) {c : Dictionary.Class} (hc : c ∈ d.classes) :
    (ps.map ProtocolDeclaration.name).count (names.interfaceOf c) = 1 := by
  refine List.count_eq_one_of_mem (h.areTypeNames hplan).nodup_protocols ?_
  rw [h.map_name_protocols hplan, firstClasses, mem_map_firstOfEach]
  exact ⟨List.mem_map_of_mem hc, List.not_mem_nil⟩

/-- Every class has its name bound once. -/
theorem Contents.count_bindingLine (hplan : (plan d basename).value = (names, .ok p))
    (h : Contents o names basename p es ps w) {c : Dictionary.Class} (hc : c ∈ d.classes) :
    (bindingLines (ps.map ProtocolDeclaration.name) (.of basename)).count
      (bindingLine (names.interfaceOf c)) = 1 := by
  obtain ⟨hfor, -, hinterfaces⟩ := plan_eq_ok hplan
  -- The name is no fixed one, so the line for the generic methods is not its line.
  have hfixed := (isPrefixed_interfaceName hfor (hinterfaces c hc)).2
  rw [count_bindingLines, h.count_name_protocols hplan hc]
  intro hgeneric
  exact hfixed (by simp [hgeneric, FixedNames.all])

end Files

/-- **Of each name the first is declared**, and each class is bound once. -/
theorem generate_declaresFirsts (o : Options) (d : Dictionary) (basename text : String)
    (names : Names) (h : (generate o d basename).value = (names, .ok text)) :
    ∃ p es ps w, (plan d basename).value = (names, .ok p) ∧
      Contents o names basename p es ps w ∧ text = joinParts w.all ∧
      DeclaresFirsts o names basename d es ps w := by
  obtain ⟨p, es, ps, w, hplan, hw, htext⟩ := contents_of_generate h
  obtain ⟨-, -, hinterfaces⟩ := plan_eq_ok hplan
  obtain ⟨-, henames⟩ := enumerations_of_plan hplan
  refine ⟨p, es, ps, w, hplan, hw, htext, hw.forall₂_enumerations_firsts hplan, henames,
    hw.forall₂_protocols_firsts hplan, hinterfaces, hw.bindings_eq, ?_, ?_,
    (hw.areTypeNames hplan).not_fixed⟩
  · intro hbasename
    rw [hw.bindings_eq]
    exact linesOf_bindings
      (isOneLine_of_mem_bindingLines hbasename (hw.isOneLine_protocols hplan hbasename))
  · intro c hc
    exact ⟨hw.count_name_protocols hplan hc, hw.count_bindingLine hplan hc⟩

/-- Classes and enumerations of equal names, an enumeration without values and save options. -/
def repeatedDictionary : Dictionary :=
  { suites := [
      { name := "Player Suite"
        classes := [{ name := "music track" }, { name := "application" }, { name := "Music Track" }]
        enumerations := [
          { name := "state" },
          { name := "state", enumerators := [{ name := "stopped", code := "kPSS" }] },
          { name := "State", enumerators := [{ name := "playing", code := "kPSP" }] },
          { name := "save options", enumerators := [{ name := "yes", code := "yes " }] }] }] }

theorem generate_declaresFirsts_repeated :
    ∃ names text,
      (generate richOptions repeatedDictionary "Music").value = (names, .ok text) ∧
      ∃ p es ps w, (plan repeatedDictionary "Music").value = (names, .ok p) ∧
        Contents richOptions names "Music" p es ps w ∧ text = joinParts w.all ∧
        DeclaresFirsts richOptions names "Music" repeatedDictionary es ps w := by
  obtain ⟨names, text, h⟩ := exists_text_of_isSome
    (r := (generate richOptions repeatedDictionary "Music").value) (by decide +kernel)
  exact ⟨names, text, h,
    generate_declaresFirsts richOptions repeatedDictionary "Music" text names h⟩

end ScriptingBindings.Swift
