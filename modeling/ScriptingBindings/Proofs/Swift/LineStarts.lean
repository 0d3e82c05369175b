/-
  ScriptingBindings.Proofs.Swift.LineStarts
  ──────────────────────────────────
  **HOW LINES START.**

  The templates start each line of a declaration: with the marker of a comment,
  with `@objc`, with `case` or with the closing brace.  What comes from the
  dictionary stands further on in its line, and as it is of one line it starts
  no other.  Two kinds of text are written as they are and can start lines: the
  name in the title, and a code that is neither four characters nor
  hexadecimal.  Of these, the lines after the first stray among the others:

      Admits lines strays
-/
import ScriptingBindings.Proofs.FirstOfEach
import ScriptingBindings.Proofs.Swift.Contents
import ScriptingBindings.Proofs.Swift.OneLine

namespace ScriptingBindings.Swift

open Dictionary Template Text

/-! ## §1. Lines and strays. -/

/-- What the templates write at the start of a line. -/
def lineStarts : List String :=
  ["// MARK: - ", "///", "    ///", "@objc public protocol ", "@objc public enum ",
   "    @objc optional var ", "    @objc optional func ", "    @objc(", "    case "]

/-- A line that the templates start, unless they leave it empty. -/
def isStarted (line : List Char) : Bool :=
  line.isEmpty || line == closingLine
    || lineStarts.any fun start => start.toList.isPrefixOf line

/-- Lines that the templates start, and among them, in order, others that stray there. -/
inductive Admits : List (List Char) → List (List Char) → Prop where
  | nil : Admits [] []
  | started {line : List Char} {lines strays : List (List Char)} (h : isStarted line = true)
      (rest : Admits lines strays) : Admits (line :: lines) strays
  | stray (line : List Char) {lines strays : List (List Char)} (rest : Admits lines strays) :
      Admits (line :: lines) (line :: strays)

namespace Admits

variable {lines strays lines' strays' : List (List Char)}

theorem append (h : Admits lines strays) (h' : Admits lines' strays') :
    Admits (lines ++ lines') (strays ++ strays') := by
  induction h with
  | nil => exact h'
  | started hline _ ih => exact .started hline ih
  | stray line _ ih => exact .stray line ih

/-- Lines among which none strays stand before others. -/
theorem append_left (h : Admits lines []) (h' : Admits lines' strays') :
    Admits (lines ++ lines') strays' :=
  h.append h'

theorem flatMap {α : Type} {as : List α} {f g : α → List (List Char)}
    (h : ∀ a ∈ as, Admits (f a) (g a)) : Admits (as.flatMap f) (as.flatMap g) := by
  induction as with
  | nil => exact .nil
  | cons a as ih =>
    obtain ⟨ha, has⟩ := List.forall_mem_cons.mp h
    exact ha.append (ih has)

/-- Lines that are all started by the templates admit no other. -/
theorem of_forall (h : ∀ line ∈ lines, isStarted line = true) : Admits lines [] := by
  induction lines with
  | nil => exact .nil
  | cons line lines ih =>
    obtain ⟨hline, hlines⟩ := List.forall_mem_cons.mp h
    exact .started hline (ih hlines)

/-- All lines may stray. -/
theorem all (lines : List (List Char)) : Admits lines lines := by
  induction lines with
  | nil => exact .nil
  | cons line lines ih => exact .stray line ih

theorem flatMap_of_forall {α : Type} {as : List α} {f : α → List (List Char)}
    (h : ∀ a ∈ as, Admits (f a) []) : Admits (as.flatMap f) [] := by
  have hall := flatMap (g := fun _ => []) h
  rwa [List.flatMap_eq_nil_iff.mpr fun _ _ => rfl] at hall

end Admits

/-! ## §2. Guarded lines. -/

/-- What keeps a line from being code of its own. -/
def guards : List String := ["//", "@objc", "case "]

/-- A line that is blank or, leading spaces aside, starts with a guard or is the closing brace. -/
def isGuarded (line : List Char) : Bool :=
  let content := line.dropWhile (· == ' ')
  isAllBlank line || content == closingLine
    || guards.any fun guard => guard.toList.isPrefixOf content

theorem isGuarded_append {start : String} (h : start ∈ lineStarts) (rest : List Char) :
    isGuarded (start.toList ++ rest) = true := by
  simp only [lineStarts, List.mem_cons, List.not_mem_nil, or_false] at h
  rcases h with rfl | rfl | rfl | rfl | rfl | rfl | rfl | rfl | rfl <;> rfl

/-- The templates start no line without a guard. -/
theorem isGuarded_of_isStarted {line : List Char} (h : isStarted line = true) :
    isGuarded line = true := by
  rw [isStarted, Bool.or_eq_true, Bool.or_eq_true, List.any_eq_true] at h
  rcases h with (h | h) | ⟨start, hstart, h⟩
  · rw [List.isEmpty_iff.mp h]
    rfl
  · rw [beq_iff_eq.mp h]
    rfl
  · obtain ⟨rest, rfl⟩ := List.isPrefixOf_iff_prefix.mp h
    exact isGuarded_append hstart rest

/-- Lines that the templates start, except for some strays; so all are guarded exactly if these
are. -/
structure IsGuardedBut (lines strays : List (List Char)) : Prop where
  admits : Admits lines strays
  guarded_iff : (∀ line ∈ lines, isGuarded line = true) ↔ ∀ line ∈ strays, isGuarded line = true

theorem Admits.isGuardedBut {lines strays : List (List Char)} (h : Admits lines strays) :
    IsGuardedBut lines strays := by
  refine ⟨h, ?_⟩
  induction h with
  | nil => rfl
  | started hline _ ih =>
    rw [List.forall_mem_cons, ih, and_iff_right (isGuarded_of_isStarted hline)]
  | stray line _ ih => rw [List.forall_mem_cons, List.forall_mem_cons, ih]

/-! ## §3. Single lines. -/

/-- The lines of a text after its first. -/
def laterLines (s : String) : List (List Char) :=
  (linesOf s).tail

theorem isStarted_of_start {start : String} (hstart : start ∈ lineStarts) {line : List Char}
    (h : start.toList <+: line) : isStarted line = true := by
  rw [isStarted, Bool.or_eq_true, List.any_eq_true]
  exact .inr ⟨start, hstart, List.isPrefixOf_iff_prefix.mpr h⟩

/-- A text of one line that the templates start. -/
theorem admits_of_isOneLine {start s : String} (hstart : start ∈ lineStarts) (hs : IsOneLine s)
    (h : ∃ back, s = start ++ back) : Admits (linesOf s) [] := by
  rw [linesOf_of_isOneLine hs]
  obtain ⟨back, rfl⟩ := h
  refine .started (isStarted_of_start hstart ?_) .nil
  rw [String.toList_append]
  exact List.prefix_append ..

/-- A text that is written as it is after something of one line. -/
theorem admits_append {start front : String} (hstart : start ∈ lineStarts)
    (hfront : IsOneLine front) (h : start.toList <+: front.toList) (s : String) :
    Admits (linesOf (front ++ s)) (laterLines s) := by
  rw [linesOf_append hfront]
  exact .started (isStarted_of_start hstart (h.trans (List.prefix_append ..))) (.all _)

/-- Only the later lines of a title stray. -/
theorem admits_titleLines (title : String) : Admits (titleLines title) (laterLines title) := by
  have htitle : Admits (linesOf ("// MARK: - " ++ title)) (laterLines title) :=
    admits_append (by decide : "// MARK: - " ∈ lineStarts) (by decide) List.prefix_rfl title
  have hempty : Admits [[]] [] := .of_forall (by decide)
  have hlines := hempty.append_left (htitle.append hempty)
  rwa [List.append_nil] at hlines

/-- No line of a description strays: each becomes a remark. -/
theorem admits_remarkLines {addComments : Bool} {start : String} {column : Nat}
    (hstart : start ∈ lineStarts)
    (hcolumn : List.replicate column ' ' ++ "///".toList = start.toList)
    (description : Option String) : Admits (remarkLines addComments column description) [] := by
  refine .of_forall fun line hline => isStarted_of_start hstart ?_
  obtain ⟨rest, rfl⟩ := remarkAt_of_mem_remarkLines hline
  rw [hcolumn]
  exact List.prefix_append ..

theorem admits_remarks (addComments : Bool) (description : Option String) :
    Admits (remarkLines addComments 0 description) [] :=
  admits_remarkLines (by decide : "///" ∈ lineStarts) (by decide) description

theorem admits_memberRemarks (addComments : Bool) (description : Option String) :
    Admits (remarkLines addComments levelWidth description) [] :=
  admits_remarkLines (by decide : "    ///" ∈ lineStarts) (by decide) description

theorem admits_closingLine : Admits [closingLine] [] :=
  .of_forall (by decide)

/-! ## §4. Enumerations. -/

/-- The name of a value of an enumeration; nothing stands for a name that cannot be made. -/
def valueName (v : Enumerator) : String :=
  (Names.member v.name).toOption.getD ""

/-- The values of an enumeration that are declared: the first of each name. -/
def declaredValues (e : Enumeration) : List Enumerator :=
  firstOfEach valueName [] e.enumerators

/-- The declaration of a value. -/
def valueDeclaration (v : Enumerator) : CaseDeclaration :=
  ⟨valueName v, v.code, v.description⟩

/-- **The values that are declared** have names of one line, and are the first of each name. -/
theorem declareCases_eq_ok {title : String} {seen : List String} {vs : List Enumerator}
    {cases : List CaseDeclaration} (h : (declareCases title seen vs).outcome = .ok cases) :
    cases = (firstOfEach valueName seen vs).map valueDeclaration ∧
      ∀ c ∈ cases, IsOneLine c.name := by
  -- The seen names are free: each value that is declared adds its own before the rest.
  induction vs generalizing seen cases with
  | nil =>
    rw [← Except.ok.inj h]
    exact ⟨rfl, fun c hc => absurd hc List.not_mem_nil⟩
  | cons v vs ih =>
    rw [declareCases_cons] at h
    obtain ⟨name, hname, h⟩ := Run.outcome_bind_eq_ok.mp h
    rw [Run.outcome_ofExcept] at hname
    have hkey : valueName v = name := by
      rw [valueName, hname]
      rfl
    by_cases hs : name ∈ seen
    · rw [if_pos (by simpa using hs)] at h
      obtain ⟨_, -, h⟩ := Run.outcome_bind_eq_ok.mp h
      rw [firstOfEach_cons_of_mem valueName (hkey ▸ hs)]
      exact ih h
    · rw [if_neg (by simpa using hs)] at h
      obtain ⟨more, hmore, h⟩ := Run.outcome_bind_eq_ok.mp h
      obtain ⟨heq, hall⟩ := ih hmore
      rw [← Except.ok.inj h, firstOfEach_cons_of_not_mem valueName (hkey ▸ hs), List.map_cons, hkey,
        ← heq, valueDeclaration, hkey]
      exact ⟨rfl, List.forall_mem_cons.mpr ⟨isOneLine_member hname, hall⟩⟩

/-- Only the later lines of its code stray from a value. -/
theorem CaseDeclaration.admits_lines (addComments : Bool) {c : CaseDeclaration}
    (hc : IsOneLine c.name) :
    Admits (c.lines addComments) (laterLines (FourCharCode.encode c.code)) := by
  unfold CaseDeclaration.lines CaseDeclaration.head
  refine (admits_memberRemarks addComments c.description).append_left ?_
  have hfront : IsOneLine ("    case " ++ c.name ++ " = ") :=
    (IsOneLine.append (by decide) hc).append (by decide)
  refine admits_append (by decide : "    case " ∈ lineStarts) hfront ?_ _
  simp only [String.toList_append, List.append_assoc]
  exact List.prefix_append ..

/-- **Only the later lines of its title and of its codes stray from an enumeration.** -/
theorem EnumerationDeclaration.admits_lines (addComments : Bool) {e : EnumerationDeclaration}
    (hname : IsOneLine e.name) (hcases : ∀ c ∈ e.cases, IsOneLine c.name) :
    Admits (e.lines addComments)
      (laterLines e.title ++ e.cases.flatMap fun c => laterLines (FourCharCode.encode c.code)) := by
  have hline : IsOneLine e.head := (IsOneLine.append (by decide) hname).append (by decide)
  have hhead : Admits (linesOf e.head) [] :=
    admits_of_isOneLine (by decide : "@objc public enum " ∈ lineStarts) hline e.exists_head_eq
  have hvalues := (Admits.flatMap fun c hc =>
    CaseDeclaration.admits_lines addComments (hcases c hc)).append admits_closingLine
  rw [List.append_nil] at hvalues
  exact (admits_titleLines e.title).append
    ((admits_remarks addComments e.description).append_left (hhead.append_left hvalues))

/-! ## §5. Protocols. -/

/-- No line of a property strays. -/
theorem PropertyDeclaration.admits_lines (addComments : Bool) {q : PropertyDeclaration}
    (h : IsOneLine q.head) : Admits (q.lines addComments) [] :=
  (admits_memberRemarks addComments q.description).append_left
    (admits_of_isOneLine (by decide : "    @objc optional var " ∈ lineStarts) h q.exists_head_eq)

theorem admits_identifierLines {identifier : Option Json}
    (h : ∀ type, identifier = some type → IsOneLine type.display) :
    Admits (identifierLines identifier) [] := by
  cases identifier with
  | none => exact .nil
  | some type =>
    unfold identifierLines
    rw [Option.getD_some]
    dsimp only
    split
    next =>
      have hstart : "    @objc optional func id() -> " = "    @objc optional func " ++ "id() -> " :=
        by decide
      exact admits_of_isOneLine (by decide : "    @objc optional func " ∈ lineStarts)
        (IsOneLine.append (by decide) (h type rfl)) ⟨_, by rw [hstart, String.append_assoc]⟩
    next => exact .nil

theorem AccessorDeclaration.admits_head {a : AccessorDeclaration} (h : IsOneLine a.head) :
    Admits (linesOf a.head) [] := by
  rcases a.exists_head_eq with hhead | hhead
  · exact admits_of_isOneLine (by decide : "    @objc(" ∈ lineStarts) h hhead
  · exact admits_of_isOneLine (by decide : "    @objc optional func " ∈ lineStarts) h hhead

theorem SetterDeclaration.admits_head {s : SetterDeclaration} (h : IsOneLine s.head) :
    Admits (linesOf s.head) [] :=
  admits_of_isOneLine (by decide : "    @objc optional func " ∈ lineStarts) h s.exists_head_eq

/-- **Only the later lines of its title stray from a protocol.** -/
theorem ProtocolDeclaration.admits_lines (addComments : Bool) {p : ProtocolDeclaration}
    (h : p.IsFlat) : Admits (p.lines addComments) (laterLines p.title) := by
  have hhead : Admits (linesOf p.head) [] :=
    admits_of_isOneLine (by decide : "@objc public protocol " ∈ lineStarts) h.head p.exists_head_eq
  have hproperties : Admits (p.properties.flatMap (PropertyDeclaration.lines addComments)) [] :=
    .flatMap_of_forall fun q hq => PropertyDeclaration.admits_lines addComments (h.properties q hq)
  have haccessors : Admits (p.accessors.flatMap fun a => linesOf a.head) [] :=
    .flatMap_of_forall fun a ha => AccessorDeclaration.admits_head (h.accessors a ha)
  have hsetters : Admits (p.setters.flatMap fun s => linesOf s.head) [] :=
    .flatMap_of_forall fun s hs => SetterDeclaration.admits_head (h.setters s hs)
  have hmembers := hproperties.append_left ((admits_identifierLines h.identifier).append_left
    (haccessors.append_left (hsetters.append_left admits_closingLine)))
  -- The title alone has lines that stray.
  have hlines := (admits_titleLines p.title).append
    ((admits_remarks addComments p.description).append_left (hhead.append_left hmembers))
  rwa [List.append_nil] at hlines

/-! ## §6. Texts. -/

section Texts

variable {o : Options} {names : Names} {text : String}

/-- Behind the last line feed of a text there is an empty line. -/
theorem admits_linesOf_ofLines {ls strays : List (List Char)} (hls : ∀ l ∈ ls, '\n' ∉ l)
    (h : Admits ls strays) : Admits (linesOf (ofLines ls)) strays := by
  rw [linesOf_ofLines hls, ← List.append_nil strays]
  exact h.append (.of_forall (by decide))

/-- The text of a class that is declared. -/
theorem classText_of_declareClass {c : Dictionary.Class} {p : ProtocolDeclaration}
    (h : (declareClass o names c).outcome = .ok p) :
    (classText o names c).outcome = .ok (ofLines (p.lines o.addComments)) := by
  rw [outcome_classText, h]
  rfl

/-- The text of an enumeration that is declared. -/
theorem enumerationText_of_declareEnumeration {e : Enumeration}
    {declaration : EnumerationDeclaration} (h : (declareEnumeration names e).outcome = .ok declaration) :
    (enumerationText o names e).outcome = .ok (ofLines (declaration.lines o.addComments)) := by
  rw [enumerationText_eq, Run.outcome_bind, h, ok_bind, Run.outcome_ofExcept,
    EnumerationDeclaration.text_eq]

/-- **Of a class only the later lines of its name start lines.** -/
theorem isGuardedBut_classText (ho : o.overrides = []) (hn : names.AreFlat)
    {c : Dictionary.Class} (h : (classText o names c).outcome = .ok text) :
    IsGuardedBut (linesOf text) (laterLines c.name) := by
  obtain ⟨p, hp, -⟩ := classText_eq_ok.mp h
  rw [classText_of_declareClass hp] at h
  rw [← Except.ok.inj h, ← (head_of_declareClass hp).1]
  refine (admits_linesOf_ofLines (fun _ => p.not_mem_of_mem_lines) ?_).isGuardedBut
  exact ProtocolDeclaration.admits_lines o.addComments (isFlat_of_declareClass ho hn hp)

/-- An enumeration declares its first values of each name. -/
theorem cases_of_declareEnumeration {e : Enumeration} {declaration : EnumerationDeclaration}
    (h : (declareEnumeration names e).outcome = .ok declaration) :
    declaration.title = e.name ∧ declaration.cases = (declaredValues e).map valueDeclaration ∧
      ∀ c ∈ declaration.cases, IsOneLine c.name := by
  rw [declareEnumeration_eq] at h
  obtain ⟨cases, hcases, h⟩ := Run.outcome_bind_eq_ok.mp h
  obtain ⟨name, -, h⟩ := Run.outcome_bind_eq_ok.mp h
  rw [← Except.ok.inj h]
  exact ⟨rfl, declareCases_eq_ok hcases⟩

/-- **Of an enumeration only the later lines of its name and of the codes that are declared start
lines.** -/
theorem isGuardedBut_enumerationText (hn : names.AreFlat) {e : Enumeration}
    (h : (enumerationText o names e).outcome = .ok text) :
    IsGuardedBut (linesOf text) (laterLines e.name ++
      (declaredValues e).flatMap fun v => laterLines (FourCharCode.encode v.code)) := by
  obtain ⟨declaration, hdeclaration, -⟩ := enumerationText_eq_ok.mp h
  obtain ⟨htitle, hcases, hlines⟩ := cases_of_declareEnumeration hdeclaration
  rw [enumerationText_of_declareEnumeration hdeclaration] at h
  have hadmits := EnumerationDeclaration.admits_lines o.addComments
    ((forms_of_enumerationName (declareEnumeration_eq_ok hdeclaration)).isOneLine hn.base) hlines
  rw [htitle, hcases, List.flatMap_map] at hadmits
  rw [← Except.ok.inj h]
  exact (admits_linesOf_ofLines (fun _ => EnumerationDeclaration.not_mem_of_mem_lines)
    hadmits).isGuardedBut

end Texts

end ScriptingBindings.Swift
