/-
  ScriptingBindings.Proofs.Swift.DeclarationLines
  ──────────────────────────────────
  **DECLARATIONS, LINE BY LINE.**

  The text of an enumeration and that of a protocol, said without templates: a
  title, the remarks of a description, the line that opens the declaration, the
  lines of its members and a closing brace.

      e.text addComments = .ok (ofLines (e.lines addComments))

  What a declaration shows may itself have line feeds, so each of these can be
  several lines.
-/
import ScriptingBindings.Proofs.Layout.Remarks
import ScriptingBindings.Proofs.Swift.ProtocolText
import ScriptingBindings.Swift.Unit

namespace ScriptingBindings.Swift

open Template Text

/-! ## §1. Texts from lines. -/

/-- The lines of a text. -/
def linesOf (s : String) : List (List Char) :=
  Text.lines s.toList

/-- A text in which each line ends. -/
def ofLines (ls : List (List Char)) : String :=
  String.ofList (ended ls)

theorem ofLines_nil : ofLines [] = "" := rfl

theorem ofLines_append (ls ms : List (List Char)) :
    ofLines (ls ++ ms) = ofLines ls ++ ofLines ms := by
  rw [ofLines, ended_append, String.ofList_append]
  rfl

theorem ofLines_flatMap {α : Type} (as : List α) (f : α → List (List Char)) :
    ofLines (as.flatMap f) = String.join (as.map fun a => ofLines (f a)) := by
  induction as with
  | nil => rfl
  | cons a as ih => rw [List.flatMap_cons, ofLines_append, ih, List.map_cons, String.join_cons]

/-- A text that ends with a line feed. -/
theorem append_lineFeed (s : String) : s ++ "\n" = ofLines (linesOf s) := by
  rw [ofLines, linesOf, ended_lines, String.ofList_append, String.ofList_toList]

theorem not_mem_of_mem_linesOf {s : String} {line : List Char} (h : line ∈ linesOf s) :
    '\n' ∉ line :=
  not_mem_of_mem_cutAt h

theorem linesOf_ofLines {ls : List (List Char)} (h : ∀ l ∈ ls, '\n' ∉ l) :
    linesOf (ofLines ls) = ls ++ [[]] := by
  rw [linesOf, ofLines, String.toList_ofList, lines_ended h]

/-- What holds no line feed stands at the start of the first line. -/
theorem linesOf_append {front : String} (h : '\n' ∉ front.toList) (s : String) :
    linesOf (front ++ s) = (front.toList ++ (linesOf s).headD []) :: (linesOf s).tail := by
  rw [linesOf, String.toList_append]
  exact cutAt_append_of_not_mem h s.toList

/-! ## §2. Filling templates. -/

section Filling

variable {scope : Scope}

theorem filtered_nil (v : Json) : filtered [] v = .ok v := rfl

theorem fillNodes_singleton (n : Node) : fillNodes [n] scope = fillNode n scope := by
  rw [fillNodes]
  cases fillNode n scope with
  | error f => rfl
  | ok s => exact congrArg Except.ok String.append_empty

theorem fillNodes_cons_cons (n m : Node) (rest : List Node) :
    fillNodes (n :: m :: rest) scope = (do
      let s ← fillNode n scope
      let t ← fillNodes (m :: rest) scope
      return s ++ t) := rfl

theorem fillNodes_cons_of {n : Node} {rest : List Node} {ls ms : List (List Char)}
    (hn : fillNode n scope = .ok (ofLines ls)) (hrest : fillNodes rest scope = .ok (ofLines ms)) :
    fillNodes (n :: rest) scope = .ok (ofLines (ls ++ ms)) := by
  rw [fillNodes, hn, ok_bind, hrest, ofLines_append]
  rfl

theorem fillNodes_append_of {front back : List Node} {ls ms : List (List Char)}
    (hfront : fillNodes front scope = .ok (ofLines ls))
    (hback : fillNodes back scope = .ok (ofLines ms)) :
    fillNodes (front ++ back) scope = .ok (ofLines (ls ++ ms)) :=
  fillNodes_append_eq_ok.mpr ⟨_, _, hfront, hback, ofLines_append ls ms⟩

theorem fillNode_each_of {α : Type} {name : String} {items : Ref} {body : List Node} {as : List α}
    {value : α → Json} {f : α → List (List Char)}
    (hitems : items.find scope = .ok (.arr (as.map value)))
    (hbody : ∀ a, fillNodes body ((name, value a) :: scope) = .ok (ofLines (f a))) :
    fillNode (.each name items body) scope = .ok (ofLines (as.flatMap f)) := by
  refine (fillNode_each_eq_ok hitems).mpr ⟨as.map fun a => ofLines (f a), ?_, ofLines_flatMap as f⟩
  rw [List.forall₂_map_left_iff, List.forall₂_map_right_iff, List.forall₂_same]
  exact fun a _ => hbody a

end Filling

/-! ## §3. Remarks. -/

/-- The remarks of a description. -/
def remarks (column : Nat) (description : String) : List (List Char) :=
  (linesOf description).map fun line =>
    List.replicate column ' ' ++ commentLine commentMarker.toList line

/-- The remarks of a description, if there is one and comments are asked for. -/
def remarkLines (addComments : Bool) (column : Nat) (description : Option String) :
    List (List Char) :=
  match description with
  | some d => if addComments && !d.isEmpty then remarks column d else []
  | none => []

theorem remarkAt_commentLine (column : Nat) (line : List Char) :
    RemarkAt column (List.replicate column ' ' ++ commentLine commentMarker.toList line) := by
  unfold commentLine
  split
  next => exact ⟨[], by simp [commentMarker]⟩
  next => exact ⟨' ' :: line, by simp [commentMarker]⟩

/-- **Every line of a description is a remark.** -/
theorem remarkAt_of_mem_remarkLines {addComments : Bool} {column : Nat}
    {description : Option String} {line : List Char}
    (h : line ∈ remarkLines addComments column description) : RemarkAt column line := by
  unfold remarkLines remarks at h
  split at h
  next =>
    split at h
    next =>
      obtain ⟨l, -, rfl⟩ := List.mem_map.mp h
      exact remarkAt_commentLine column l
    next => exact absurd h List.not_mem_nil
  next => exact absurd h List.not_mem_nil

theorem not_mem_commentLine {line : List Char} (h : '\n' ∉ line) :
    '\n' ∉ commentLine commentMarker.toList line := by
  unfold commentLine
  split
  next => decide
  next =>
    rw [List.mem_append, List.mem_cons]
    rintro (hmarker | hspace | hline)
    · exact absurd hmarker (by decide)
    · exact absurd hspace (by decide)
    · exact h hline

theorem not_mem_of_mem_remarks {column : Nat} {description : String} {line : List Char}
    (h : line ∈ remarks column description) : '\n' ∉ line := by
  obtain ⟨l, hl, rfl⟩ := List.mem_map.mp h
  rw [List.mem_append]
  rintro (hmem | hmem)
  · exact absurd (List.eq_of_mem_replicate hmem) (by decide)
  · exact not_mem_commentLine (not_mem_of_mem_cutAt hl) hmem

theorem not_mem_of_mem_remarkLines {addComments : Bool} {column : Nat}
    {description : Option String} {line : List Char}
    (h : line ∈ remarkLines addComments column description) : '\n' ∉ line := by
  unfold remarkLines at h
  split at h
  next =>
    split at h
    next => exact not_mem_of_mem_remarks h
    next => exact absurd h List.not_mem_nil
  next => exact absurd h List.not_mem_nil

theorem remarks_ne_nil (column : Nat) (description : String) : remarks column description ≠ [] :=
  mt List.map_eq_nil_iff.mp (cutAt_ne_nil '\n' description.toList)

theorem ofLines_remarks (column : Nat) (description : String) :
    String.ofList (unlines (remarks column description)) ++ "\n"
      = ofLines (remarks column description) := by
  rw [append_lineFeed, linesOf, String.toList_ofList,
    lines_unlines (fun _ => not_mem_of_mem_remarks) (remarks_ne_nil column description)]

theorem comment_eq (d : String) :
    comment commentMarker.toList d.toList = unlines (remarks 0 d) := by
  simp [comment, mapLines, remarks, linesOf]

/-- Remarks have content, so indentation moves each of them. -/
theorem indent_remarks (column : Nat) (d : String) :
    indent column (unlines (remarks 0 d)) = unlines (remarks column d) := by
  rw [indent, mapLines, lines_unlines (fun _ => not_mem_of_mem_remarks) (remarks_ne_nil 0 d),
    remarks, remarks, List.map_map]
  congr 1
  refine List.map_congr_left fun line _ => ?_
  obtain ⟨rest, hrest⟩ := remarkAt_commentLine 0 line
  have hblank : isAllBlank (List.replicate 0 ' ' ++ commentLine commentMarker.toList line)
      = false := by
    rw [hrest]
    simp [isAllBlank, isBlank, blankRanges, inRanges]
  rw [Function.comp_apply, indentLine, hblank, if_neg (by simp), List.replicate_zero,
    List.nil_append]

theorem filtered_comment (d : String) :
    filtered [.comment] (.str d) = .ok (.str (String.ofList (unlines (remarks 0 d)))) := by
  rw [← comment_eq]
  rfl

theorem filtered_comment_indent (d : String) :
    filtered [.comment, .indent] (.str d)
      = .ok (.str (String.ofList (unlines (remarks levelWidth d)))) := by
  show Except.ok (Json.str (String.ofList (indent levelWidth
    (String.ofList (comment commentMarker.toList d.toList)).toList))) = _
  rw [String.toList_ofList, comment_eq, indent_remarks]

/-- **A description is filled in as remarks.** -/
theorem fillNode_description {scope : Scope} {addComments : Bool} {base : String}
    {filters : List Filter} {column : Nat} {d : Option String}
    (hadd : Ref.find scope ⟨"add_comments", none⟩ = .ok (.bool addComments))
    (hd : Ref.find scope ⟨base, some "description"⟩ = .ok (optional d))
    (hfilters : ∀ s, filtered filters (.str s)
      = .ok (.str (String.ofList (unlines (remarks column s))))) :
    fillNode (description base filters) scope
      = .ok (ofLines (remarkLines addComments column d)) := by
  rw [description, fillNode]
  simp only [allHold, hadd, hd, ok_bind]
  cases addComments with
  | false => cases d <;> rfl
  | true =>
    cases d with
    | none => rfl
    | some s =>
      have hbody : fillNodes [part base "description" filters, .text "\n"] scope
          = .ok (ofLines (remarks column s)) := by
        rw [part, fillNodes, fillNode, hd, ok_bind, optional, Json.ofText?, hfilters,
          ← ofLines_remarks]
        rfl
      cases hs : s.isEmpty with
      | true => simp [optional, Json.ofText?, Json.isTruthy, remarkLines, hs, pure_eq_ok, ok_bind,
          ofLines_nil]
      | false => simp [optional, Json.ofText?, Json.isTruthy, remarkLines, hs, pure_eq_ok, ok_bind,
          hbody]

/-! ## §4. Enumerations. -/

/-- The line between two parts of a declaration that opens with it. -/
def titleLines (title : String) : List (List Char) :=
  [] :: linesOf ("// MARK: - " ++ title) ++ [[]]

/-- The last line of a declaration. -/
def closingLine : List Char := ['\x7d']

theorem not_mem_of_mem_titleLines {title : String} {line : List Char}
    (h : line ∈ titleLines title) : '\n' ∉ line := by
  rcases List.mem_append.mp h with h | h
  · rcases List.mem_cons.mp h with rfl | h
    · exact List.not_mem_nil
    · exact not_mem_of_mem_linesOf h
  · rw [List.mem_singleton.mp h]
    exact List.not_mem_nil

theorem ofLines_titleLines (title : String) :
    ofLines (titleLines title) = "\n" ++ ("// MARK: - " ++ (title ++ ("\n" ++ "\n"))) := by
  have hempty : ofLines [[]] = "\n" := rfl
  rw [titleLines, ← List.singleton_append, ofLines_append, ofLines_append, ← append_lineFeed,
    hempty]
  simp only [String.append_assoc]

theorem fillNodes_title {scope : Scope} {base title : String}
    (htitle : Ref.find scope ⟨base, some "sdef_name"⟩ = .ok (.str title)) :
    fillNodes [line "", .text "// MARK: - ", part base "sdef_name", line "", line ""] scope
      = .ok (ofLines (titleLines title)) := by
  simp only [fillNodes_cons_cons, fillNodes_singleton, fillNode, line, part, htitle,
    filtered_nil, ok_bind, pure_eq_ok, Json.display_str, ofLines_titleLines, String.empty_append]

/-- The line of a value of an enumeration. -/
def CaseDeclaration.head (c : CaseDeclaration) : String :=
  "    case " ++ c.name ++ " = " ++ FourCharCode.encode c.code

theorem CaseDeclaration.exists_head_eq (c : CaseDeclaration) :
    ∃ back, c.head = "    case " ++ back := by
  unfold CaseDeclaration.head
  exact ⟨_, by rw [String.append_assoc, String.append_assoc]⟩

/-- The lines of a value of an enumeration. -/
def CaseDeclaration.lines (addComments : Bool) (c : CaseDeclaration) : List (List Char) :=
  remarkLines addComments levelWidth c.description ++ linesOf c.head

/-- The line that opens an enumeration. -/
def EnumerationDeclaration.head (e : EnumerationDeclaration) : String :=
  "@objc public enum " ++ e.name ++ ": AEKeyword \x7b"

theorem EnumerationDeclaration.exists_head_eq (e : EnumerationDeclaration) :
    ∃ back, e.head = "@objc public enum " ++ back := by
  unfold EnumerationDeclaration.head
  exact ⟨_, by rw [String.append_assoc]⟩

/-- The lines of an enumeration. -/
def EnumerationDeclaration.lines (addComments : Bool) (e : EnumerationDeclaration) :
    List (List Char) :=
  titleLines e.title ++ (remarkLines addComments 0 e.description ++ (linesOf e.head ++
    (e.cases.flatMap (CaseDeclaration.lines addComments) ++ [closingLine])))

/-- None of the lines holds a line feed. -/
theorem EnumerationDeclaration.not_mem_of_mem_lines {addComments : Bool}
    {e : EnumerationDeclaration} {line : List Char} (h : line ∈ e.lines addComments) :
    '\n' ∉ line := by
  simp only [EnumerationDeclaration.lines, CaseDeclaration.lines, List.mem_append,
    List.mem_flatMap, List.mem_singleton] at h
  rcases h with h | h | h | ⟨c, -, h | h⟩ | rfl
  · exact not_mem_of_mem_titleLines h
  · exact not_mem_of_mem_remarkLines h
  · exact not_mem_of_mem_linesOf h
  · exact not_mem_of_mem_remarkLines h
  · exact not_mem_of_mem_linesOf h
  · decide

theorem fillNodes_case {addComments : Bool} {c : CaseDeclaration} {scope : Scope}
    (hadd : Ref.find scope ⟨"add_comments", none⟩ = .ok (.bool addComments)) :
    fillNodes
      (description "case" [.comment, .indent] ::
        [.text "    case ", part "case" "name", .text " = ", part "case" "code" [.fourCharCode],
          line ""])
      (("case", c.values) :: scope) = .ok (ofLines (c.lines addComments)) := by
  refine fillNodes_cons_of (fillNode_description hadd rfl filtered_comment_indent) ?_
  unfold CaseDeclaration.head
  rw [← append_lineFeed]
  simp only [String.append_assoc]
  rfl

theorem fillNodes_enumerationHead {e : EnumerationDeclaration} {scope : Scope}
    (hname : Ref.find scope ⟨"enum", some "name"⟩ = .ok (.str e.name)) :
    fillNodes [.text "@objc public enum ", part "enum" "name", line ": AEKeyword \x7b"] scope
      = .ok (ofLines (linesOf e.head)) := by
  unfold EnumerationDeclaration.head
  rw [← append_lineFeed]
  simp only [fillNodes_cons_cons, fillNodes_singleton, fillNode, line, part, hname, filtered_nil,
    ok_bind, pure_eq_ok, Json.display_str, String.append_assoc]

/-- **The text of an enumeration, line by line.** -/
theorem EnumerationDeclaration.text_eq (addComments : Bool) (e : EnumerationDeclaration) :
    e.text addComments = .ok (ofLines (e.lines addComments)) := by
  refine (page_eq_ok (t := enumerationTemplate) rfl rfl).mpr ?_
  refine fillNodes_append_of (fillNodes_title rfl) ?_
  refine fillNodes_cons_of (fillNode_description rfl rfl filtered_comment) ?_
  refine fillNodes_append_of (fillNodes_enumerationHead rfl) ?_
  exact fillNodes_cons_of (fillNode_each_of rfl fun c => fillNodes_case rfl) rfl

/-! ## §5. Protocols. -/

/-- The line of a property that can be read. -/
def PropertyDeclaration.head (q : PropertyDeclaration) : String :=
  "    @objc optional var " ++ q.name ++ ": " ++ q.type.display ++ " \x7b get \x7d"

theorem PropertyDeclaration.exists_head_eq (q : PropertyDeclaration) :
    ∃ back, q.head = "    @objc optional var " ++ back := by
  unfold PropertyDeclaration.head
  exact ⟨_, by rw [String.append_assoc, String.append_assoc, String.append_assoc]⟩

/-- The lines of a property. -/
def PropertyDeclaration.lines (addComments : Bool) (q : PropertyDeclaration) :
    List (List Char) :=
  remarkLines addComments levelWidth q.description ++ linesOf q.head

/-- The lines of an identifier, if its type is spelled out. -/
def identifierLines (identifier : Option Json) : List (List Char) :=
  let type := identifier.getD .null
  if type.isTruthy then linesOf ("    @objc optional func id() -> " ++ type.display) else []

/-- The line of an accessor. -/
def AccessorDeclaration.head (a : AccessorDeclaration) : String :=
  if (optional a.untyped).isTruthy then
    "    @objc(" ++ a.name ++ ") optional func " ++ (optional a.untyped).display
      ++ "() -> SBElementArray"
  else "    @objc optional func " ++ a.name ++ "() -> SBElementArray"

theorem AccessorDeclaration.exists_head_eq (a : AccessorDeclaration) :
    (∃ back, a.head = "    @objc(" ++ back) ∨
      ∃ back, a.head = "    @objc optional func " ++ back := by
  unfold AccessorDeclaration.head
  split
  next => exact .inl ⟨_, by rw [String.append_assoc, String.append_assoc, String.append_assoc]⟩
  next => exact .inr ⟨_, by rw [String.append_assoc]⟩

/-- The line of a setter. -/
def SetterDeclaration.head (s : SetterDeclaration) : String :=
  "    @objc optional func " ++ s.name ++ "(_ " ++ s.parameter ++ ": " ++ s.type.display ++ ")"

theorem SetterDeclaration.exists_head_eq (s : SetterDeclaration) :
    ∃ back, s.head = "    @objc optional func " ++ back := by
  unfold SetterDeclaration.head
  exact ⟨_, by rw [String.append_assoc, String.append_assoc, String.append_assoc,
    String.append_assoc, String.append_assoc]⟩

/-- The line that opens a protocol. -/
def ProtocolDeclaration.head (p : ProtocolDeclaration) : String :=
  "@objc public protocol " ++ p.name ++ ": " ++ ", ".intercalate p.inheritance ++ " \x7b"

theorem ProtocolDeclaration.exists_head_eq (p : ProtocolDeclaration) :
    ∃ back, p.head = "@objc public protocol " ++ back := by
  unfold ProtocolDeclaration.head
  exact ⟨_, by rw [String.append_assoc, String.append_assoc, String.append_assoc]⟩

/-- The lines of a protocol. -/
def ProtocolDeclaration.lines (addComments : Bool) (p : ProtocolDeclaration) :
    List (List Char) :=
  titleLines p.title ++ (remarkLines addComments 0 p.description ++ (linesOf p.head ++
    (p.properties.flatMap (PropertyDeclaration.lines addComments) ++
      (identifierLines p.identifier ++
        (p.accessors.flatMap (fun a => linesOf a.head) ++
          (p.setters.flatMap (fun s => linesOf s.head) ++ [closingLine]))))))

/-- None of the lines holds a line feed. -/
theorem ProtocolDeclaration.not_mem_of_mem_lines {addComments : Bool} {p : ProtocolDeclaration}
    {line : List Char} (h : line ∈ p.lines addComments) : '\n' ∉ line := by
  simp only [ProtocolDeclaration.lines, PropertyDeclaration.lines, List.mem_append,
    List.mem_flatMap, List.mem_singleton] at h
  rcases h with h | h | h | ⟨q, -, h | h⟩ | h | ⟨a, -, h⟩ | ⟨s, -, h⟩ | rfl
  · exact not_mem_of_mem_titleLines h
  · exact not_mem_of_mem_remarkLines h
  · exact not_mem_of_mem_linesOf h
  · exact not_mem_of_mem_remarkLines h
  · exact not_mem_of_mem_linesOf h
  · unfold identifierLines at h
    dsimp only at h
    split at h
    next => exact not_mem_of_mem_linesOf h
    next => exact absurd h List.not_mem_nil
  · exact not_mem_of_mem_linesOf h
  · exact not_mem_of_mem_linesOf h
  · decide

theorem fillNodes_property {addComments : Bool} {q : PropertyDeclaration} {scope : Scope}
    (hadd : Ref.find scope ⟨"add_comments", none⟩ = .ok (.bool addComments)) :
    fillNodes (description "prop" [.comment, .indent] :: propertyLineNodes)
      (("prop", q.values) :: scope) = .ok (ofLines (q.lines addComments)) := by
  refine fillNodes_cons_of (fillNode_description hadd rfl filtered_comment_indent) ?_
  have hname : Ref.find (("prop", q.values) :: scope) ⟨"prop", some "name"⟩ = .ok (.str q.name) :=
    rfl
  have htype : Ref.find (("prop", q.values) :: scope) ⟨"prop", some "type"⟩ = .ok q.type := rfl
  unfold PropertyDeclaration.head propertyLineNodes
  rw [← append_lineFeed]
  simp only [fillNodes_cons_cons, fillNodes_singleton, fillNode, line, part, hname, htype,
    filtered_nil, ok_bind, pure_eq_ok, Json.display_str, String.append_assoc]

theorem fillNode_identifier {identifier : Option Json} {scope : Scope}
    (hid : Ref.find scope ⟨"cls", some "id_method"⟩ = .ok (identifier.getD .null)) :
    fillNode identifierNode scope = .ok (ofLines (identifierLines identifier)) := by
  rw [identifierNode, fillNode, identifierLines]
  simp only [allHold, hid, ok_bind]
  cases (identifier.getD .null).isTruthy with
  | false => rfl
  | true =>
    simp only [if_true, ← append_lineFeed, fillNodes_cons_cons, fillNodes_singleton, fillNode, line,
      part, hid, filtered_nil, ok_bind, pure_eq_ok, String.append_assoc, String.empty_append]

theorem fillNodes_accessor {a : AccessorDeclaration} {scope : Scope} :
    fillNodes
      [.choose ⟨"accessor", some "untyped"⟩
        [.text "    @objc(", part "accessor" "name", .text ") optional func ",
         part "accessor" "untyped", line "() -> SBElementArray"]
        [.text "    @objc optional func ", part "accessor" "name", line "() -> SBElementArray"]]
      (("accessor", a.values) :: scope) = .ok (ofLines (linesOf a.head)) := by
  have hname : Ref.find (("accessor", a.values) :: scope) ⟨"accessor", some "name"⟩
      = .ok (.str a.name) := rfl
  have huntyped : Ref.find (("accessor", a.values) :: scope) ⟨"accessor", some "untyped"⟩
      = .ok (optional a.untyped) := rfl
  unfold AccessorDeclaration.head
  rw [← append_lineFeed]
  cases htruthy : (optional a.untyped).isTruthy with
  | false =>
    simp only [fillNodes_cons_cons, fillNodes_singleton, fillNode, line, part, hname, huntyped,
      htruthy, filtered_nil, ok_bind, pure_eq_ok, Json.display_str, String.append_assoc,
      Bool.false_eq_true, if_false]
  | true =>
    simp only [fillNodes_cons_cons, fillNodes_singleton, fillNode, line, part, hname, huntyped,
      htruthy, filtered_nil, ok_bind, pure_eq_ok, Json.display_str, String.append_assoc, if_true]

theorem fillNodes_setter {s : SetterDeclaration} {scope : Scope} :
    fillNodes
      [.text "    @objc optional func ", part "setter" "name", .text "(_ ",
       part "setter" "parameter", .text ": ", part "setter" "type", line ")"]
      (("setter", s.values) :: scope) = .ok (ofLines (linesOf s.head)) := by
  have hname : Ref.find (("setter", s.values) :: scope) ⟨"setter", some "name"⟩
      = .ok (.str s.name) := rfl
  have hparameter : Ref.find (("setter", s.values) :: scope) ⟨"setter", some "parameter"⟩
      = .ok (.str s.parameter) := rfl
  have htype : Ref.find (("setter", s.values) :: scope) ⟨"setter", some "type"⟩ = .ok s.type :=
    rfl
  unfold SetterDeclaration.head
  rw [← append_lineFeed]
  simp only [fillNodes_cons_cons, fillNodes_singleton, fillNode, line, part, hname, hparameter,
    htype, filtered_nil, ok_bind, pure_eq_ok, Json.display_str, String.append_assoc]

theorem fillNodes_protocolHead {p : ProtocolDeclaration} {scope : Scope}
    (hname : Ref.find scope ⟨"cls", some "name"⟩ = .ok (.str p.name))
    (hinheritance : Ref.find scope ⟨"cls", some "inheritance"⟩ = .ok (textList p.inheritance)) :
    fillNodes
      [.text "@objc public protocol ", part "cls" "name", .text ": ",
       part "cls" "inheritance" [.join], line " \x7b"] scope
      = .ok (ofLines (linesOf p.head)) := by
  have hdisplay : (p.inheritance.map Json.str).map Json.display = p.inheritance := by
    rw [List.map_map]
    exact List.map_id'' Json.display_str p.inheritance
  have hjoin : filtered [.join] (textList p.inheritance)
      = .ok (.str (", ".intercalate p.inheritance)) := by
    rw [← congrArg (String.intercalate ", ") hdisplay]
    rfl
  unfold ProtocolDeclaration.head
  rw [← append_lineFeed]
  simp only [fillNodes_cons_cons, fillNodes_singleton, fillNode, line, part, hname, hinheritance,
    hjoin, filtered_nil, ok_bind, pure_eq_ok, Json.display_str, String.append_assoc]

/-- **The text of a protocol, line by line.** -/
theorem ProtocolDeclaration.text_eq (addComments : Bool) (p : ProtocolDeclaration) :
    p.text addComments = .ok (ofLines (p.lines addComments)) := by
  rw [protocol_text_eq_ok]
  refine fillNodes_append_of (fillNodes_title rfl) ?_
  refine fillNodes_cons_of (fillNode_description rfl rfl filtered_comment) ?_
  refine fillNodes_append_of (fillNodes_protocolHead rfl rfl) ?_
  refine fillNodes_cons_of (fillNode_each_of rfl fun q => fillNodes_property rfl) ?_
  refine fillNodes_cons_of (fillNode_identifier rfl) ?_
  refine fillNodes_cons_of (fillNode_each_of rfl fun a => fillNodes_accessor) ?_
  exact fillNodes_cons_of (fillNode_each_of rfl fun s => fillNodes_setter) rfl

/-- The text of the protocol of a class, from its declaration. -/
theorem outcome_classText (o : Options) (names : Names) (c : Dictionary.Class) :
    (classText o names c).outcome
      = (declareClass o names c).outcome.map fun p => ofLines (p.lines o.addComments) := by
  rw [classText_eq, Run.outcome_bind]
  cases (declareClass o names c).outcome with
  | error e => rfl
  | ok p => exact p.text_eq o.addComments

end ScriptingBindings.Swift
