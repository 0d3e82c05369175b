/-
  ScriptingBindings.Proofs.Swift.ProtocolText
  ──────────────────────────────────
  **PROTOCOLS AS TEXT.**

  The text of a protocol has a line for every property that is declared, and
  one for the identifier where its type is spelled out.  The template is cut
  around these two places; what stands before and after them does not matter
  here.
-/
import Mathlib.Data.List.Infix
import ScriptingBindings.Proofs.Swift.Members
import ScriptingBindings.Proofs.Template.Filling
import ScriptingBindings.Swift.Page

namespace ScriptingBindings.Swift

open Template

/-! ## §1. Pieces of texts. -/

/-- A piece stands somewhere in a text. -/
def Holds (text piece : String) : Prop :=
  piece.toList <:+: text.toList

instance (text piece : String) : Decidable (Holds text piece) :=
  inferInstanceAs (Decidable (piece.toList <:+: text.toList))

theorem Holds.refl (text : String) : Holds text text := List.infix_rfl

theorem Holds.append_left {text piece : String} (h : Holds text piece) (front : String) :
    Holds (front ++ text) piece := by
  unfold Holds
  rw [String.toList_append]
  exact h.trans (List.suffix_append front.toList text.toList).isInfix

theorem Holds.append_right {text piece : String} (h : Holds text piece) (back : String) :
    Holds (text ++ back) piece := by
  unfold Holds
  rw [String.toList_append]
  exact h.trans (List.prefix_append text.toList back.toList).isInfix

/-- What stands in one of several texts stands in all of them together. -/
theorem Holds.join {s piece : String} (h : Holds s piece) {ss : List String} (hs : s ∈ ss) :
    Holds (String.join ss) piece := by
  induction ss with
  | nil => exact absurd hs (by simp)
  | cons t ss ih =>
    rw [String.join_cons]
    rcases List.mem_cons.mp hs with rfl | hs
    · exact h.append_right (String.join ss)
    · exact (ih hs).append_left t

/-! ## §2. Pages. -/

/-- The text of a template that is in the store, filled from values of which none stands under
the reserved name. -/
theorem page_eq_ok {name : String} {t : Template} {values : Scope} {text : String}
    (hfind : templateStore.find name = .ok t) (hself : values.has reservedName = false) :
    page name values = .ok text ↔ fillNodes t values = .ok text := by
  rw [page, mapError_eq_ok, Store.render, hfind, hself]
  show (t.fill values).mapError _ = .ok text ↔ _
  rw [mapError_eq_ok]
  rfl

/-! ## §3. The lines of a protocol. -/

/-- The line of a property. -/
def PropertyDeclaration.line (p : PropertyDeclaration) : String :=
  "    @objc optional var " ++ p.name ++ ": " ++ p.type.display ++ " \x7b get \x7d" ++ "\n"

/-- The line of an identifier of a type. -/
def identifierLine (type : Json) : String :=
  "    @objc optional func id() -> " ++ type.display ++ "\n"

/-- The part of the template for a property, its description aside. -/
def propertyLineNodes : List Node :=
  [.text "    @objc optional var ", part "prop" "name", .text ": ", part "prop" "type",
   line " \x7b get \x7d"]

/-- The part of the template for all properties. -/
def propertiesNode : Node :=
  .each "prop" ⟨"cls", some "properties"⟩
    (description "prop" [.comment, .indent] :: propertyLineNodes)

/-- The part of the template for the identifier. -/
def identifierNode : Node :=
  .when [⟨"cls", some "id_method"⟩]
    [.text "    @objc optional func id() -> ", part "cls" "id_method", line ""]

theorem protocolTemplate_eq :
    protocolTemplate
      = protocolTemplate.take 11 ++ propertiesNode :: identifierNode :: protocolTemplate.drop 13 :=
  rfl

/-- The values that the text of a protocol is filled from. -/
def protocolScope (addComments : Bool) (p : ProtocolDeclaration) : Scope :=
  [("add_comments", .bool addComments),
   ("cls", .obj
     [("sdef_name", .str p.title), ("name", .str p.name),
      ("description", optional p.description), ("inheritance", textList p.inheritance),
      ("properties", .arr (p.properties.map PropertyDeclaration.values)),
      ("id_method", p.identifier.getD .null),
      ("elements", .arr (p.accessors.map AccessorDeclaration.values)),
      ("setters", .arr (p.setters.map SetterDeclaration.values))])]

/-- The text of a protocol is its template filled from its values. -/
theorem protocol_text_eq_ok {addComments : Bool} {p : ProtocolDeclaration} {text : String} :
    p.text addComments = .ok text
      ↔ fillNodes protocolTemplate (protocolScope addComments p) = .ok text :=
  -- The template is in the store, and no value stands under the reserved name.
  page_eq_ok rfl rfl

/-- The text of a protocol, cut around its properties and its identifier. -/
theorem exists_cut_of_protocol_text {addComments : Bool} {p : ProtocolDeclaration} {text : String}
    (h : p.text addComments = .ok text) :
    ∃ front properties identifier back,
      fillNode propertiesNode (protocolScope addComments p) = .ok properties ∧
        fillNode identifierNode (protocolScope addComments p) = .ok identifier ∧
          text = front ++ (properties ++ (identifier ++ back)) := by
  rw [protocol_text_eq_ok, protocolTemplate_eq] at h
  obtain ⟨front, rest, -, hrest, rfl⟩ := fillNodes_append_eq_ok.mp h
  obtain ⟨properties, others, hproperties, hothers, rfl⟩ := fillNodes_cons_eq_ok.mp hrest
  obtain ⟨identifier, back, hidentifier, -, rfl⟩ := fillNodes_cons_eq_ok.mp hothers
  exact ⟨front, properties, identifier, back, hproperties, hidentifier, rfl⟩

/-- The text for a property has its line. -/
theorem holds_propertyLine {p : PropertyDeclaration} {scope : Scope} {s : String}
    (h : fillNodes (description "prop" [.comment, .indent] :: propertyLineNodes)
      (("prop", p.values) :: scope) = .ok s) : Holds s p.line := by
  obtain ⟨remark, t, -, ht, rfl⟩ := fillNodes_cons_eq_ok.mp h
  -- What the description gives stands before the line and is left as it is.
  have hline : fillNodes propertyLineNodes (("prop", p.values) :: scope) = .ok p.line := by
    simp only [propertyLineNodes, fillNodes, fillNode, line, part, Ref.find, filtered,
      OrderedMap.get?, PropertyDeclaration.values, Json.member?, Json.fields?, if_true,
      Option.bind_some, String.reduceEq, if_false, List.foldlM_nil, ok_bind, pure_eq_ok,
      Json.display_str]
    unfold PropertyDeclaration.line
    simp only [String.append_assoc]
    rw [String.append_empty]
  rw [← Except.ok.inj (hline.symm.trans ht)]
  exact (Holds.refl p.line).append_left remark

/-- **The text of a protocol has the line of every property.** -/
theorem holds_line_of_mem {addComments : Bool} {p : ProtocolDeclaration} {text : String}
    (h : p.text addComments = .ok text) {q : PropertyDeclaration} (hq : q ∈ p.properties) :
    Holds text q.line := by
  obtain ⟨front, _, identifier, back, hproperties, -, rfl⟩ := exists_cut_of_protocol_text h
  obtain ⟨lines, hlines, rfl⟩ := (fillNode_each_eq_ok rfl).mp hproperties
  obtain ⟨s, hs, hfill⟩ := exists_right_of_forall₂ hlines (List.mem_map_of_mem hq)
  have hall : Holds (String.join lines) q.line := (holds_propertyLine hfill).join hs
  exact (hall.append_right (identifier ++ back)).append_left front

/-- **The text of a protocol has the line of the identifier** where its type counts as
written. -/
theorem holds_identifierLine {addComments : Bool} {p : ProtocolDeclaration} {text : String}
    (h : p.text addComments = .ok text) {type : Json} (hid : p.identifier = some type)
    (htype : type.isTruthy = true) : Holds text (identifierLine type) := by
  obtain ⟨front, properties, _, back, -, hidentifier, rfl⟩ := exists_cut_of_protocol_text h
  have hline : fillNode identifierNode (protocolScope addComments p)
      = .ok (identifierLine type) := by
    simp only [identifierNode, protocolScope, hid, fillNodes, fillNode, line, part, allHold,
      Ref.find, filtered, OrderedMap.get?, Json.member?, Json.fields?, Option.getD_some,
      if_true, if_false, Option.bind_some, String.reduceEq, htype, List.foldlM_nil, ok_bind,
      pure_eq_ok]
    unfold identifierLine
    simp only [String.append_assoc]
    rw [String.append_empty, String.empty_append]
  rw [← Except.ok.inj (hline.symm.trans hidentifier)]
  have hall : Holds (identifierLine type ++ back) (identifierLine type) :=
    (Holds.refl (identifierLine type)).append_right back
  exact (hall.append_left properties).append_left front

/-- A protocol declares a property, or its identifier, by a line of its text. -/
def ProtocolDeclaration.Declares (addComments : Bool) (p : ProtocolDeclaration) (name : String) :
    Prop :=
  ∃ text, p.text addComments = .ok text ∧
    ((∃ q ∈ p.properties, q.name = name ∧ Holds text q.line) ∨
      (name = identifierName ∧ ∃ type, p.identifier = some type ∧ Holds text (identifierLine type)))

theorem reads_of_declares {addComments : Bool} {p : ProtocolDeclaration} {name : String}
    (h : p.Declares addComments name) : Reads p.properties p.identifier name := by
  obtain ⟨_, -, ⟨q, hq, hname, -⟩ | ⟨hname, type, htype, -⟩⟩ := h
  · exact .inl (hname ▸ List.mem_map_of_mem hq)
  · exact .inr ⟨hname, Option.isSome_iff_exists.mpr ⟨type, htype⟩⟩

/-- **What can be read is declared**, except for an identifier whose type is spelled by an
empty value. -/
theorem declares_of_reads {addComments : Bool} {p : ProtocolDeclaration} {text name : String}
    (htext : p.text addComments = .ok text) (h : Reads p.properties p.identifier name) :
    p.Declares addComments name ∨
      (name = identifierName ∧ ∃ type, p.identifier = some type ∧ type.isTruthy = false) := by
  rcases h with hproperty | ⟨rfl, hidentifier⟩
  · obtain ⟨q, hq, rfl⟩ := List.mem_map.mp hproperty
    exact .inl ⟨text, htext, .inl ⟨q, hq, rfl, holds_line_of_mem htext hq⟩⟩
  · obtain ⟨type, htype⟩ := Option.isSome_iff_exists.mp hidentifier
    cases htruthy : type.isTruthy with
    | false => exact .inr ⟨rfl, type, htype, htruthy⟩
    | true =>
      exact .inl ⟨text, htext, .inr ⟨rfl, type, htype, holds_identifierLine htext htype htruthy⟩⟩

end ScriptingBindings.Swift
