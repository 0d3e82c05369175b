/-
  ScriptingBindings.Proofs.Swift.Openings
  ──────────────────────────────────
  **WHAT A FILE DECLARES AT ITS TOP LEVEL.**

  Each declaration that stands outside of all others starts with words of its
  kind and with its name.  The text of a file has these openings in order, and
  which ones they are follows from the enumerations and the protocols of the
  file and from the options.
-/
import ScriptingBindings.Proofs.Swift.Contents
import ScriptingBindings.Proofs.Text.Pieces

namespace ScriptingBindings.Swift

open Dictionary Text Template

/-! ## §1. Openings. -/

/-- The kinds of declarations. -/
inductive Kind where
  /-- Another name for a type. -/
  | synonym
  /-- An enumeration with codes. -/
  | enumeration
  /-- A protocol that inherits nothing. -/
  | root
  /-- A protocol that inherits others. -/
  | protocol
  /-- An enumeration that only groups what is declared in it. -/
  | group
  /-- A function. -/
  | function
  deriving Repr, DecidableEq

namespace Kind

/-- The words before the name. -/
def before : Kind → String
  | synonym => "public typealias "
  | enumeration => "@objc public enum "
  | root | protocol => "@objc public protocol "
  | group => "public enum "
  | function => "public func "

/-- What stands behind the name. -/
def after : Kind → String
  | synonym => " = "
  | enumeration => ": AEKeyword \x7b"
  | root | group => " \x7b"
  | protocol => ": "
  | function => "() -> "

theorem isFirm_before (k : Kind) : IsFirm '\n' k.before.toList := by
  cases k with
  | synonym | enumeration | root | protocol | group | function =>
    exact ⟨⟨_, rfl, by decide⟩, ⟨_, rfl, by decide⟩⟩

theorem isFirm_after (k : Kind) : IsFirm '\n' k.after.toList := by
  cases k with
  | synonym | enumeration | root | protocol | group | function =>
    exact ⟨⟨_, rfl, by decide⟩, ⟨_, rfl, by decide⟩⟩

end Kind

/-- How a declaration starts. -/
structure Opening where
  kind : Kind
  name : String
  deriving Repr, DecidableEq

/-- The start of a declaration as text. -/
def Opening.text (d : Opening) : String :=
  d.kind.before ++ d.name ++ d.kind.after

theorem isFirm_text (d : Opening) : IsFirm '\n' d.text.toList := by
  unfold Opening.text
  rw [String.toList_append, String.toList_append, List.append_assoc]
  exact d.kind.isFirm_before.append d.name.toList d.kind.isFirm_after

/-- A text has the starts of declarations in order. -/
def Opens (text : String) (ds : List Opening) : Prop :=
  Shows text (ds.map Opening.text)

theorem Opens.nil (text : String) : Opens text [] := Shows.nil text

/-- Line feeds around a part do not matter. -/
theorem Opens.trimmedPart {part : String} {ds : List Opening} (h : Opens part ds) :
    InOrder (Swift.trimmedPart part) ((ds.map Opening.text).map String.toList) := by
  refine InOrder.append_right (InOrder.stripOf h ?_) ['\n']
  intro piece hpiece
  rw [List.map_map] at hpiece
  obtain ⟨d, -, rfl⟩ := List.mem_map.mp hpiece
  exact isFirm_text d

/-- **Parts that are put together to a file** have the declarations of each of them in order. -/
theorem Opens.joinParts {parts : List String} {dss : List (List Opening)}
    (h : List.Forall₂ Opens parts dss) : Opens (joinParts parts) dss.flatten := by
  unfold Opens Shows Swift.joinParts
  rw [String.toList_ofList]
  induction h with
  | nil => exact InOrder.nil _
  | @cons part ds parts dss hpart hparts ih =>
    rw [List.flatten_cons, List.map_append, List.map_append, List.map_cons]
    cases hparts with
    | nil => simpa [unlines, joinWith] using hpart.trimmedPart
    | cons hnext hrest =>
      rw [unlines, joinWith_cons (by simp)]
      exact hpart.trimmedPart.append (ih.prepend ['\n'])

/-! ## §2. Openings in templates. -/

section Templates

variable {scope : Scope} {text : String} {rest : List Node} {ds ds' : List Opening}

/-- A value between the words of a kind is the name of a declaration. -/
theorem opens_cons {s t name : String} {value : Node} (k : Kind) (tail : String)
    (h : fillNodes (.text s :: value :: .text t :: rest) scope = .ok text) (hs : s = k.before)
    (ht : t = k.after ++ tail) (hvalue : fillNode value scope = .ok name)
    (hrest : ∀ u, fillNodes rest scope = .ok u → Opens u ds) : Opens text (⟨k, name⟩ :: ds) :=
  shows_cons "" k.before k.after tail h (by rw [hs, String.empty_append]) ht hvalue hrest

/-- A part that appears under a condition has its declarations under it. -/
theorem opens_when {r : Ref} {v : Json} {body : List Node}
    (h : fillNodes (.when [r] body :: rest) scope = .ok text) (hr : r.find scope = .ok v)
    (hbody : v.isTruthy = true → ∀ t, fillNodes body scope = .ok t → Opens t ds)
    (hrest : ∀ t, fillNodes rest scope = .ok t → Opens t ds') :
    Opens text ((if v.isTruthy then ds else []) ++ ds') := by
  have hshows := shows_when h hr hbody hrest
  unfold Opens
  rwa [List.map_append, apply_ite (List.map Opening.text)]

end Templates

/-! ## §3. The parts of a file. -/

section Parts

variable {basename text : String} {f : FixedNames} {addComments : Bool}

/-- The header declares other names for three types of the bridge. -/
theorem opens_headerText {imports : List Json} (h : headerText basename imports f = .ok text) :
    Opens text [⟨.synonym, f.application⟩, ⟨.synonym, f.object⟩, ⟨.synonym, f.elementArray⟩] := by
  have hfill := (page_eq_ok (t := headerTemplate) rfl rfl).mp h
  refine shows_drop 11 hfill (fun t ht => ?_)
  refine opens_cons .synonym "SBApplication\n" ht rfl (by decide) rfl (fun t ht => ?_)
  refine opens_cons .synonym "SBObject\n" ht rfl (by decide) rfl (fun t ht => ?_)
  exact opens_cons .synonym "SBElementArray\n" ht rfl (by decide) rfl (fun t _ => .nil t)

theorem opens_standardText (h : standardText addComments f = .ok text) :
    Opens text [⟨.enumeration, f.saveOptions⟩, ⟨.root, f.genericMethods⟩] := by
  have hfill := (page_eq_ok (t := standardTemplate) rfl rfl).mp h
  refine shows_drop 4 hfill (fun t ht => ?_)
  refine opens_cons .enumeration "\n" ht rfl (by decide) rfl (fun t ht => ?_)
  refine shows_drop 6 ht (fun t ht => ?_)
  exact opens_cons .root "\n" ht rfl (by decide) rfl (fun t _ => .nil t)

theorem opens_enumeration_text {e : EnumerationDeclaration} (h : e.text addComments = .ok text) :
    Opens text [⟨.enumeration, e.name⟩] := by
  have hfill := (page_eq_ok (t := enumerationTemplate) rfl rfl).mp h
  refine shows_drop 6 hfill (fun t ht => ?_)
  exact opens_cons .enumeration "\n" ht rfl (by decide) rfl (fun t _ => .nil t)

theorem opens_protocol_text {p : ProtocolDeclaration} (h : p.text addComments = .ok text) :
    Opens text [⟨.protocol, p.name⟩] := by
  have hfill := protocol_text_eq_ok.mp h
  refine shows_drop 6 hfill (fun t ht => ?_)
  exact opens_cons .protocol "" ht rfl (by decide) rfl (fun t _ => .nil t)

theorem opens_classNamesText {entries : List ClassNameDeclaration}
    (h : classNamesText addComments f entries = .ok text) :
    Opens text [⟨.group, f.classNames⟩] := by
  have hfill := (page_eq_ok (t := classNamesTemplate) rfl rfl).mp h
  refine shows_drop 4 hfill (fun t ht => ?_)
  exact opens_cons .group "\n" ht rfl (by decide) rfl (fun t _ => .nil t)

/-- In a literal a character gets a backslash in front, or stays as it is. -/
theorem literalChar_cases (c : Char) :
    ((c = '\\' ∨ c = '"') ∧ literalChar c = ['\\', c]) ∨
      (c ≠ '\\' ∧ c ≠ '"' ∧ literalChar c = [c]) := by
  unfold literalChar
  split
  next hbackslash => exact .inl ⟨.inl hbackslash, by rw [hbackslash]⟩
  next hbackslash =>
    split
    next hquote => exact .inl ⟨.inr hquote, by rw [hquote]⟩
    next hquote => exact .inr ⟨hbackslash, hquote, rfl⟩

theorem literalText_eq_empty_iff {s : String} : literalText s = "" ↔ s = "" := by
  have hchar : ∀ c, literalChar c ≠ [] := by
    intro c
    rcases literalChar_cases c with ⟨-, h⟩ | ⟨-, -, h⟩
    · exact h ▸ List.cons_ne_nil _ _
    · exact h ▸ List.cons_ne_nil _ _
  rw [literalText, String.ofList_eq_empty_iff, List.flatMap_eq_nil_iff,
    ← String.toList_eq_nil_iff, List.eq_nil_iff_forall_not_mem]
  exact forall_congr' fun c => imp_congr_right fun _ => iff_of_false (hchar c) id

/-- A literal counts as false where the text that it stands for does. -/
theorem isTruthy_literalValue {v w : Json} (h : literalValue v = .ok w) :
    w.isTruthy = v.isTruthy := by
  cases v with
  | null => rw [← Except.ok.inj h]
  | str s =>
    rw [← Except.ok.inj h]
    simp only [Json.isTruthy]
    congr 1
    rw [Bool.eq_iff_iff, String.isEmpty_iff, String.isEmpty_iff]
    exact literalText_eq_empty_iff
  | broken b => rw [← Except.ok.inj h]; rfl
  | bool _ | int _ | fractional _ | arr _ | obj _ => exact absurd h (by simp [literalValue])

/-- The application has a protocol and, with a bundle identifier, a function that reaches it. -/
theorem opens_applicationText {bundle : Json} {function : String}
    (h : applicationText addComments f bundle function = .ok text) :
    Opens text (⟨.protocol, f.applicationProtocol⟩ ::
      if bundle.isTruthy then [⟨.function, function⟩] else []) := by
  obtain ⟨value, hvalue, h⟩ := bind_eq_ok.mp h
  rw [← isTruthy_literalValue (mapError_eq_ok.mp hvalue)]
  have hfill := (page_eq_ok (t := applicationTemplate) rfl rfl).mp h
  refine shows_drop 3 hfill (fun t ht => ?_)
  refine opens_cons .protocol "SBApplicationProtocol \x7b\n" ht rfl (by decide) rfl (fun t ht => ?_)
  refine shows_drop 3 ht (fun t ht => ?_)
  rw [← List.append_nil (if value.isTruthy = true then _ else _)]
  refine opens_when ht rfl (fun _ t ht => ?_) (fun t _ => .nil t)
  refine shows_drop 4 ht (fun t ht => ?_)
  exact opens_cons .function "" ht rfl (by decide) rfl (fun t _ => .nil t)

/-- The aliases that are made for the types of a file. -/
def aliasesOf (o : Options) (basename : String) (declared : List String) :
    List AliasDeclaration :=
  declareAliases basename [] (aliasTargets (.of basename) o.classNames declared)

/-- The aliases that are grouped under the basename. -/
def groupedAliases (o : Options) (basename : String) (declared : List String) :
    List AliasDeclaration :=
  if o.namespaceAliases then aliasesOf o basename declared else []

/-- The aliases that stand outside of all other declarations. -/
def outerAliases (o : Options) (basename : String) (declared : List String) :
    List AliasDeclaration :=
  if o.flatAliases then
    flatAliases basename (aliasTargets (.of basename) o.classNames declared)
      (aliasesOf o basename declared)
  else []

/-- The values that the text of the aliases is filled from. -/
def aliasesScope (addComments : Bool) (basename : String)
    (grouped outer : List AliasDeclaration) : Scope :=
  [("add_comments", .bool addComments), ("basename", .str basename),
   ("namespace_aliases", .arr (grouped.map AliasDeclaration.values)),
   ("flat_aliases", .arr (outer.map AliasDeclaration.values))]

theorem aliasesText_eq (o : Options) (basename : String) (declared : List String) :
    aliasesText o basename (.of basename) declared
      = page "typealiases.swift.j2" (aliasesScope o.addComments basename
          (groupedAliases o basename declared) (outerAliases o basename declared)) := by
  unfold aliasesText aliasesScope groupedAliases outerAliases
  cases o.namespaceAliases <;> cases o.flatAliases <;> rfl

/-- There always is an alias for the application. -/
theorem aliasesOf_ne_nil (o : Options) (basename : String) (declared : List String) :
    aliasesOf o basename declared ≠ [] := by
  have hrest : withoutBasename basename (FixedNames.of basename).application = "Application" := by
    show String.ofList ((basename ++ "Application").toList.drop basename.length) = "Application"
    rw [String.toList_append, ← String.length_toList, List.drop_left, String.ofList_toList]
  unfold aliasesOf aliasTargets
  simp only [List.cons_append, declareAliases, hrest]
  rw [if_neg (by decide)]
  exact List.cons_ne_nil _ _

/-- A list that makes a part appear is not empty, and an empty one has no openings. -/
theorem ite_isTruthy_map {α β : Type} (as : List α) (value : α → Json) (f : α → β) :
    (if (Json.arr (as.map value)).isTruthy then as.map f else []) = as.map f := by
  cases as <;> rfl

/-- **The aliases** are grouped under the basename, stand outside, or both. -/
theorem opens_aliasesText {o : Options} {declared : List String}
    (h : aliasesText o basename (.of basename) declared = .ok text) :
    Opens text ((if o.namespaceAliases then [⟨.group, basename⟩] else []) ++
      (outerAliases o basename declared).map fun a => ⟨.synonym, a.name⟩) := by
  rw [aliasesText_eq] at h
  have hfill := (page_eq_ok (t := typealiasesTemplate) rfl rfl).mp h
  -- There are aliases to group, so the group is declared where it is asked for.
  have hgroup : (Json.arr ((groupedAliases o basename declared).map
      AliasDeclaration.values)).isTruthy = o.namespaceAliases := by
    unfold groupedAliases
    cases o.namespaceAliases with
    | true => simp [Json.isTruthy, aliasesOf_ne_nil]
    | false => rfl
  rw [← hgroup, ← ite_isTruthy_map (outerAliases o basename declared) AliasDeclaration.values]
  refine opens_when hfill rfl (fun _ t ht => ?_) (fun t ht => ?_)
  · refine shows_drop 4 ht (fun t ht => ?_)
    exact opens_cons .group "\x7d\n" ht rfl (by decide) rfl (fun t _ => .nil t)
  · rw [← List.append_nil (if Json.isTruthy _ then List.map _ _ else [])]
    refine opens_when ht rfl (fun _ t ht => ?_) (fun t _ => .nil t)
    refine shows_drop 3 ht (fun t ht => ?_)
    rw [List.map_map, ← List.append_nil (List.map _ _), List.map_eq_flatMap]
    refine shows_each ht rfl (fun a t ht => ?_) (fun t _ => .nil t)
    show Opens t [⟨.synonym, a.name⟩]
    exact opens_cons .synonym "" ht rfl (by decide) rfl (fun t _ => .nil t)

end Parts

/-! ## §4. A whole file. -/

/-- The declarations at the top level of a file, in order. -/
def openings (o : Options) (names : Names) (basename : String) (es : List EnumerationDeclaration)
    (ps : List ProtocolDeclaration) : List Opening :=
  let f := FixedNames.of basename
  let declared := es.map EnumerationDeclaration.name ++ ps.map ProtocolDeclaration.name
  [⟨.synonym, f.application⟩, ⟨.synonym, f.object⟩, ⟨.synonym, f.elementArray⟩,
   ⟨.enumeration, f.saveOptions⟩, ⟨.root, f.genericMethods⟩]
    ++ es.map (fun e => ⟨.enumeration, e.name⟩)
    ++ ps.map (fun p => ⟨.protocol, p.name⟩)
    ++ (if o.classNames then [⟨.group, f.classNames⟩] else [])
    ++ [⟨.protocol, f.applicationProtocol⟩]
    ++ (if o.bundleIdentifier.isTruthy then [⟨.function, names.applicationFunction⟩] else [])
    ++ (if o.namespaceAliases then [⟨.group, basename⟩] else [])
    ++ (outerAliases o basename declared).map (fun a => ⟨.synonym, a.name⟩)

/-- Texts that each start one declaration. -/
theorem forall₂_opens_singleton {α : Type} {R : α → String → Prop} {opening : α → Opening}
    {as : List α} {texts : List String} (h : List.Forall₂ R as texts)
    (hopens : ∀ a t, R a t → Opens t [opening a]) :
    List.Forall₂ Opens texts (as.map fun a => [opening a]) := by
  induction h with
  | nil => exact .nil
  | cons hat _ ih => exact .cons (hopens _ _ hat) ih

theorem opens_classNamesPart {o : Options} {f : FixedNames} {classes : List Dictionary.Class}
    {texts : List String} (h : classNamesPart o f classes = .ok texts) :
    ∃ dss, List.Forall₂ Opens texts dss ∧
      dss.flatten = if o.classNames then [⟨.group, f.classNames⟩] else [] := by
  rw [classNamesPart_eq] at h
  split at h
  next hasked =>
    obtain ⟨entries, -, h⟩ := bind_eq_ok.mp h
    obtain ⟨text, htext, h⟩ := bind_eq_ok.mp h
    rw [← Except.ok.inj h, if_pos hasked]
    exact ⟨_, .cons (opens_classNamesText htext) .nil, rfl⟩
  next hasked =>
    rw [← Except.ok.inj h, if_neg hasked]
    exact ⟨[], .nil, rfl⟩

theorem opens_aliasesPart {o : Options} {basename : String} {declared texts : List String}
    (h : aliasesPart o basename (.of basename) declared = .ok texts) :
    ∃ dss, List.Forall₂ Opens texts dss ∧
      dss.flatten = (if o.namespaceAliases then [⟨.group, basename⟩] else []) ++
        (outerAliases o basename declared).map fun a => ⟨.synonym, a.name⟩ := by
  unfold aliasesPart at h
  split at h
  next =>
    obtain ⟨text, htext, h⟩ := bind_eq_ok.mp h
    rw [← Except.ok.inj h]
    exact ⟨_, .cons (opens_aliasesText htext) .nil, by simp⟩
  next hasked =>
    rw [Bool.or_eq_true, not_or] at hasked
    rw [← Except.ok.inj h, if_neg hasked.1, outerAliases, if_neg hasked.2]
    exact ⟨[], .nil, rfl⟩

/-- **A file has the declarations of its top level in order.** -/
theorem Contents.opens {o : Options} {names : Names} {basename : String} {p : Plan}
    {es : List EnumerationDeclaration} {ps : List ProtocolDeclaration} {w : Parts}
    (h : Contents o names basename p es ps w) :
    Opens (joinParts w.all) (openings o names basename es ps) := by
  have hheader : List.Forall₂ Opens [w.header, w.standard] _ :=
    .cons (opens_headerText h.header) (.cons (opens_standardText h.standard) .nil)
  have henumerations := forall₂_opens_singleton h.enumerationTexts
    (fun _ _ ht => opens_enumeration_text ht)
  have hprotocols := forall₂_opens_singleton h.protocolTexts
    (fun _ _ ht => opens_protocol_text ht)
  -- Typed accessors extend protocols, and bindings extend types: they declare no names.
  have htyped : List.Forall₂ Opens w.typed (w.typed.map fun _ => []) := by
    rw [List.forall₂_map_right_iff, List.forall₂_same]
    exact fun t _ => .nil t
  obtain ⟨classNames, hclassNames, hgroup⟩ := opens_classNamesPart h.classNames
  have happlication : List.Forall₂ Opens [w.application, w.bindings] _ :=
    .cons (opens_applicationText h.application) (.cons (.nil w.bindings) .nil)
  obtain ⟨aliases, haliases, houter⟩ := opens_aliasesPart h.aliases
  have hall := Opens.joinParts (List.rel_append (List.rel_append (List.rel_append (List.rel_append
    (List.rel_append (List.rel_append hheader henumerations) hprotocols) htyped) hclassNames)
    happlication) haliases)
  have hnone : (w.typed.map fun _ => ([] : List Opening)).flatten = [] := by simp
  simp only [List.flatten_append, hnone, hgroup, houter, ← List.flatMap_def,
    ← List.map_eq_flatMap] at hall
  unfold Parts.all openings
  simpa using hall

end ScriptingBindings.Swift
