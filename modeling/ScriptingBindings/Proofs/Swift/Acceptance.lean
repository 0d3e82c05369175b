/-
  ScriptingBindings.Proofs.Swift.Acceptance
  ──────────────────────────────────
  **WHAT AN ACCEPTED CONFIGURATION LEADS TO.**

  A configuration is accepted if nothing is to be warned of.  Its basename and
  the identifier of the application are then spelled as they should be, except
  that one line feed may end each of them:

      isBasename s  ↔  IsBasenameText (withoutEnd s)

  Without this line feed all types of a file are named by the basename with an
  identifier behind it, and the identifier of the application stands in a
  literal of one line.
-/
import ScriptingBindings.Proofs.Command.Configuration
import ScriptingBindings.Proofs.Identifier.Legality
import ScriptingBindings.Proofs.Swift.Aliases

namespace ScriptingBindings

open Text

/-! ## §1. Spellings. -/

namespace Config

/-- A text starts with a character of one kind and goes on with characters of another. -/
def IsSpelled (first rest : Char → Prop) (s : List Char) : Prop :=
  ∃ c cs, s = c :: cs ∧ first c ∧ ∀ d ∈ cs, rest d

/-- A letter of ASCII or an underscore, and then letters, digits and underscores. -/
def IsBasenameText (s : List Char) : Prop :=
  IsSpelled (fun c => c.isAlpha = true ∨ c = '_') (fun c => c.isAlphanum = true ∨ c = '_') s

/-- A letter or digit of ASCII, and then letters, digits, dots and hyphens. -/
def IsBundleText (s : List Char) : Prop :=
  IsSpelled (fun c => c.isAlphanum = true)
    (fun c => c.isAlphanum = true ∨ c = '.' ∨ c = '-') s

section Shapes

variable {first rest : Char → Bool} {P Q : Char → Prop}

theorem isShaped_cons (c : Char) (cs : List Char) :
    isShaped first rest (c :: cs) = true ↔
      first c = true ∧ (cs.dropWhile rest = [] ∨ cs.dropWhile rest = ['\n']) := by
  rw [isShaped, Bool.and_eq_true]
  refine and_congr_right fun _ => ?_
  split
  next hnil => exact iff_of_true rfl (.inl hnil)
  next hone => exact iff_of_true rfl (.inr hone)
  next hnil hone =>
    refine iff_of_false Bool.false_ne_true ?_
    rintro (h | h)
    · exact hnil h
    · exact hone h

/-- **A text has a shape** exactly if it is spelled so up to its end. -/
theorem isShaped_iff (hfirst : ∀ c, first c = true ↔ P c) (hrest : ∀ c, rest c = true ↔ Q c)
    (hp : ¬ P '\n') (hq : ¬ Q '\n') (s : List Char) :
    isShaped first rest s = true ↔ IsSpelled P Q (withoutEnd s) := by
  have hfeed : rest '\n' = false := by
    rw [Bool.eq_false_iff]
    exact mt (hrest '\n').mp hq
  cases s with
  | nil =>
    refine iff_of_false Bool.false_ne_true ?_
    rintro ⟨c, cs, hnil, -⟩
    exact absurd hnil (List.cons_ne_nil c cs).symm
  | cons c cs =>
    rw [isShaped_cons, dropWhile_isEnd_iff hfeed, hfirst]
    simp only [hrest]
    by_cases hc : c = '\n'
    · -- A text that starts with a line feed is of no shape, be it the end or not.
      subst hc
      refine iff_of_false (fun h => hp h.1) ?_
      rintro ⟨d, ds, hs, hd, -⟩
      rcases withoutEnd_cases ('\n' :: cs) with h | h
      · rw [hs] at h
        exact hp ((List.cons.inj h).1 ▸ hd)
      · rw [hs, List.cons_append] at h
        exact hp ((List.cons.inj h).1.symm ▸ hd)
    · rw [withoutEnd_cons hc]
      constructor
      · exact fun h => ⟨c, withoutEnd cs, rfl, h⟩
      · rintro ⟨d, ds, hs, h⟩
        obtain ⟨rfl, rfl⟩ := List.cons.inj hs
        exact h

/-- **Basenames** are spelled like identifiers of ASCII, up to their end. -/
theorem isBasename_iff (s : String) :
    isBasename s = true ↔ IsBasenameText (withoutEnd s.toList) := by
  refine isShaped_iff (fun c => ?_) (fun c => ?_) (by decide) (by decide) s.toList
  · rw [Bool.or_eq_true, beq_iff_eq]
  · rw [Bool.or_eq_true, beq_iff_eq]

/-- **Identifiers of applications** are spelled like domain names, up to their end. -/
theorem isBundleIdentifier_iff (s : String) :
    isBundleIdentifier s = true ↔ IsBundleText (withoutEnd s.toList) := by
  refine isShaped_iff (fun _ => Iff.rfl) (fun c => ?_) (by decide) (by decide) s.toList
  rw [Bool.or_eq_true, Bool.or_eq_true, beq_iff_eq, beq_iff_eq, or_assoc]

end Shapes

/-! ## §2. Accepted configurations. -/

/-- What a configuration has to look like: its texts are spelled as they should be, up to their
ends, a level is at least one space wide, and the overrides of types, if any, are a map. -/
structure IsAcceptable (c : Config) : Prop where
  basename : c.basename.IsOptional fun v =>
    ∃ s, v = .str s ∧ IsBasenameText (withoutEnd s.toList)
  bundle : c.bundleIdentifier.IsOptional fun v =>
    ∃ s, v = .str s ∧ IsBundleText (withoutEnd s.toList)
  indent : ∀ n, c.indentSize = .int n → 1 ≤ n
  overrides : ∃ fields, c.custom = .obj fields ∧
    ∀ v, OrderedMap.get? fields "type_overrides" = some v → ∃ types, v = .obj types

theorem textWarning_eq_nil_iff {v : Json} {test : String → Bool} {warning : String → String} :
    textWarning test warning v = .ok [] ↔
      v.IsOptional fun v => ∃ s, v = .str s ∧ test s = true := by
  unfold Json.IsOptional
  cases v with
  | null => exact iff_of_true rfl (.inl rfl)
  | str s =>
    simp only [textWarning, Except.ok.injEq, reduceCtorEq, false_or, Json.str.injEq,
      exists_eq_left']
    split
    next hpass => exact iff_of_true rfl hpass
    next hfail => exact iff_of_false (List.cons_ne_nil _ _) hfail
  | broken b | bool _ | int _ | fractional _ | arr _ | obj _ => simp [textWarning]

theorem indentWarning_eq_nil_iff (n : Int) : indentWarning (.int n) = .ok [] ↔ 1 ≤ n := by
  show Except.ok (if decide (n < 1) = true then _ else []) = _ ↔ _
  by_cases hlow : n < 1
  · rw [if_pos (decide_eq_true hlow), Except.ok.injEq]
    exact iff_of_false (List.cons_ne_nil _ _) (by omega)
  · rw [if_neg (mt of_decide_eq_true hlow)]
    exact iff_of_true rfl (by omega)

theorem overridesWarning_eq_nil_iff {v : Json} :
    overridesWarning v = .ok [] ↔ ∃ fields, v = .obj fields ∧
      ∀ w, OrderedMap.get? fields "type_overrides" = some w → ∃ types, w = .obj types := by
  unfold overridesWarning
  split
  next fields =>
    simp only [Json.obj.injEq, exists_eq_left']
    cases hget : OrderedMap.get? fields "type_overrides" with
    | none => exact iff_of_true rfl fun w hw => absurd hw (by simp)
    | some w =>
      simp only [Option.some.injEq, forall_eq']
      cases w with
      | obj types => exact iff_of_true rfl ⟨types, rfl⟩
      | null | bool _ | int _ | fractional _ | str _ | broken _ | arr _ => simp
  next hother =>
    refine iff_of_false (by simp) ?_
    rintro ⟨fields, hfields, -⟩
    exact hother fields hfields

/-- There is nothing to be warned of exactly if no check warns. -/
theorem warnings_eq_nil_iff_checks {c : Config} :
    c.warnings = .ok [] ↔ basenameWarning c.basename = .ok [] ∧ indentWarning c.indentSize = .ok [] ∧
      bundleWarning c.bundleIdentifier = .ok [] ∧ overridesWarning c.custom = .ok [] := by
  unfold warnings
  simp only [if_pos, bind_eq_ok, pure_eq_ok, Except.ok.injEq, List.append_eq_nil_iff]
  constructor
  · rintro ⟨_, hbasename, _, hindent, _, hbundle, _, hoverrides, ⟨⟨rfl, rfl⟩, rfl⟩, rfl⟩
    exact ⟨hbasename, hindent, hbundle, hoverrides⟩
  · rintro ⟨hbasename, hindent, hbundle, hoverrides⟩
    exact ⟨[], hbasename, [], hindent, [], hbundle, [], hoverrides, ⟨⟨rfl, rfl⟩, rfl⟩, rfl⟩

/-- **Which configurations are accepted.** -/
theorem warnings_eq_nil_iff {c : Config} (hindent : ∃ n, c.indentSize = .int n) :
    c.warnings = .ok [] ↔ IsAcceptable c := by
  obtain ⟨n, hn⟩ := hindent
  rw [warnings_eq_nil_iff_checks, basenameWarning, bundleWarning, textWarning_eq_nil_iff,
    textWarning_eq_nil_iff, hn, indentWarning_eq_nil_iff, overridesWarning_eq_nil_iff]
  simp only [isBasename_iff, isBundleIdentifier_iff]
  constructor
  · rintro ⟨hb, hi, hid, ho⟩
    refine ⟨hb, hid, fun m hm => ?_, ho⟩
    rw [hn, Json.int.injEq] at hm
    exact hm ▸ hi
  · rintro ⟨hb, hid, hi, ho⟩
    exact ⟨hb, hi n hn, hid, ho⟩

end Config

namespace Swift

open Config Dictionary Identifier Template

/-! ## §3. The names of types. -/

/-- A name is the basename with an identifier behind it. -/
def IsNamed (basename made : String) : Prop :=
  ∃ rest, made = basename ++ rest ∧ IsIdentifier rest.toList

section Names

variable {basename made name : String} {n : Names}

theorem isIdentifier_identifier {style : Style} {name made : String}
    (h : identifier style name = .ok made) : IsIdentifier made.toList := by
  by_cases hunusable : IsUnusable style name
  · rw [identifier_of_isUnusable hunusable] at h
    exact absurd h (by simp)
  · rw [identifier_of_not_isUnusable hunusable] at h
    rw [← Except.ok.inj h]
    exact (isIdentifier_converted_iff style name).mpr hunusable

theorem IsNamed.append (h : IsNamed basename made) {suffix : String}
    (hsuffix : suffix.toList.all isWordChar = true) : IsNamed basename (made ++ suffix) := by
  obtain ⟨rest, rfl, hne, hall, hfirst⟩ := h
  refine ⟨rest ++ suffix, String.append_assoc, ?_⟩
  rw [String.toList_append]
  refine ⟨fun hnil => hne (List.append_eq_nil_iff.mp hnil).1, ?_, ?_⟩
  · intro c hc
    rcases List.mem_append.mp hc with hmem | hmem
    · exact hall c hmem
    · exact List.all_eq_true.mp hsuffix c hmem
  · obtain ⟨c, cs, hcs⟩ := List.exists_cons_of_ne_nil hne
    rw [hcs] at hfirst ⊢
    exact hfirst

/-- With a basename of one line the whole name is of one line. -/
theorem IsNamed.isOneLine (h : IsNamed basename made) (hbasename : IsOneLine basename) :
    IsOneLine made := by
  obtain ⟨rest, rfl, -, hall, -⟩ := h
  refine hbasename.append fun hmem => ?_
  exact absurd (hall '\n' hmem) (by decide +kernel)

/-- A name for a definition is the basename with an identifier behind it. -/
theorem isNamed_of_forms (h : n.Forms made) : IsNamed n.basename made := by
  have hsuffixes : ∀ suffix ∈ nameSuffixes, suffix.toList.all isWordChar = true := by
    decide +kernel
  obtain ⟨hidentifier, hsuffix⟩ := h
  have hplain : IsNamed n.basename (n.basename ++ _) :=
    ⟨_, rfl, isIdentifier_identifier hidentifier⟩
  exact hplain.append (hsuffixes _ hsuffix)

theorem isNamed_of_mem_all (h : made ∈ (FixedNames.of basename).all) :
    IsNamed basename made := by
  rw [all_fixedNames] at h
  obtain ⟨rest, hrest, rfl⟩ := List.mem_map.mp h
  have hword : ∀ rest ∈ fixedSuffixes, rest.toList ≠ [] ∧ rest.toList.all isWordChar = true ∧
      rest.toList.head?.any isDecimal = false := by
    decide +kernel
  obtain ⟨hne, hall, hfirst⟩ := hword rest hrest
  refine ⟨rest, rfl, hne, List.all_eq_true.mp hall, fun c hc => ?_⟩
  rwa [Option.mem_def.mp hc, Option.any_some] at hfirst

end Names

section Files

variable {o : Options} {names : Names} {basename : String} {d : Dictionary} {p : Plan}
  {es : List EnumerationDeclaration} {ps : List ProtocolDeclaration} {w : Parts}

/-- The declared enumerations and protocols are named so. -/
theorem Contents.isNamed_of_mem (hplan : (plan d basename).value = (names, .ok p))
    (h : Contents o names basename p es ps w) : ∀ n ∈ declaredNames es ps, IsNamed basename n :=
  fun n hn => (plan_eq_ok hplan).1.base ▸ isNamed_of_forms (h.forms_of_mem n hn)

/-- **All types of a file are named by the basename and an identifier.** -/
theorem Contents.isNamed_prefixedTypes (hplan : (plan d basename).value = (names, .ok p))
    (h : Contents o names basename p es ps w) :
    ∀ q ∈ prefixedTypes o basename es ps, IsNamed basename q.name := by
  intro q hq
  have htarget := mem_aliasTargets_iff.mpr (List.mem_map_of_mem (f := Opening.name) hq)
  rw [aliasTargets_eq] at htarget
  rcases List.mem_append.mp htarget with hfixed | hdeclared
  · exact isNamed_of_mem_all (mem_all_of_mem_targetSuffixes hfixed)
  · exact h.isNamed_of_mem hplan q.name hdeclared

end Files

/-! ## §4. The literal of the application. -/

/-- The line that reaches for an application. -/
def accessLine (literal : String) : String :=
  "    SBApplication(bundleIdentifier: \"" ++ literal ++ "\")"

/-- The lines above and below it. -/
def accessNote (literal : String) : String :=
  "/// Scripting interface of the application with bundle identifier " ++ literal

/-- The line that opens the function. -/
def functionLine (f : FixedNames) (function : String) : String :=
  "public func " ++ function ++ "() -> " ++ f.applicationProtocol ++ "? \x7b"

/-- The lines of the protocol of the application. -/
def applicationProtocolLines (f : FixedNames) : List (List Char) :=
  titleLines "Application Protocol"
    ++ (linesOf ("@objc public protocol " ++ f.applicationProtocol ++ ": SBApplicationProtocol \x7b")
      ++ ["    @objc optional func documents() -> SBElementArray".toList,
          "    @objc optional func windows() -> SBElementArray".toList, closingLine])

/-- The lines of the function that reaches the application. -/
def accessLines (addComments : Bool) (f : FixedNames) (literal function : String) :
    List (List Char) :=
  titleLines "Application Access" ++ (noteLines addComments (accessNote literal)
    ++ (linesOf (functionLine f function) ++ (linesOf (accessLine literal) ++ [closingLine])))

section Texts

variable {scope : Scope}

theorem fillNodes_applicationTitle :
    fillNodes [line "", line "// MARK: - Application Protocol", line ""] scope
      = .ok (ofLines (titleLines "Application Protocol")) := by
  rw [ofLines_titleLines]
  rfl

theorem fillNodes_accessTitle :
    fillNodes [line "", line "// MARK: - Application Access", line ""] scope
      = .ok (ofLines (titleLines "Application Access")) := by
  rw [ofLines_titleLines]
  rfl

/-- A block whose condition holds. -/
theorem fillNode_when_of {r : Ref} {v : Json} {body : List Node} {ls : List (List Char)}
    (hr : r.find scope = .ok v) (hv : v.isTruthy = true)
    (hbody : fillNodes body scope = .ok (ofLines ls)) :
    fillNode (.when [r] body) scope = .ok (ofLines ls) := by
  rw [fillNode]
  simp only [allHold, hr, ok_bind, pure_eq_ok, hv, if_true]
  exact hbody

/-- What stands in the template of the application before its condition. -/
theorem fillNodes_applicationProtocol {f : FixedNames}
    (hprotocol : Ref.find scope ⟨"application_protocol", none⟩ = .ok (.str f.applicationProtocol)) :
    fillNodes (applicationTemplate.take 9) scope
      = .ok (ofLines (applicationProtocolLines f)) := by
  have hhead := fillNodes_slotLine "@objc public protocol " ": SBApplicationProtocol \x7b" hprotocol
  exact fillNodes_append_of fillNodes_applicationTitle (fillNodes_append_of hhead rfl)

theorem fillNodes_functionLine {f : FixedNames} {function : String}
    (hfunction : Ref.find scope ⟨"application_function", none⟩ = .ok (.str function))
    (hprotocol : Ref.find scope ⟨"application_protocol", none⟩ = .ok (.str f.applicationProtocol)) :
    fillNodes
      [.text "public func ", slot "application_function", .text "() -> ",
       slot "application_protocol", line "? \x7b"] scope
      = .ok (ofLines (linesOf (functionLine f function))) := by
  unfold functionLine
  rw [← append_lineFeed]
  simp only [fillNodes_cons_cons, fillNodes_singleton, fillNode, line, slot, hfunction, hprotocol,
    filtered_nil, ok_bind, pure_eq_ok, Json.display_str, String.append_assoc]

end Texts

/-- **The text of the application, line by line**, if there is an identifier for it. -/
theorem applicationText_eq (addComments : Bool) (f : FixedNames) {s : String}
    (hs : literalText s ≠ "") (function : String) :
    applicationText addComments f (.str s) function
      = .ok (ofLines (applicationProtocolLines f
          ++ accessLines addComments f (literalText s) function)) := by
  have htruthy : (Json.str (literalText s)).isTruthy = true := isTruthy_str hs
  show page "application.swift.j2" _ = _
  refine (page_eq_ok (t := applicationTemplate) rfl rfl).mpr ?_
  refine fillNodes_append_of (fillNodes_applicationProtocol rfl) ?_
  refine (fillNodes_singleton _).trans (fillNode_when_of rfl htruthy ?_)
  refine fillNodes_append_of fillNodes_accessTitle ?_
  refine fillNodes_cons_of (fillNode_remark rfl rfl) ?_
  refine fillNodes_append_of (fillNodes_functionLine rfl rfl) ?_
  exact fillNodes_append_of (fillNodes_slotLine _ _ rfl) rfl

/-- Inside a literal an identifier of an application stands as it is. -/
theorem literalText_of_isBundleText {s : String} (h : IsBundleText s.toList) :
    literalText s = s := by
  obtain ⟨c, cs, hs, hc, hcs⟩ := h
  have hplain : ∀ d ∈ s.toList, d.isAlphanum = true ∨ d = '.' ∨ d = '-' := by
    rw [hs]
    exact List.forall_mem_cons.mpr ⟨.inl hc, hcs⟩
  have hchar : ∀ d ∈ s.toList, literalChar d = [d] := by
    intro d hd
    have hbackslash : d ≠ '\\' := by
      rintro rfl
      exact absurd (hplain _ hd) (by decide)
    have hquote : d ≠ '"' := by
      rintro rfl
      exact absurd (hplain _ hd) (by decide)
    exact (literalChar_cases d).elim (fun h => absurd h.1 (not_or.mpr ⟨hbackslash, hquote⟩))
      fun h => h.2.2
  rw [literalText, List.flatMap_congr hchar, List.flatMap_singleton', String.ofList_toList]

/-! ## §5. What is generated. -/

/-- What a file declares for an accepted configuration: types that are named by the basename with
an identifier behind it, and beside them only the function that reaches the application, the group
of aliases and aliases that leave the basename out.  The identifier of the application stands in
a literal of one line. -/
structure IsSafe (c : Config) (o : Options) (names : Names) (basename : String)
    (es : List EnumerationDeclaration) (ps : List ProtocolDeclaration) (w : Parts) : Prop where
  types : c.basename = .str basename → IsOneLine basename → IsBasenameText basename.toList ∧
    ∀ q ∈ prefixedTypes o basename es ps, IsNamed basename q.name ∧ IsOneLine q.name
  others : ∀ q ∈ openings o names basename es ps, q ∈ prefixedTypes o basename es ps ∨
    q = ⟨.function, names.applicationFunction⟩ ∨ q = ⟨.group, basename⟩ ∨
      q.kind = .synonym ∧ ∃ t ∈ prefixedTypes o basename es ps, t.name = basename ++ q.name
  literal : ∀ s, c.bundleIdentifier = .str s → IsOneLine s → IsBundleText s.toList ∧
    ∃ before after, w.application = ofLines (before ++ (accessLine s).toList :: after)

section Files

variable {c : Config} {o : Options} {names : Names} {basename : String} {d : Dictionary} {p : Plan}
  {es : List EnumerationDeclaration} {ps : List ProtocolDeclaration} {w : Parts}

/-- Aliases outside of the group stand for types of the file. -/
theorem exists_type_of_mem_outerAliases
    (h : AreTypeNames basename (es.map EnumerationDeclaration.name)
      (ps.map ProtocolDeclaration.name)) {a : AliasDeclaration}
    (ha : a ∈ outerAliases o basename (declaredNames es ps)) :
    ∃ t ∈ prefixedTypes o basename es ps, t.name = basename ++ a.name := by
  have hcover := coverTypes_aliasesOf (o := o) h
  unfold outerAliases at ha
  split at ha
  next =>
    obtain ⟨htarget, t, ht, hname⟩ := hcover.target a (List.mem_of_mem_filter ha)
    exact ⟨t, ht, hname.trans htarget⟩
  next => exact absurd ha List.not_mem_nil

/-- What a file declares beside its types. -/
theorem mem_openings_cases (h : AreTypeNames basename (es.map EnumerationDeclaration.name)
      (ps.map ProtocolDeclaration.name)) {q : Opening}
    (hq : q ∈ openings o names basename es ps) :
    q ∈ prefixedTypes o basename es ps ∨ q = ⟨.function, names.applicationFunction⟩ ∨
      q = ⟨.group, basename⟩ ∨
      q.kind = .synonym ∧ ∃ t ∈ prefixedTypes o basename es ps, t.name = basename ++ q.name := by
  have hsplit : openings o names basename es ps = prefixedTypes o basename es ps
      ++ (if o.bundleIdentifier.isTruthy then [⟨.function, names.applicationFunction⟩] else [])
      ++ (if o.namespaceAliases then [⟨.group, basename⟩] else [])
      ++ (outerAliases o basename (declaredNames es ps)).map fun a => ⟨.synonym, a.name⟩ := rfl
  rw [hsplit] at hq
  rcases List.mem_append.mp hq with hq | hq
  · rcases List.mem_append.mp hq with hq | hq
    · rcases List.mem_append.mp hq with hq | hq
      · exact .inl hq
      · split at hq
        next => exact .inr (.inl (List.mem_singleton.mp hq))
        next => exact absurd hq List.not_mem_nil
    · split at hq
      next => exact .inr (.inr (.inl (List.mem_singleton.mp hq)))
      next => exact absurd hq List.not_mem_nil
  · obtain ⟨a, ha, rfl⟩ := List.mem_map.mp hq
    exact .inr (.inr (.inr ⟨rfl, exists_type_of_mem_outerAliases h ha⟩))

theorem bundleIdentifier_of_ofConfig (h : Options.ofConfig c = .ok o) :
    o.bundleIdentifier = c.bundleIdentifier := by
  obtain ⟨custom, -, h⟩ := bind_eq_ok.mp h
  obtain ⟨imports, -, h⟩ := bind_eq_ok.mp h
  obtain ⟨overrides, -, h⟩ := bind_eq_ok.mp h
  rw [← Except.ok.inj h]

/-- A spelled text of one line is spelled as a whole. -/
theorem withoutEnd_of_isOneLine {s : String} (h : IsOneLine s) :
    withoutEnd s.toList = s.toList :=
  withoutEnd_of_not_mem h

/-- **The application of an accepted configuration** is reached by a literal of one line. -/
theorem Contents.exists_accessLine (h : Contents o names basename p es ps w) {s : String}
    (hbundle : o.bundleIdentifier = .str s) (hs : IsOneLine s) (htext : IsBundleText s.toList) :
    ∃ before after, w.application = ofLines (before ++ (accessLine s).toList :: after) := by
  have hliteral := literalText_of_isBundleText htext
  have hne : literalText s ≠ "" := by
    rw [hliteral]
    rintro rfl
    obtain ⟨c, cs, hnil, -⟩ := htext
    exact absurd hnil (List.cons_ne_nil c cs).symm
  have hline : linesOf (accessLine s) = [(accessLine s).toList] :=
    linesOf_of_isOneLine ((IsOneLine.append (by decide) hs).append (by decide))
  have happlication := h.application
  rw [hbundle, applicationText_eq o.addComments _ hne, hliteral, Except.ok.injEq, accessLines,
    hline, List.singleton_append] at happlication
  simp only [← List.append_assoc] at happlication
  exact ⟨_, _, happlication.symm⟩

/-- An acceptable configuration leads to a safe file. -/
theorem Contents.isSafe (hc : IsAcceptable c) (ho : Options.ofConfig c = .ok o)
    (hplan : (plan d basename).value = (names, .ok p)) (h : Contents o names basename p es ps w) :
    IsSafe c o names basename es ps w where
  types := by
    intro hbasename hline
    refine ⟨withoutEnd_of_isOneLine hline ▸ hc.basename.of_str hbasename, fun q hq => ?_⟩
    have hnamed := h.isNamed_prefixedTypes hplan q hq
    exact ⟨hnamed, hnamed.isOneLine hline⟩
  others := fun q hq => mem_openings_cases (h.areTypeNames hplan) hq
  literal := by
    intro s hs hline
    have htext : IsBundleText s.toList := withoutEnd_of_isOneLine hline ▸ hc.bundle.of_str hs
    exact ⟨htext, h.exists_accessLine ((bundleIdentifier_of_ofConfig ho).trans hs) hline htext⟩

end Files

/-- **Accepted configurations.**  There is nothing to be warned of exactly if the basename and the
identifier of the application are spelled as they should be, up to one line feed at the end, a
level is at least one space wide and the overrides are a map.  Without these line feeds the types
of a file are named by the basename with an identifier behind it, each name in one line, and the
identifier of the application stands in a literal of one line. -/
theorem accepted_isSafe (c : Config) (hindent : ∃ n, c.indentSize = .int n) :
    (c.warnings = .ok [] ↔ IsAcceptable c) ∧
      (c.warnings = .ok [] → ∀ o d basename names text, Options.ofConfig c = .ok o →
        (generate o d basename).value = (names, .ok text) →
          ∃ p es ps w, (plan d basename).value = (names, .ok p) ∧
            Contents o names basename p es ps w ∧ text = joinParts w.all ∧
            Opens text (openings o names basename es ps) ∧ IsSafe c o names basename es ps w) := by
  have hiff := warnings_eq_nil_iff hindent
  refine ⟨hiff, fun hwarnings o d basename names text ho hgenerated => ?_⟩
  obtain ⟨p, es, ps, w, hplan, hw, rfl⟩ := contents_of_generate hgenerated
  exact ⟨p, es, ps, w, hplan, hw, rfl, hw.opens, hw.isSafe (hiff.mp hwarnings) ho hplan⟩

/-- A configuration with a basename and an identifier for the application. -/
def namedConfig (basename bundle : String) : Config :=
  { basename := .str basename, bundleIdentifier := .str bundle }

/-- The options of such a configuration. -/
def namedOptions (bundle : String) : Options :=
  { bundleIdentifier := .str bundle }

theorem ofConfig_namedConfig (basename bundle : String) :
    Options.ofConfig (namedConfig basename bundle) = .ok (namedOptions bundle) := rfl

theorem accepted_isSafe_music :
    (namedConfig "Music" "com.apple.Music").warnings = .ok [] ∧
      ∃ names text,
        (generate (namedOptions "com.apple.Music") playerDictionary "Music").value
          = (names, .ok text) ∧
        ∃ p es ps w, (plan playerDictionary "Music").value = (names, .ok p) ∧
          Contents (namedOptions "com.apple.Music") names "Music" p es ps w ∧
          text = joinParts w.all ∧
          Opens text (openings (namedOptions "com.apple.Music") names "Music" es ps) ∧
          IsSafe (namedConfig "Music" "com.apple.Music") (namedOptions "com.apple.Music") names
            "Music" es ps w := by
  have haccepted : (namedConfig "Music" "com.apple.Music").warnings = .ok [] := by decide +kernel
  obtain ⟨names, text, h⟩ := exists_text_of_isSome
    (r := (generate (namedOptions "com.apple.Music") playerDictionary "Music").value)
    (by decide +kernel)
  exact ⟨haccepted, names, text, h,
    (accepted_isSafe (namedConfig "Music" "com.apple.Music") ⟨4, rfl⟩).2
      haccepted _ _ _ names text (ofConfig_namedConfig "Music" "com.apple.Music") h⟩

/-- **A line feed at the end is accepted**, in a basename and in the identifier of the application,
and the names of types then are of two lines. -/
theorem line_feeds_accepted :
    (namedConfig "Music\n" "com.apple.Music\n").warnings = .ok [] ∧
      ¬ IsBasenameText "Music\n".toList ∧ ¬ IsBundleText "com.apple.Music\n".toList ∧
      ∃ names text,
        (generate (namedOptions "com.apple.Music\n") playerDictionary "Music\n").value
          = (names, .ok text) ∧
        ∃ p es ps w, (plan playerDictionary "Music\n").value = (names, .ok p) ∧
          Contents (namedOptions "com.apple.Music\n") names "Music\n" p es ps w ∧
          text = joinParts w.all ∧
          ∀ q ∈ prefixedTypes (namedOptions "com.apple.Music\n") "Music\n" es ps,
            ¬ IsOneLine q.name := by
  -- No kind of character allows a line feed, and a spelled text has only such characters.
  have hspelled : ∀ P Q : Char → Prop, ¬ P '\n' → ¬ Q '\n' → ∀ s, '\n' ∈ s →
      ¬ IsSpelled P Q s := by
    rintro P Q hp hq s hmem ⟨c, cs, rfl, hc, hcs⟩
    rcases List.mem_cons.mp hmem with rfl | hmem
    · exact hp hc
    · exact hq (hcs _ hmem)
  obtain ⟨names, text, h⟩ := exists_text_of_isSome
    (r := (generate (namedOptions "com.apple.Music\n") playerDictionary "Music\n").value)
    (by decide +kernel)
  obtain ⟨p, es, ps, w, hplan, hw, htext⟩ := contents_of_generate h
  refine ⟨by decide +kernel, hspelled _ _ (by decide) (by decide) _ (by decide),
    hspelled _ _ (by decide) (by decide) _ (by decide), names, text, h, p, es, ps, w, hplan, hw,
    htext, fun q hq hline => ?_⟩
  obtain ⟨rest, hname, -⟩ := hw.isNamed_prefixedTypes hplan q hq
  rw [hname, IsOneLine, String.toList_append, List.mem_append] at hline
  exact hline (.inl (by decide))

end Swift

end ScriptingBindings
