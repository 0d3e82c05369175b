/-
  ScriptingBindings.Proofs.Swift.Aliases
  ──────────────────────────────────
  **SHORT NAMES FOR TYPES.**

  A file can end with aliases for its types that leave the basename out.  They
  are grouped under the basename, or stand at the top level, or both:

      public extension Music {
          typealias Track = MusicTrack
      }

      public typealias Track = MusicTrack

  The grouped ones cover the types of a file one to one: no two of them have
  the same name, and every type has exactly one unless what is left of its name
  is a reserved word.
-/
import ScriptingBindings.Proofs.Swift.Bindings
import ScriptingBindings.Proofs.Swift.TypedAccessors

namespace ScriptingBindings.Swift

open Dictionary Template Text

/-! ## §1. The lines of aliases. -/

/-- The line of an alias in the group. -/
def AliasDeclaration.groupedLine (a : AliasDeclaration) : String :=
  "    typealias " ++ a.name ++ " = " ++ a.target

/-- The line of an alias at the top level. -/
def AliasDeclaration.outerLine (a : AliasDeclaration) : String :=
  "public typealias " ++ a.name ++ " = " ++ a.target

/-- The line that declares the group. -/
def groupLine (basename : String) : String := "public enum " ++ basename ++ " \x7b\x7d"

/-- The line that opens the extension of the group. -/
def extensionLine (basename : String) : String := "public extension " ++ basename ++ " \x7b"

/-- The title above the grouped aliases. -/
def groupTitle : String := "Namespaced Type Aliases"

/-- The title above the aliases at the top level. -/
def outerTitle : String := "Flat Type Aliases (for use as a separate module)"

/-- What is remarked about the group. -/
def groupNote (basename : String) : String :=
  "/// Generated types without their prefix, as " ++ basename ++ ".<Name>"

/-- The lines of grouped aliases, if there are any. -/
def groupedLines (addComments : Bool) (basename : String) (as : List AliasDeclaration) :
    List (List Char) :=
  if as.isEmpty then []
  else titleLines groupTitle ++ (noteLines addComments (groupNote basename)
    ++ (linesOf (groupLine basename) ++ ([[]] ++ (linesOf (extensionLine basename)
      ++ (as.flatMap (fun a => linesOf a.groupedLine) ++ [closingLine])))))

/-- The lines of aliases at the top level, if there are any. -/
def outerLines (as : List AliasDeclaration) : List (List Char) :=
  if as.isEmpty then []
  else titleLines outerTitle ++ as.flatMap (fun a => linesOf a.outerLine)

section Texts

variable {scope : Scope}

/-- A block that appears with the items of a list. -/
theorem fillNode_when_map {α : Type} {r : Ref} {body : List Node} {l : List α} {value : α → Json}
    {ls : List (List Char)} (hr : r.find scope = .ok (.arr (l.map value)))
    (hbody : fillNodes body scope = .ok (ofLines ls)) :
    fillNode (.when [r] body) scope = .ok (ofLines (if l.isEmpty then [] else ls)) := by
  rw [fillNode]
  simp only [allHold, hr, ok_bind, pure_eq_ok]
  cases l with
  | nil => rfl
  | cons a l => exact hbody

/-- A line of an alias. -/
theorem fillNodes_aliasLine (before : String) (a : AliasDeclaration) :
    fillNodes [.text before, part "alias" "name", .text " = ", part "alias" "target", line ""]
        (("alias", a.values) :: scope)
      = .ok (ofLines (linesOf (before ++ a.name ++ " = " ++ a.target))) := by
  have hname : Ref.find (("alias", a.values) :: scope) ⟨"alias", some "name"⟩
      = .ok (.str a.name) := rfl
  have htarget : Ref.find (("alias", a.values) :: scope) ⟨"alias", some "target"⟩
      = .ok (.str a.target) := rfl
  rw [← append_lineFeed]
  simp only [fillNodes_cons_cons, fillNodes_singleton, fillNode, line, part, hname, htarget,
    filtered_nil, ok_bind, pure_eq_ok, Json.display_str, String.append_assoc, String.empty_append]

theorem fillNodes_groupTitle :
    fillNodes [line "", line "// MARK: - Namespaced Type Aliases", line ""] scope
      = .ok (ofLines (titleLines groupTitle)) := by
  rw [ofLines_titleLines]
  rfl

theorem fillNodes_outerTitle :
    fillNodes [line "", line "// MARK: - Flat Type Aliases (for use as a separate module)", line ""]
      scope = .ok (ofLines (titleLines outerTitle)) := by
  rw [ofLines_titleLines]
  rfl

theorem fillNode_groupNote {basename : String} {addComments : Bool}
    (hadd : Ref.find scope ⟨"add_comments", none⟩ = .ok (.bool addComments))
    (hbasename : Ref.find scope ⟨"basename", none⟩ = .ok (.str basename)) :
    fillNode (remark
      [.text "/// Generated types without their prefix, as ", slot "basename", line ".<Name>"])
      scope = .ok (ofLines (noteLines addComments (groupNote basename))) := by
  refine fillNode_remark hadd ?_
  rw [fillNodes_slotLine _ _ hbasename, ← append_lineFeed]
  rfl

end Texts

/-- **The text of the aliases, line by line.** -/
theorem aliasesText_lines (o : Options) (basename : String) (declared : List String) :
    aliasesText o basename (.of basename) declared
      = .ok (ofLines (groupedLines o.addComments basename (groupedAliases o basename declared)
          ++ outerLines (outerAliases o basename declared))) := by
  rw [aliasesText_eq]
  refine (page_eq_ok (t := typealiasesTemplate) rfl rfl).mpr ?_
  refine fillNodes_cons_of (fillNode_when_map (l := groupedAliases o basename declared) rfl ?_) ?_
  · refine fillNodes_append_of fillNodes_groupTitle ?_
    refine fillNodes_cons_of (fillNode_groupNote rfl rfl) ?_
    refine fillNodes_append_of (fillNodes_slotLine "public enum " " \x7b\x7d" rfl) ?_
    refine fillNodes_cons_of fillNode_emptyLine ?_
    refine fillNodes_append_of (fillNodes_slotLine "public extension " " \x7b" rfl) ?_
    refine fillNodes_cons_of (fillNode_each_of rfl fun a => ?_) rfl
    exact fillNodes_aliasLine "    typealias " a
  · rw [fillNodes_singleton]
    refine fillNode_when_map (l := outerAliases o basename declared) rfl ?_
    refine fillNodes_append_of fillNodes_outerTitle ?_
    rw [fillNodes_singleton]
    exact fillNode_each_of rfl fun a => fillNodes_aliasLine "public typealias " a

/-! ## §2. Aliases and their targets. -/

section Targets

variable {basename : String} {seen targets : List String}

theorem withoutBasename_append (basename rest : String) :
    withoutBasename basename (basename ++ rest) = rest := by
  rw [withoutBasename, String.toList_append, ← String.length_toList, List.drop_left,
    String.ofList_toList]

/-- Only a reserved word is written in another way. -/
theorem escapeKeyword_eq_iff (name : String) : escapeKeyword name = name ↔ name ∉ keywords := by
  unfold escapeKeyword
  split
  next hkeyword =>
    refine iff_of_false (fun heq => ?_) (not_not_intro (List.contains_iff_mem.mp hkeyword))
    -- The grave accents make the text longer.
    have hlength := congrArg String.length heq
    rw [String.length_append, String.length_append] at hlength
    have hgrave : "\x60".length = 1 := by decide
    omega
  next hkeyword => exact iff_of_true rfl (mt List.contains_iff_mem.mpr hkeyword)

/-- When an alias is passed over. -/
theorem skips_iff (seen : List String) {name : String} (hne : name ≠ "") :
    (name.isEmpty || seen.contains name || escapeKeyword name != name) = true ↔
      name ∈ seen ∨ name ∈ keywords := by
  rw [Bool.or_eq_true, Bool.or_eq_true, String.isEmpty_iff, List.contains_iff_mem, bne_iff_ne,
    ne_eq, escapeKeyword_eq_iff, not_not, or_iff_right hne]

/-- An alias is what is left of its target without the basename, and no reserved word. -/
theorem of_mem_declareAliases {a : AliasDeclaration} (h : a ∈ declareAliases basename seen targets) :
    a.target ∈ targets ∧ a.name = withoutBasename basename a.target ∧ a.name ∉ keywords := by
  induction targets generalizing seen with
  | nil => exact absurd h List.not_mem_nil
  | cons t targets ih =>
    have hrest : ∀ {seen}, a ∈ declareAliases basename seen targets →
        a.target ∈ t :: targets ∧ a.name = withoutBasename basename a.target ∧
          a.name ∉ keywords :=
      fun h => ⟨List.mem_cons_of_mem t (ih h).1, (ih h).2⟩
    unfold declareAliases at h
    extract_lets name at h
    split at h
    next => exact hrest h
    next hnew =>
      rcases List.mem_cons.mp h with rfl | h
      · rw [Bool.or_eq_true, not_or, bne_iff_ne, not_not, escapeKeyword_eq_iff] at hnew
        exact ⟨List.mem_cons_self, rfl, hnew.2⟩
      · exact hrest h

/-- **A target has an alias** unless what is left of it was seen before or is a reserved word. -/
theorem mem_target_declareAliases_iff (htargets : ∀ t ∈ targets, IsPrefixed basename t)
    {rest : String} :
    basename ++ rest ∈ (declareAliases basename seen targets).map AliasDeclaration.target ↔
      basename ++ rest ∈ targets ∧ rest ∉ seen ∧ rest ∉ keywords := by
  induction targets generalizing seen with
  | nil => simp [declareAliases]
  | cons t targets ih =>
    obtain ⟨ht, hothers⟩ := List.forall_mem_cons.mp htargets
    obtain ⟨own, rfl, hne, -⟩ := ht
    have hsame : basename ++ rest = basename ++ own ↔ rest = own := (append_injective basename).eq_iff
    unfold declareAliases
    rw [withoutBasename_append]
    dsimp only
    by_cases hskip : own ∈ seen ∨ own ∈ keywords
    · -- A target that is passed over has no alias later on, either.
      rw [if_pos ((skips_iff seen hne).mpr hskip), ih hothers, List.mem_cons, hsame]
      refine and_congr_left fun hrest => (or_iff_right ?_).symm
      rintro rfl
      exact hskip.elim hrest.1 hrest.2
    · rw [if_neg (mt (skips_iff seen hne).mp hskip), List.map_cons, List.mem_cons, ih hothers]
      simp only [List.mem_cons, hsame]
      rw [not_or] at hskip
      by_cases howned : rest = own
      · subst howned
        exact iff_of_true (.inl rfl) ⟨.inl rfl, hskip⟩
      · simp only [howned, false_or]

/-- No target has two aliases. -/
theorem nodup_target_declareAliases (basename : String) (seen targets : List String) :
    ((declareAliases basename seen targets).map AliasDeclaration.target).Nodup := by
  have hnames : (declareAliases basename seen targets).map AliasDeclaration.name
      = ((declareAliases basename seen targets).map AliasDeclaration.target).map
          (withoutBasename basename) := by
    rw [List.map_map]
    exact List.map_congr_left fun a ha => (of_mem_declareAliases ha).2.1
  exact List.Nodup.of_map _ (hnames ▸ nodup_declareAliases basename seen targets)

end Targets

/-! ## §3. The types of a file. -/

/-- The names of the declared enumerations and protocols. -/
def declaredNames (es : List EnumerationDeclaration) (ps : List ProtocolDeclaration) :
    List String :=
  es.map EnumerationDeclaration.name ++ ps.map ProtocolDeclaration.name

/-- The types that a file declares with the basename in front of their names, in order. -/
def prefixedTypes (o : Options) (basename : String) (es : List EnumerationDeclaration)
    (ps : List ProtocolDeclaration) : List Opening :=
  let f := FixedNames.of basename
  [⟨.synonym, f.application⟩, ⟨.synonym, f.object⟩, ⟨.synonym, f.elementArray⟩,
   ⟨.enumeration, f.saveOptions⟩, ⟨.root, f.genericMethods⟩]
    ++ es.map (fun e => ⟨.enumeration, e.name⟩)
    ++ ps.map (fun p => ⟨.protocol, p.name⟩)
    ++ (if o.classNames then [⟨.group, f.classNames⟩] else [])
    ++ [⟨.protocol, f.applicationProtocol⟩]

section Types

variable {o : Options} {names : Names} {basename : String} {es : List EnumerationDeclaration}
  {ps : List ProtocolDeclaration}

/-- They are the first things that a file declares. -/
theorem isPrefix_prefixedTypes (o : Options) (names : Names) (basename : String)
    (es : List EnumerationDeclaration) (ps : List ProtocolDeclaration) :
    prefixedTypes o basename es ps <+: openings o names basename es ps := by
  unfold openings prefixedTypes
  exact ((List.prefix_append _ _).trans (List.prefix_append _ _)).trans (List.prefix_append _ _)

/-- Aliases are made for these types. -/
theorem mem_aliasTargets_iff {n : String} :
    n ∈ aliasTargets (.of basename) o.classNames (declaredNames es ps) ↔
      n ∈ (prefixedTypes o basename es ps).map Opening.name := by
  unfold aliasTargets declaredNames prefixedTypes
  simp only [List.map_append, List.mem_append, List.map_cons, List.mem_cons, List.map_map,
    Function.comp_def, apply_ite (List.map Opening.name), List.map_nil]
  tauto

/-- The aliases of a group cover types one to one. -/
structure CoverTypes (basename : String) (types : List Opening) (as : List AliasDeclaration) :
    Prop where
  nodup : (as.map AliasDeclaration.name).Nodup
  not_keyword : ∀ a ∈ as, a.name ∉ keywords
  target : ∀ a ∈ as, a.target = basename ++ a.name ∧ ∃ q ∈ types, q.name = a.target
  isPrefixed : ∀ q ∈ types, IsPrefixed basename q.name
  once : ∀ q ∈ types, ∀ rest, q.name = basename ++ rest →
    (as.map AliasDeclaration.target).count q.name = if rest ∈ keywords then 0 else 1

theorem coverTypes_aliasesOf (h : AreTypeNames basename (es.map EnumerationDeclaration.name)
      (ps.map ProtocolDeclaration.name)) :
    CoverTypes basename (prefixedTypes o basename es ps)
      (aliasesOf o basename (declaredNames es ps)) := by
  have htargets : ∀ n ∈ aliasTargets (.of basename) o.classNames (declaredNames es ps),
      IsPrefixed basename n :=
    fun n => isPrefixed_of_mem_aliasTargets h
  have htypes : ∀ q ∈ prefixedTypes o basename es ps,
      q.name ∈ aliasTargets (.of basename) o.classNames (declaredNames es ps) :=
    fun q hq => mem_aliasTargets_iff.mpr (List.mem_map_of_mem hq)
  refine ⟨nodup_declareAliases basename [] _, fun a ha => (of_mem_declareAliases ha).2.2,
    fun a ha => ?_, fun q hq => htargets _ (htypes q hq), fun q hq rest hrest => ?_⟩
  · obtain ⟨htarget, hname, -⟩ := of_mem_declareAliases ha
    obtain ⟨rest, hrest, -, -⟩ := htargets _ htarget
    rw [hrest, withoutBasename_append] at hname
    exact ⟨hname ▸ hrest, List.mem_map.mp (mem_aliasTargets_iff.mp htarget)⟩
  · have hmem := htypes q hq
    rw [hrest] at hmem ⊢
    have hcovered : basename ++ rest ∈ (aliasesOf o basename (declaredNames es ps)).map
          AliasDeclaration.target ↔ _ ∧ rest ∉ [] ∧ rest ∉ keywords :=
      mem_target_declareAliases_iff htargets
    split
    next hkeyword =>
      exact List.count_eq_zero_of_not_mem fun hcover => (hcovered.mp hcover).2.2 hkeyword
    next hkeyword =>
      exact List.count_eq_one_of_mem (nodup_target_declareAliases basename [] _)
        (hcovered.mpr ⟨hmem, List.not_mem_nil, hkeyword⟩)

end Types

/-! ## §4. Files. -/

theorem Contents.aliases_eq {o : Options} {names : Names} {basename : String} {p : Plan}
    {es : List EnumerationDeclaration} {ps : List ProtocolDeclaration} {w : Parts}
    (h : Contents o names basename p es ps w)
    (ho : (o.namespaceAliases || o.flatAliases) = true) :
    w.aliases = [ofLines
      (groupedLines o.addComments basename (groupedAliases o basename (declaredNames es ps))
        ++ outerLines (outerAliases o basename (declaredNames es ps)))] := by
  have haliases := h.aliases
  rw [aliasesPart, if_pos ho, aliasesText_lines, ok_bind, pure_eq_ok, Except.ok.injEq] at haliases
  exact haliases.symm

/-- **The group of aliases covers the types of a file one to one.** -/
theorem generate_coversTypes (o : Options) (d : Dictionary) (basename text : String)
    (names : Names) (ho : o.namespaceAliases = true)
    (h : (generate o d basename).value = (names, .ok text)) :
    ∃ p es ps w, (plan d basename).value = (names, .ok p) ∧
      Contents o names basename p es ps w ∧ text = joinParts w.all ∧
      Opens text (openings o names basename es ps) ∧
      prefixedTypes o basename es ps <+: openings o names basename es ps ∧
      ∃ as, as ≠ [] ∧ CoverTypes basename (prefixedTypes o basename es ps) as ∧
        w.aliases = [ofLines (groupedLines o.addComments basename as
          ++ outerLines (outerAliases o basename (declaredNames es ps)))] := by
  obtain ⟨p, es, ps, w, hplan, hw, rfl⟩ := contents_of_generate h
  refine ⟨p, es, ps, w, hplan, hw, rfl, hw.opens, isPrefix_prefixedTypes o names basename es ps,
    aliasesOf o basename (declaredNames es ps), aliasesOf_ne_nil o basename _,
    coverTypes_aliasesOf (hw.areTypeNames hplan), ?_⟩
  rw [hw.aliases_eq (by rw [ho, Bool.true_or]), groupedAliases, if_pos ho]

/-- A class and an enumeration of one name, and a class whose name is a reserved word. -/
def anyDictionary : Dictionary :=
  { suites := [
      { name := "Player Suite"
        classes := [{ name := "track" }, { name := "any" }]
        enumerations := [
          { name := "track", enumerators := [{ name := "song", code := "kSng" }] }] }] }

theorem generate_coversTypes_any :
    richOptions.namespaceAliases = true ∧
      ∃ names text, (generate richOptions anyDictionary "Music").value = (names, .ok text) ∧
        ∃ p es ps w, (plan anyDictionary "Music").value = (names, .ok p) ∧
          Contents richOptions names "Music" p es ps w ∧ text = joinParts w.all ∧
          Opens text (openings richOptions names "Music" es ps) ∧
          prefixedTypes richOptions "Music" es ps <+: openings richOptions names "Music" es ps ∧
          ∃ as, as ≠ [] ∧ CoverTypes "Music" (prefixedTypes richOptions "Music" es ps) as ∧
            w.aliases = [ofLines (groupedLines richOptions.addComments "Music" as
              ++ outerLines (outerAliases richOptions "Music" (declaredNames es ps)))] := by
  obtain ⟨names, text, h⟩ := exists_text_of_isSome
    (r := (generate richOptions anyDictionary "Music").value) (by decide +kernel)
  exact ⟨rfl, names, text, h,
    generate_coversTypes richOptions anyDictionary "Music" text names rfl h⟩

end ScriptingBindings.Swift
