/-
  ScriptingBindings.Proofs.Swift.ClassNames
  ──────────────────────────────────
  **CLASS NAMES AS CONSTANTS.**

  A file can list the names that its classes have in the dictionary:

      public enum MusicClassNames {
          public static let musicTrack = "music track"
      }

  A class is declared under its name in Pascal case and listed under its name
  in camel case.  Two classes with different protocols can have one name in
  camel case, and then only the first of them is listed:

      entries.map title = ps.map title  ↔  no two protocols share a constant
-/
import ScriptingBindings.Proofs.Swift.Aliases

namespace ScriptingBindings.Swift

open Dictionary Template Text

/-! ## §1. String literals. -/

/-- The value of a string literal after its opening quote, and what follows its closing one.  A
backslash takes the next character as it is. -/
def scanLiteral : List Char → Option (List Char × List Char)
  | [] => none
  | '"' :: rest => some ([], rest)
  | ['\\'] => none
  | '\\' :: c :: rest => (scanLiteral rest).map fun scanned => (c :: scanned.1, scanned.2)
  | c :: rest => (scanLiteral rest).map fun scanned => (c :: scanned.1, scanned.2)

/-- A character is scanned as it was before it was written. -/
theorem scanLiteral_literalChar (c : Char) (rest : List Char) :
    scanLiteral (literalChar c ++ rest)
      = (scanLiteral rest).map fun scanned => (c :: scanned.1, scanned.2) := by
  rcases literalChar_cases c with ⟨-, hchar⟩ | ⟨hbackslash, hquote, hchar⟩
  · rw [hchar]
    rfl
  · rw [hchar, List.singleton_append, scanLiteral.eq_5]
    · exact fun h => hquote h
    · exact fun h _ => hbackslash h
    · exact fun d r h _ => hbackslash h

/-- **A literal denotes the text that it was written for**, and ends where it was ended. -/
theorem scanLiteral_literalText (s : String) (rest : List Char) :
    scanLiteral ((literalText s).toList ++ '"' :: rest) = some (s.toList, rest) := by
  rw [literalText, String.toList_ofList]
  induction s.toList with
  | nil => rfl
  | cons c cs ih => rw [List.flatMap_cons, List.append_assoc, scanLiteral_literalChar, ih]; rfl

/-! ## §2. The lines of constants. -/

/-- The line of a constant up to its literal. -/
def ClassNameDeclaration.front (e : ClassNameDeclaration) : String :=
  "    public static let " ++ e.name ++ " = \""

/-- The line of a constant. -/
def ClassNameDeclaration.line (e : ClassNameDeclaration) : String :=
  e.front ++ literalText e.title ++ "\""

/-- The remark above the constants. -/
def classNamesNote : String := "/// Scripting class names as they appear in the dictionary"

/-- The lines of the enumeration of class names. -/
def classNamesLines (addComments : Bool) (f : FixedNames) (entries : List ClassNameDeclaration) :
    List (List Char) :=
  titleLines "Class Names" ++ (noteLines addComments classNamesNote
    ++ (linesOf ("public enum " ++ f.classNames ++ " \x7b")
      ++ (entries.flatMap (fun e => linesOf e.line) ++ [closingLine])))

section Texts

variable {scope : Scope}

theorem fillNodes_classNamesTitle :
    fillNodes [Swift.line "", Swift.line "// MARK: - Class Names", Swift.line ""] scope
      = .ok (ofLines (titleLines "Class Names")) := by
  rw [ofLines_titleLines]
  rfl

/-- The values that a constant is filled from. -/
def ClassNameDeclaration.values (e : ClassNameDeclaration) : Json :=
  .obj [("name", .str e.name), ("value", .str (literalText e.title))]

theorem fillNodes_classNameLine (e : ClassNameDeclaration) :
    fillNodes
      [.text "    public static let ", part "entry" "name", .text " = \"", part "entry" "value",
       Swift.line "\""]
      (("entry", e.values) :: scope) = .ok (ofLines (linesOf e.line)) := by
  have hname : Ref.find (("entry", e.values) :: scope) ⟨"entry", some "name"⟩
      = .ok (.str e.name) := rfl
  have hvalue : Ref.find (("entry", e.values) :: scope) ⟨"entry", some "value"⟩
      = .ok (.str (literalText e.title)) := rfl
  unfold ClassNameDeclaration.line ClassNameDeclaration.front
  rw [← append_lineFeed]
  simp only [fillNodes_cons_cons, fillNodes_singleton, fillNode, Swift.line, part, hname, hvalue,
    filtered_nil, ok_bind, pure_eq_ok, Json.display_str, String.append_assoc]

end Texts

/-- **The text of the constants, line by line.** -/
theorem classNamesText_eq (addComments : Bool) (f : FixedNames)
    (entries : List ClassNameDeclaration) :
    classNamesText addComments f entries
      = .ok (ofLines (classNamesLines addComments f entries)) := by
  refine (page_eq_ok (t := classNamesTemplate) rfl rfl).mpr ?_
  refine fillNodes_append_of fillNodes_classNamesTitle ?_
  refine fillNodes_cons_of (fillNode_remark rfl rfl) ?_
  refine fillNodes_append_of (fillNodes_slotLine "public enum " " \x7b" rfl) ?_
  exact fillNodes_cons_of (fillNode_each_of rfl fun e => fillNodes_classNameLine e) rfl

/-! ## §3. Which classes are listed. -/

/-- The constant for a class of a name; nothing stands for a name that cannot be made. -/
def constantOf (title : String) : String :=
  (Names.member title).toOption.getD ""

/-- The constant with the name of a class. -/
def classConstant (title : String) : ClassNameDeclaration := ⟨constantOf title, title⟩

@[simp] theorem name_classConstant (title : String) :
    (classConstant title).name = constantOf title := by
  simp only [classConstant]

@[simp] theorem title_classConstant (title : String) : (classConstant title).title = title := by
  simp only [classConstant]

/-- **The constants that are declared**: the first of each name, if all names can be made. -/
theorem declareClassNames_eq_ok {seen : List String} {classes : List Dictionary.Class}
    {entries : List ClassNameDeclaration} :
    declareClassNames seen classes = .ok entries ↔
      (∀ c ∈ classes, Names.member c.name = .ok (constantOf c.name)) ∧
        entries = (firstOfEach constantOf seen (classes.map Dictionary.Class.name)).map
          classConstant := by
  -- The seen names are free: each constant adds its own before the rest is listed.
  induction classes generalizing seen entries with
  | nil =>
    show Except.ok [] = Except.ok entries ↔ _
    simp [eq_comm]
  | cons c classes ih =>
    rw [List.forall_mem_cons, List.map_cons]
    rw [declareClassNames_cons]
    cases hname : Names.member c.name with
    | error e => simp [bind, Except.bind]
    | ok name =>
      have hkey : constantOf c.name = name := by
        rw [constantOf, hname]
        rfl
      rw [ok_bind]
      by_cases hs : name ∈ seen
      · rw [if_pos (by simpa using hs), ih, firstOfEach_cons_of_mem constantOf (hkey ▸ hs), hkey]
        simp
      · rw [if_neg (by simpa using hs), bind_eq_ok,
          firstOfEach_cons_of_not_mem constantOf (hkey ▸ hs), hkey, List.map_cons]
        simp only [ih, pure_eq_ok, Except.ok.injEq]
        constructor
        · rintro ⟨more, ⟨hall, rfl⟩, rfl⟩
          exact ⟨⟨trivial, hall⟩, by rw [classConstant, hkey]⟩
        · rintro ⟨⟨-, hall⟩, rfl⟩
          exact ⟨_, ⟨hall, rfl⟩, by rw [classConstant, hkey]⟩

/-- What is listed of protocols: the first of each constant, each under a name of its own and with
a literal that denotes the name of the class.  Nothing is left out exactly if no two protocols
share a constant. -/
structure ListsClasses (ps : List ProtocolDeclaration) (entries : List ClassNameDeclaration) :
    Prop where
  made : ∀ p ∈ ps, Names.member p.title = .ok (constantOf p.title)
  firsts : entries
    = (firstOfEach constantOf [] (ps.map ProtocolDeclaration.title)).map classConstant
  nodup : (entries.map ClassNameDeclaration.name).Nodup
  denotes : ∀ e ∈ entries, ∃ literal,
    e.line = e.front ++ literal ∧ scanLiteral literal.toList = some (e.title.toList, [])
  complete : entries.map ClassNameDeclaration.title = ps.map ProtocolDeclaration.title ↔
    (ps.map fun p => constantOf p.title).Nodup

section Files

variable {o : Options} {names : Names} {basename : String} {d : Dictionary} {p : Plan}
  {es : List EnumerationDeclaration} {ps : List ProtocolDeclaration} {w : Parts}

/-- Protocols bear the names of their classes. -/
theorem map_title_of_declared {classes : List Dictionary.Class}
    (h : List.Forall₂ (fun c p => (declareClass o names c).outcome = .ok p) classes ps) :
    ps.map ProtocolDeclaration.title = classes.map Dictionary.Class.name := by
  induction h with
  | nil => rfl
  | cons hp _ ih => rw [List.map_cons, List.map_cons, ih, title_of_declareClass hp]

/-- The literal of a constant denotes the name of its class. -/
theorem ClassNameDeclaration.denotes_title (e : ClassNameDeclaration) :
    ∃ literal, e.line = e.front ++ literal ∧
      scanLiteral literal.toList = some (e.title.toList, []) := by
  refine ⟨literalText e.title ++ "\"", String.append_assoc, ?_⟩
  rw [String.toList_append]
  exact scanLiteral_literalText e.title []

/-- The constants for the classes of protocols. -/
theorem listsClasses_of_declared {classes : List Dictionary.Class}
    (h : List.Forall₂ (fun c p => (declareClass o names c).outcome = .ok p) classes ps)
    {entries : List ClassNameDeclaration} (hentries : declareClassNames [] classes = .ok entries) :
    ListsClasses ps entries := by
  obtain ⟨hmade, hfirsts⟩ := declareClassNames_eq_ok.mp hentries
  rw [← map_title_of_declared h] at hfirsts
  have htitles : entries.map ClassNameDeclaration.title
      = firstOfEach constantOf [] (ps.map ProtocolDeclaration.title) := by
    simp only [hfirsts, List.map_map, Function.comp_def, title_classConstant, List.map_id']
  refine ⟨?_, hfirsts, ?_, fun e _ => e.denotes_title, ?_⟩
  · intro q hq
    have htitle := List.mem_map_of_mem (f := ProtocolDeclaration.title) hq
    rw [map_title_of_declared h] at htitle
    obtain ⟨c, hc, hname⟩ := List.mem_map.mp htitle
    rw [← hname]
    exact hmade c hc
  · simp only [hfirsts, List.map_map, Function.comp_def, name_classConstant]
    exact nodup_map_firstOfEach constantOf [] _
  · rw [htitles, firstOfEach_eq_self_iff, List.map_map, Function.comp_def]

/-- The part of a file that lists its classes. -/
theorem Contents.exists_classNames (h : Contents o names basename p es ps w)
    (ho : o.classNames = true) :
    ∃ entries, ListsClasses ps entries ∧
      w.classNames = [ofLines (classNamesLines o.addComments (.of basename) entries)] := by
  have hpart := h.classNames
  rw [classNamesPart_eq, if_pos ho] at hpart
  obtain ⟨entries, hentries, htext⟩ := bind_eq_ok.mp hpart
  rw [classNamesText_eq, ok_bind, pure_eq_ok, Except.ok.injEq] at htext
  exact ⟨entries, listsClasses_of_declared h.protocols hentries, htext.symm⟩

end Files

/-- **Which classes a file lists.**  The constants have different names and denote, in order, the
names of the declared classes, of several with one constant the first; so all declared classes are
listed exactly if no two of them have the same constant. -/
theorem generate_listsClasses (o : Options) (d : Dictionary) (basename text : String)
    (names : Names) (ho : o.classNames = true)
    (h : (generate o d basename).value = (names, .ok text)) :
    ∃ p es ps w, (plan d basename).value = (names, .ok p) ∧
      Contents o names basename p es ps w ∧ text = joinParts w.all ∧
      ps.map ProtocolDeclaration.title = (firstClasses names d.classes).map Dictionary.Class.name ∧
      ∃ entries, ListsClasses ps entries ∧
        w.classNames = [ofLines (classNamesLines o.addComments (.of basename) entries)] := by
  obtain ⟨p, es, ps, w, hplan, hw, htext⟩ := contents_of_generate h
  refine ⟨p, es, ps, w, hplan, hw, htext, ?_, hw.exists_classNames ho⟩
  rw [map_title_of_declared hw.protocols, (plan_eq_ok hplan).2.1]

theorem generate_listsClasses_player :
    richOptions.classNames = true ∧
      ∃ names text, (generate richOptions playerDictionary "Music").value = (names, .ok text) ∧
        ∃ p es ps w, (plan playerDictionary "Music").value = (names, .ok p) ∧
          Contents richOptions names "Music" p es ps w ∧ text = joinParts w.all ∧
          ps.map ProtocolDeclaration.title
            = (firstClasses names playerDictionary.classes).map Dictionary.Class.name ∧
          ∃ entries, ListsClasses ps entries ∧
            w.classNames
              = [ofLines (classNamesLines richOptions.addComments (.of "Music") entries)] := by
  obtain ⟨names, text, h⟩ := exists_text_of_isSome
    (r := (generate richOptions playerDictionary "Music").value) (by decide +kernel)
  exact ⟨rfl, names, text, h,
    generate_listsClasses richOptions playerDictionary "Music" text names rfl h⟩

/-- Two pairs of classes: one differs in letter case, the other in where a word ends. -/
def unlistedDictionary : Dictionary :=
  { suites := [
      { name := "Player Suite"
        classes := [{ name := "track" }, { name := "TRACK" }, { name := "cd 2" },
          { name := "cd2" }] }] }

/-- **A declared class need not be listed**: of two classes with different protocols and one
constant the second is left out. -/
theorem classes_left_unlisted :
    ∃ names text, (generate richOptions unlistedDictionary "Music").value = (names, .ok text) ∧
      ∃ p es ps w entries, (plan unlistedDictionary "Music").value = (names, .ok p) ∧
        Contents richOptions names "Music" p es ps w ∧ text = joinParts w.all ∧
        w.classNames = [ofLines (classNamesLines richOptions.addComments (.of "Music") entries)] ∧
        ps.map ProtocolDeclaration.title = ["track", "TRACK", "cd 2", "cd2"] ∧
        entries.map ClassNameDeclaration.title = ["track", "cd 2"] := by
  obtain ⟨names, text, h⟩ := exists_text_of_isSome
    (r := (generate richOptions unlistedDictionary "Music").value) (by decide +kernel)
  obtain ⟨p, es, ps, w, hplan, hw, htext⟩ := contents_of_generate h
  obtain ⟨entries, hlists, hpart⟩ := hw.exists_classNames rfl
  -- All four have protocols of their own: MusicTrack, MusicTRACK, MusicCD2 and MusicCd2.
  have hclasses : p.classes.map Dictionary.Class.name = ["track", "TRACK", "cd 2", "cd2"] := by
    rw [(plan_eq_ok hplan).2.1, firstClasses, (plan_eq_ok hplan).1.interfaceOf_eq]
    decide +kernel
  have htitles : ps.map ProtocolDeclaration.title = ["track", "TRACK", "cd 2", "cd2"] := by
    rw [map_title_of_declared hw.protocols, hclasses]
  refine ⟨names, text, h, p, es, ps, w, entries, hplan, hw, htext, hpart, htitles, ?_⟩
  rw [hlists.firsts, htitles]
  decide +kernel

end ScriptingBindings.Swift
