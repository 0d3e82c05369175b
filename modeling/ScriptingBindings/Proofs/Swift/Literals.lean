/-
  ScriptingBindings.Proofs.Swift.Literals
  ──────────────────────────────────
  **LITERALS DENOTE THEIR VALUES.**

  The names of classes and the identifier of the application are written as
  string literals.  Backslashes are doubled first, then each quote gets a
  backslash, and a scan in which a backslash takes the next character as it is
  gives the value back:

      say "\(x)"   →   "say \"\\(x)\""   →   say "\(x)"

  The scan stops at the quote that was put last, whatever follows it.  On its
  way a backslash takes nothing but a backslash or a quote, so no value starts
  an interpolation.
-/
import ScriptingBindings.Proofs.Swift.Acceptance
import ScriptingBindings.Proofs.Swift.ClassNames

namespace ScriptingBindings.Swift

open Identifier Text

variable {front back v : String} {ls ms : List (List Char)}

/-! ## §1. How literals are written. -/

/-- A text as a string literal, in its quotes. -/
def literal (v : String) : String :=
  "\"" ++ literalText v ++ "\""

theorem toList_literal (v : String) :
    (literal v).toList = '"' :: ((literalText v).toList ++ ['"']) := by
  rw [literal, String.toList_append, String.toList_append]
  rfl

/-- **Backslashes are doubled before quotes get theirs.** -/
theorem literalText_eq_replaceChar (v : String) :
    literalText v = String.ofList
      (replaceChar '"' ['\\', '"'] (replaceChar '\\' ['\\', '\\'] v.toList)) := by
  unfold literalText replaceChar
  rw [List.flatMap_assoc]
  refine congrArg String.ofList (List.flatMap_congr fun c _ => ?_)
  unfold literalChar
  by_cases hbackslash : c = '\\'
  · rw [if_pos hbackslash, if_pos hbackslash]
    rfl
  · rw [if_neg hbackslash, if_neg hbackslash, List.flatMap_singleton]

/-! ## §2. How literals are read. -/

/-- The value of the literal that starts at the first quote of a text, and what follows the
literal. -/
def firstLiteral? (s : List Char) : Option (List Char × List Char) :=
  scanLiteral ((s.dropWhile (· != '"')).drop 1)

/-- What the backslashes take in a literal, after its opening quote. -/
def takenIn : List Char → List Char
  | [] => []
  | '"' :: _ => []
  | ['\\'] => []
  | '\\' :: c :: rest => c :: takenIn rest
  | _ :: rest => takenIn rest

/-- A character that gets a backslash. -/
def isTaken (c : Char) : Bool :=
  c == '\\' || c == '"'

/-- A character that was written is taken if it has a backslash. -/
theorem takenIn_literalChar (c : Char) (rest : List Char) :
    takenIn (literalChar c ++ rest) = [c].filter isTaken ++ takenIn rest := by
  rcases literalChar_cases c with ⟨htaken, hchar⟩ | ⟨hbackslash, hquote, hchar⟩
  · have htaken : isTaken c = true := by
      rwa [isTaken, Bool.or_eq_true, beq_iff_eq, beq_iff_eq]
    rw [hchar, List.filter_singleton, htaken]
    rfl
  · have hplain : isTaken c = false := by
      rw [isTaken, beq_eq_false_iff_ne.mpr hbackslash, beq_eq_false_iff_ne.mpr hquote,
        Bool.or_false]
    rw [hchar, List.singleton_append, takenIn.eq_5, List.filter_singleton, hplain]
    · rfl
    · exact hquote
    · exact fun h _ => hbackslash h
    · exact fun d r h _ => hbackslash h

/-- **Backslashes take the backslashes and quotes of a value**, and nothing else. -/
theorem takenIn_literalText (v : String) (after : List Char) :
    takenIn ((literalText v).toList ++ '"' :: after) = v.toList.filter isTaken := by
  rw [literalText, String.toList_ofList]
  induction v.toList with
  | nil => rfl
  | cons c cs ih =>
    rw [List.flatMap_cons, List.append_assoc, takenIn_literalChar, ih, ← List.filter_append,
      List.singleton_append]

/-- **The first literal of a text that starts with one.** -/
theorem firstLiteral?_literal (v : String) (after : List Char) :
    firstLiteral? ((literal v).toList ++ after) = some (v.toList, after) := by
  rw [firstLiteral?, toList_literal, List.cons_append, List.dropWhile_cons_of_neg (by simp),
    List.drop_one, List.tail_cons, List.append_assoc, List.singleton_append]
  exact scanLiteral_literalText v after

/-! ## §3. Where literals stand. -/

/-- Between two texts a literal for a value stands in a text: the scan from its opening quote
gives the value and stops in front of the second text, and no backslash takes a parenthesis on
the way. -/
def HoldsLiteral (text front back v : String) : Prop :=
  ∃ before scanned after, text.toList = before ++ (front.toList ++ '"' :: scanned) ∧
    scanLiteral scanned = some (v.toList, back.toList ++ after) ∧ '(' ∉ takenIn scanned

theorem not_mem_takenIn (v : String) (after : List Char) :
    '(' ∉ takenIn ((literalText v).toList ++ '"' :: after) := by
  rw [takenIn_literalText, List.mem_filter]
  exact fun h => absurd h.2 (by decide)

/-- **A line with a literal holds it**, whatever lines stand above and below. -/
theorem holdsLiteral_ofLines (ls ms : List (List Char)) (front back v : String) :
    HoldsLiteral (ofLines (ls ++ (linesOf (front ++ (literal v ++ back)) ++ ms)))
      front (back ++ "\n") v := by
  refine ⟨(ofLines ls).toList,
    (literalText v).toList ++ '"' :: ((back ++ "\n").toList ++ (ofLines ms).toList),
    (ofLines ms).toList, ?_, scanLiteral_literalText v _, not_mem_takenIn v _⟩
  rw [ofLines_append, ofLines_append, ← append_lineFeed]
  simp only [String.toList_append, toList_literal, List.append_assoc, List.cons_append,
    List.nil_append]

section Pages

variable {addComments : Bool} {f : FixedNames} {entries : List ClassNameDeclaration}
  {name function : String}

/-- What stands in front of the literal of a constant. -/
def constantFront (name : String) : String :=
  "    public static let " ++ name ++ " = "

/-- What stands in front of the literal of the application. -/
def accessFront : String := "    SBApplication(bundleIdentifier: "

/-- A line is cut at the quotes of its literal. -/
theorem append_literal_append (front back v : String) :
    front ++ (literal v ++ back) = (front ++ "\"") ++ literalText v ++ ("\"" ++ back) := by
  simp only [literal, String.append_assoc]

theorem ClassNameDeclaration.line_eq (e : ClassNameDeclaration) :
    e.line = constantFront e.name ++ (literal e.title ++ "") := by
  have hquote : " = \"" = " = " ++ "\"" := by decide
  have hfront : e.front = constantFront e.name ++ "\"" :=
    (congrArg ("    public static let " ++ e.name ++ ·) hquote).trans String.append_assoc.symm
  rw [append_literal_append, ← hfront]
  exact congrArg (e.front ++ literalText e.title ++ ·) String.append_empty.symm

theorem accessLine_eq (v : String) :
    accessLine (literalText v) = accessFront ++ (literal v ++ ")") := by
  have hfront : "    SBApplication(bundleIdentifier: \"" = accessFront ++ "\"" := by decide
  have hback : "\")" = "\"" ++ ")" := by decide
  rw [append_literal_append]
  exact congrArg₂ (fun opening closing => opening ++ literalText v ++ closing) hfront hback

/-- **The literal of a constant** stands in the text of the constants. -/
theorem exists_constantText (he : ⟨name, v⟩ ∈ entries) (addComments : Bool) (f : FixedNames) :
    ∃ text, classNamesText addComments f entries = .ok text ∧
      HoldsLiteral text (constantFront name) "\n" v := by
  refine ⟨_, classNamesText_eq addComments f entries, ?_⟩
  obtain ⟨xs, ys, rfl⟩ := List.append_of_mem he
  have hlines : classNamesLines addComments f (xs ++ ⟨name, v⟩ :: ys)
      = (titleLines "Class Names" ++ (noteLines addComments classNamesNote
          ++ (linesOf ("public enum " ++ f.classNames ++ " \x7b")
            ++ xs.flatMap fun e => linesOf e.line)))
        ++ (linesOf (ClassNameDeclaration.line ⟨name, v⟩)
          ++ (ys.flatMap (fun e => linesOf e.line) ++ [closingLine])) := by
    simp only [classNamesLines, List.flatMap_append, List.flatMap_cons, List.append_assoc]
  rw [hlines, ClassNameDeclaration.line_eq]
  exact holdsLiteral_ofLines _ _ (constantFront name) "" v

/-- **The literal of the application** stands in the text that reaches for it. -/
theorem exists_accessText (hv : v ≠ "") (addComments : Bool) (f : FixedNames) (function : String) :
    ∃ text, applicationText addComments f (.str v) function = .ok text ∧
      HoldsLiteral text accessFront ")\n" v := by
  refine ⟨_, applicationText_eq addComments f (mt literalText_eq_empty_iff.mp hv) function, ?_⟩
  have hlines : applicationProtocolLines f ++ accessLines addComments f (literalText v) function
      = (applicationProtocolLines f ++ (titleLines "Application Access"
          ++ (noteLines addComments (accessNote (literalText v))
            ++ linesOf (functionLine f function))))
        ++ (linesOf (accessLine (literalText v)) ++ [closingLine]) := by
    simp only [accessLines, List.append_assoc]
  rw [hlines, accessLine_eq]
  exact holdsLiteral_ofLines _ _ accessFront ")" v

/-- **String literals denote their values.**  Backslashes are doubled before quotes get theirs.
The literal that starts at the first quote ends at the quote that was put last, whatever follows
it, and denotes the text that it was written for.  Its backslashes take the backslashes and quotes
of that text and nothing else, so none of them starts an interpolation.  Both hold where the name
of a class is listed and where the application is reached for by its identifier. -/
theorem literals_denote (v : String) :
    literalText v = String.ofList
        (replaceChar '"' ['\\', '"'] (replaceChar '\\' ['\\', '\\'] v.toList)) ∧
      (∀ after, firstLiteral? ((literal v).toList ++ after) = some (v.toList, after)) ∧
      (∀ after, takenIn ((literalText v).toList ++ '"' :: after) = v.toList.filter isTaken) ∧
      (∀ addComments f name entries, ⟨name, v⟩ ∈ entries →
        ∃ text, classNamesText addComments f entries = .ok text ∧
          HoldsLiteral text (constantFront name) "\n" v) ∧
      (v ≠ "" → ∀ addComments f function,
        ∃ text, applicationText addComments f (.str v) function = .ok text ∧
          HoldsLiteral text accessFront ")\n" v) :=
  ⟨literalText_eq_replaceChar v, firstLiteral?_literal v, takenIn_literalText v,
    fun addComments f _ _ he => exists_constantText he addComments f, exists_accessText⟩

/-- In the other order a quote would close its literal early. -/
example :
    scanLiteral (replaceChar '\\' ['\\', '\\'] (replaceChar '"' ['\\', '"'] ['"']) ++ ['"'])
      = some (['\\'], ['"']) := by
  decide

/-- A text with quotes, an interpolation and a backslash at its end. -/
def spokenText : String := "say \"\\(x)\"\\"

theorem literals_denote_spokenText :
    spokenText ≠ "" ∧ (⟨"say", spokenText⟩ : ClassNameDeclaration) ∈ [⟨"say", spokenText⟩] ∧
      firstLiteral? ((literal spokenText).toList ++ []) = some (spokenText.toList, []) ∧
      takenIn ((literalText spokenText).toList ++ ['"']) = ['"', '\\', '"', '\\'] ∧
      (∃ text, classNamesText true (.of "Music") [⟨"say", spokenText⟩] = .ok text ∧
        HoldsLiteral text (constantFront "say") "\n" spokenText) ∧
      ∃ text, applicationText true (.of "Music") (.str spokenText) "musicApplication" = .ok text ∧
        HoldsLiteral text accessFront ")\n" spokenText := by
  obtain ⟨-, hscan, htaken, hlisted, hreached⟩ := literals_denote spokenText
  have hne : spokenText ≠ "" := by decide
  have hmem : (⟨"say", spokenText⟩ : ClassNameDeclaration) ∈ [⟨"say", spokenText⟩] :=
    List.mem_singleton_self _
  exact ⟨hne, hmem, hscan [], htaken [], hlisted true (.of "Music") "say" _ hmem,
    hreached hne true (.of "Music") "musicApplication"⟩

end Pages

end ScriptingBindings.Swift
