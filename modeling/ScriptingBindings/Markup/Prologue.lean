/-
  ScriptingBindings.Markup.Prologue
  ──────────────────────────────────
  **WHAT COMES BEFORE THE ROOT.**

  Comments, processing instructions and the document type declaration.  A
  parameter that is referred to between declarations stands for declarations,
  which are read in its place; external subsets and resources are not read.
-/
import ScriptingBindings.Markup.Declaration

namespace ScriptingBindings.Markup.Scan

/-! ## §1. Comments and instructions. -/

/-- What is left of a comment after its opening mark.  Two hyphens end it. -/
def comment : Scan Unit := do
  let _ ← upTo "--"
  mark ">"

/-- The targets that start with `xml` and are in use. -/
def knownTargets : List String :=
  ["xml-stylesheet", "xml-model"]

/-- Remarks about the target of an instruction. -/
def checkTarget (target : List Char) : Scan Unit := do
  require (target != "xml".toList)
  if (target.take 3).map Char.toLower = "xml".toList then
    if target.length = 3 then fault
    else if !knownTargets.contains (String.ofList target) then
      warn
      faultIf (target.contains ':')
  else faultIf (target.contains ':')

/-- What is left of a processing instruction after its opening mark. -/
def instruction : Scan Unit := do
  let target ← take name?
  checkTarget target
  if !(← mark? "?>") then
    needBlanks
    let _ ← upTo "?>"

/-- Space, comments and instructions.  The fuel is the number of comments and instructions. -/
def misc : Nat → Scan Unit
  | 0 => refuse
  | fuel + 1 => do
    let _ ← blanks
    if ← mark? "<!--" then
      comment
      misc fuel
    else if ← mark? "<?" then
      instruction
      misc fuel
    else return ()

/-! ## §2. Declarations. -/

/-- Whatever starts with `<!` or `<?`.  An unknown keyword is left in the text, where nothing can
be made of it.  The fuel bounds the number of parts of a declaration. -/
def declaration (fuel : Nat) : Scan Unit := do
  if ← mark? "<?" then instruction
  else if ← mark? "<!--" then comment
  else if ← mark? "<!ELEMENT" then elementDeclaration fuel
  else if ← mark? "<!ATTLIST" then attributeDeclaration fuel
  else if ← mark? "<!ENTITY" then entityDeclaration
  else if ← mark? "<!NOTATION" then notationDeclaration
  else mark "<!"

/-- Where declarations stand. -/
inductive Setting where
  /-- In the document itself, up to a bracket. -/
  | document
  /-- In the text of a parameter, up to its end. -/
  | parameter
  deriving Repr, DecidableEq

/-- Declarations up to the end of their setting; `active` holds the parameters around them.  The
fuel bounds the number of declarations, also of those that parameters stand for, and of the parts of
each. -/
def declarations : Nat → Setting → List (List Char) → Scan Unit
  | 0, _, _ => refuse
  | fuel + 1, setting, active => do
    let _ ← blanks
    match setting, ← rest with
    | .document, ']' :: _ => return ()
    | .parameter, [] => return ()
    | _, '%' :: s =>
      goOn s
      let name ← take name?
      mark ";"
      define fun d => { d with usesParameters := true }
      match (← definitions).parameters.lookup name with
      | none => undefinedEntity
      | some none => pure ()
      | some (some text) =>
        require (!active.contains name)
        let (_, spent) ← inside text (declarations fuel .parameter (name :: active))
        spend (byteSize text + spent)
      declarations fuel setting active
    | _, '<' :: _ =>
      declaration fuel
      declarations fuel setting active
    | _, _ => refuse

/-! ## §3. The document type declaration. -/

/-- What is left of a document type declaration after its opening mark. -/
def documentType : Scan Unit := do
  needBlanks
  let _ ← take name?
  let _ ← blanks
  let resource ← externalId true
  let _ ← blanks
  define fun d => { d with hasExternalSubset := resource.isGiven }
  if ← mark? "[" then
    -- The text of a parameter is no longer than the document.
    declarations ((depthLimit + 2) * ((← rest).length + 2)) .document []
    mark "]"
    let _ ← blanks
  mark ">"

/-- All that comes before the root element. -/
def prologue : Scan Unit := do
  misc ((← rest).length + 1)
  if ← mark? "<!DOCTYPE" then
    documentType
    misc ((← rest).length + 1)

end ScriptingBindings.Markup.Scan
