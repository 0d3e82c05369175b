/-
  ScriptingBindings.Markup.Reader
  ──────────────────────────────────
  **READING A DOCUMENT.**

  A document is a prologue, one element and nothing after it but comments and
  instructions.  Whatever is not well-formed is refused as a whole.  An
  element inside the text of an entity has to be well-formed too, but is not
  part of the tree.
-/
import ScriptingBindings.Markup.Encoding
import ScriptingBindings.Markup.Prologue
import ScriptingBindings.Markup.Tag

namespace ScriptingBindings.Markup

namespace Scan

/-! ## §1. Content. -/

/-- Where content stands. -/
structure Place where
  /-- The namespaces in scope. -/
  scope : Scope := outermostScope
  /-- The number of elements around. -/
  level : Nat := 0

/-- The most elements one inside the other; the text of an entity counts for one. -/
def levelLimit : Nat := 256

/-- Character data. -/
def characters : Scan Unit := do
  let (data, s) := (← rest).span (fun c => c != '<' && c != '&')
  require (!hasMark "]]>".toList data)
  goOn s

mutual

/-- The elements among content, after those that were read, the last one first.  The end of the
text is legal here; whoever needs an end tag looks for it. -/
def content (place : Place) (read : List Element) : Nat → Scan (List Element)
  | 0 => refuse
  | fuel + 1 => do
    characters
    match ← rest with
    | [] | '<' :: '/' :: _ => return read.reverse
    | '&' :: s =>
      goOn s
      reference place fuel
      content place read fuel
    | _ =>
      if ← mark? "<?" then
        instruction
        content place read fuel
      else if ← mark? "<!--" then
        comment
        content place read fuel
      else if ← mark? "<![CDATA[" then
        let _ ← upTo "]]>"
        content place read fuel
      else
        mark "<"
        let e ← element place fuel
        content place (e :: read) fuel

/-- A reference in content, after its first character.  The text of an entity is read where it is
referred to for the first time, and outside of all namespaces. -/
def reference (place : Place) : Nat → Scan Unit
  | 0 => refuse
  | fuel + 1 => do
    match ← take referenceAt? with
    | .char _ | .charRef _ => return ()
    | .entityRef name =>
      match ← referent false name with
      | .char _ | .unknown => return ()
      | .entity e =>
        if e.content = .external then return ()
        else
          if !e.isParsed then
            require (!e.isOpen && place.level < levelLimit)
            update name (fun e => { e with isOpen := true })
            let (_, spent) ← inside e.text (content { level := place.level + 1 } [] fuel)
            update name (fun e =>
              { e with
                isOpen := false
                isParsed := true
                size := if e.isChecked then e.size else byteSize e.text + spent })
          spend (((← definitions).entities.lookup name).elim 0 Entity.size)

/-- An element after its opening bracket. -/
def element (place : Place) : Nat → Scan Element
  | 0 => refuse
  | fuel + 1 => do
    require (place.level < levelLimit)
    let t ← tag place.scope (fuel + 1)
    if ← mark? "/>" then return .mk t.name t.attributes []
    else
      mark ">"
      let children ← content ⟨t.scope, place.level + 1⟩ [] fuel
      mark "</"
      mark (String.ofList t.written)
      let _ ← blanks
      mark ">"
      return .mk t.name t.attributes children

end

/-! ## §2. Documents. -/

/-- A document after its declaration. -/
def document : Scan Element := do
  -- The text of an entity is no longer than the document, and two steps take something off it.
  let fuel := 2 * (depthLimit + 2) * ((← rest).length + 2)
  prologue
  mark "<"
  let root ← element {} fuel
  misc ((← rest).length + 1)
  require (← rest).isEmpty
  return root

end Scan

/-- The root element of a document, if the document is accepted. -/
def read? (content : Content) : Option Element := do
  let (declaration, s) ← decoded? content
  let start : Progress :=
    { rest := s, total := byteSize s, isStandalone := declaration.standalone }
  let (root, p) ← Scan.document.run start
  if p.remarks.endsInFault then none else return root

end ScriptingBindings.Markup
