/-
  ScriptingBindings.Template.Store
  ──────────────────────────────────
  **NAMED TEMPLATES.**

  Templates are kept by name in one place.  A name may be written as a path;
  its empty parts and single dots do not count, and double dots are refused.
-/
import ScriptingBindings.Template.Basic

namespace ScriptingBindings.Template

/-- Where templates are kept. -/
inductive Store where
  /-- There are none at all. -/
  | empty
  /-- Templates by file name, all in one directory. -/
  | directory (templates : List (String × Template))

/-- Why there is no text. -/
inductive Cause where
  /-- The name leads outside, or there are no templates. -/
  | unknown
  /-- There is no template of that name. -/
  | notFound
  /-- The template cannot be filled. -/
  | fault (f : Fault)
  deriving Repr, DecidableEq

/-- A template that gave no text, and why. -/
structure RenderError where
  template : String
  cause : Cause
  deriving Repr, DecidableEq

/-- The words for a template that gave no text. -/
def RenderError.message (e : RenderError) : String :=
  "Template rendering failed: " ++ e.template ++ ": " ++
    match e.cause with
    | .unknown => e.template
    | .notFound => Text.quoted e.template ++ " not found"
    | .fault f => f.message

/-- The parts of a name that count. -/
def nameParts (name : String) : List String :=
  ((Text.cutAt '/' name.toList).map String.ofList).filter (fun part => part != "" && part != ".")

/-- The template of a name. -/
def Store.find (s : Store) (name : String) : Except Cause Template :=
  match s with
  | .empty => .error .unknown
  | .directory templates =>
    let parts := nameParts name
    if parts.contains ".." then .error .unknown
    else
      match templates.lookup ("/".intercalate parts) with
      | some t => .ok t
      | none => .error .notFound

/-- The name that no value can be given under, since it stands for the template itself. -/
def reservedName : String := "self"

/-- The text of the template of a name. -/
def Store.render (s : Store) (name : String) (values : Scope) : Except RenderError String := do
  let t ← (s.find name).mapError (⟨name, ·⟩)
  if values.has reservedName then throw ⟨name, .fault (.misuse .wrongKind)⟩
  else (t.fill values).mapError (fun f => ⟨name, .fault f⟩)

end ScriptingBindings.Template
