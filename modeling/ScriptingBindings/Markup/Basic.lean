/-
  ScriptingBindings.Markup.Basic
  ──────────────────────────────────
  **ELEMENTS.**

  The part of an XML document that a scripting dictionary uses: elements with
  attributes and child elements.  Names are expanded, so that a name in some
  namespace never equals a plain one.  Character data, comments and processing
  instructions say nothing in a dictionary and are not kept.
-/

namespace ScriptingBindings.Markup

/-! ## §1. Names and elements. -/

/-- An expanded name; `space` is the namespace and empty for a plain name. -/
structure Name where
  space : String := ""
  base : String
  deriving Repr, DecidableEq

/-- A name in no namespace. -/
def Name.plain (base : String) : Name := ⟨"", base⟩

/-- A name in the form `{namespace}base`, or just `base` without a namespace. -/
def Name.text (n : Name) : String :=
  if n.space.isEmpty then n.base else "\x7b" ++ n.space ++ "\x7d" ++ n.base

/-- An attribute with its value after all references are resolved. -/
structure Attribute where
  name : Name
  value : String
  deriving Repr, DecidableEq

/-- An element with its attributes and child elements in document order. -/
inductive Element where
  | mk (name : Name) (attributes : List Attribute) (children : List Element)

namespace Element

/-- The name of an element. -/
def name : Element → Name
  | mk n _ _ => n

/-- The attributes of an element. -/
def attributes : Element → List Attribute
  | mk _ as _ => as

/-- The child elements. -/
def children : Element → List Element
  | mk _ _ cs => cs

instance : Inhabited Element := ⟨mk ⟨"", ""⟩ [] []⟩

/-! ## §2. Descendants. -/

mutual

/-- The elements below an element in document order, without the element itself. -/
def descendants : Element → List Element
  | mk _ _ cs => listDescendants cs

/-- The elements of a list and all below them in document order. -/
def listDescendants : List Element → List Element
  | [] => []
  | e :: rest => e :: (descendants e ++ listDescendants rest)

end

/-! ## §3. Queries. -/

/-- Whether an element has a plain name. -/
def isNamed (base : String) (e : Element) : Bool :=
  e.name = Name.plain base

/-- The elements of a plain name anywhere below an element, in document order. -/
def allNamed (e : Element) (base : String) : List Element :=
  e.descendants.filter (isNamed base)

/-- The first element of a plain name below an element. -/
def firstNamed? (e : Element) (base : String) : Option Element :=
  e.descendants.find? (isNamed base)

/-- The child elements of a plain name. -/
def childrenNamed (e : Element) (base : String) : List Element :=
  e.children.filter (isNamed base)

/-- The value of a plain attribute. -/
def value? (e : Element) (base : String) : Option String :=
  (e.attributes.find? (fun a => a.name = Name.plain base)).map Attribute.value

/-- The value of a plain attribute, or the empty text. -/
def value (e : Element) (base : String) : String :=
  (e.value? base).getD ""

end Element

end ScriptingBindings.Markup
