/-
  ScriptingBindings.Markup.Tag
  ──────────────────────────────────
  **TAGS AND NAMESPACES.**

  The start of an element has a name and attributes.  Some attributes bind
  prefixes to namespaces, in the element and inside it.  A prefix that is
  bound to nothing is a fault, and so is a second attribute of one expanded
  name; one of the same written name is worse.
-/
import ScriptingBindings.Markup.Basic
import ScriptingBindings.Markup.Locator
import ScriptingBindings.Markup.Value

namespace ScriptingBindings.Markup

/-! ## §1. Names. -/

/-- A name with a prefix, which is empty if there is none. -/
structure QualifiedName where
  label : List Char := []
  base : List Char
  deriving Repr, DecidableEq

/-- A name as it is written. -/
def QualifiedName.written (q : QualifiedName) : List Char :=
  if q.label.isEmpty then q.base else q.label ++ ':' :: q.base

/-- A name with at most one colon, which stands inside it, and the text after it. -/
def QualifiedName.read? (s : List Char) : Option (QualifiedName × List Char) :=
  match baseName? s with
  | some (label, ':' :: more) =>
    match baseName? more with
    | some (base, rest) => if rest.head? = some ':' then none else some (⟨label, base⟩, rest)
    | none => none
  | some (base, rest) => some (⟨[], base⟩, rest)
  | none => none

/-- The prefix of namespaces themselves. -/
def bindingLabel : List Char := "xmlns".toList

/-- The prefix that needs no binding. -/
def xmlLabel : List Char := "xml".toList

/-- The namespace of the prefix `xml`. -/
def xmlSpace : String := "http://www.w3.org/XML/1998/namespace"

/-- The namespace of the bindings themselves. -/
def bindingSpace : String := "http://www.w3.org/2000/xmlns/"

/-- What an attribute binds: a prefix, or the empty one. -/
def QualifiedName.bound? (q : QualifiedName) : Option (List Char) :=
  if q.label.isEmpty && q.base = bindingLabel then some []
  else if q.label = bindingLabel then some q.base
  else none

/-! ## §2. Scopes. -/

/-- The namespaces in scope, the innermost binding of a prefix first. -/
abbrev Scope := List (List Char × String)

/-- The scope outside of all elements. -/
def outermostScope : Scope :=
  [(xmlLabel, xmlSpace)]

/-- The namespace of an attribute; the one without a prefix does not apply to it. -/
def Scope.ofAttribute? (scope : Scope) (q : QualifiedName) : Option String :=
  if q.label.isEmpty then some "" else scope.lookup q.label

/-- The expanded name of an element.  Without a namespace the prefix is part of the name. -/
def Scope.elementName (scope : Scope) (q : QualifiedName) : Name :=
  match scope.lookup q.label with
  | some space => ⟨space, String.ofList q.base⟩
  | none => ⟨"", String.ofList q.written⟩

/-- The expanded name of an attribute. -/
def Scope.attributeName (scope : Scope) (q : QualifiedName) : Name :=
  match scope.ofAttribute? q with
  | some space => ⟨space, String.ofList q.base⟩
  | none => ⟨"", String.ofList q.written⟩

/-- The bindings of an element: the scope inside it, and the prefixes that it binds itself. -/
structure Bindings where
  scope : Scope
  own : List (List Char) := []

/-- An attribute of a tag. -/
structure WrittenAttribute where
  name : QualifiedName
  value : Value

namespace Scan

/-- A qualified name.  One with other colons is a fault, and has no prefix. -/
def qualifiedName : Scan QualifiedName := do
  match QualifiedName.read? (← rest) with
  | some (q, s) =>
    goOn s
    return q
  | none =>
    let base ← take name?
    fault
    return ⟨[], base⟩

/-! ## §3. Bindings. -/

/-- Bind a prefix that the element does not bind yet. -/
def bind (b : Bindings) (label : List Char) (space : String) : Scan Bindings := do
  require (!b.own.contains label)
  return ⟨(label, space) :: b.scope, label :: b.own⟩

/-- Bind a prefix, or nothing if it is a fault to bind it. -/
def bindLegal (b : Bindings) (label space : List Char) : Scan Bindings := do
  let name := String.ofList space
  if label = xmlLabel then
    faultIf (name != xmlSpace)
    return b
  else if name = xmlSpace || label = bindingLabel || name = bindingSpace
      || (space.isEmpty && !label.isEmpty) then
    fault
    return b
  else
    faultIf (!Locator.isLocator space && !space.isEmpty)
    bind b label name

/-- Bind what an attribute binds.  The name of the namespace for no prefix should be absolute. -/
def bindWritten (b : Bindings) (label space : List Char) : Scan Bindings := do
  if label.isEmpty && Locator.isRelative space && !Locator.isAbsolute space && !space.isEmpty then
    warn
  bindLegal b label space

/-- Bind what default values bind, unless the element binds it itself. -/
def bindDefaults (b : Bindings) (defaults : List WrittenAttribute) : Scan Bindings :=
  defaults.foldlM (fun b a => do
    match a.name.bound? with
    | none => return b
    | some label =>
      spend (byteSize a.name.written + byteSize a.value.written)
      if b.own.contains label then return b
      else bind b label (String.ofList a.value.written)) b

/-! ## §4. Attributes. -/

/-- The legal values of `xml:space`. -/
def spaceValues : List (List Char) :=
  ["default".toList, "preserve".toList]

/-- An attribute of an element, as it is written. -/
def writtenAttribute (element : List Char) : Scan WrittenAttribute := do
  let name ← qualifiedName
  let _ ← blanks
  mark "="
  let _ ← blanks
  let v ← value false
  let type := ((← definitions).attribute? element name.written).elim .text (·.type)
  let v := if type = .text then v else v.normalized
  if name = ⟨xmlLabel, "space".toList⟩ && !v.chars?.any spaceValues.contains then warn
  return ⟨name, v⟩

/-- The attributes of an element with its bindings, the last attribute first.  The fuel is the
number of attributes. -/
def writtenAttributes (element : List Char) (b : Bindings) (read : List WrittenAttribute) :
    Nat → Scan (Bindings × List WrittenAttribute)
  | 0 => refuse
  | fuel + 1 => do
    match ← rest with
    | [] | '>' :: _ | '/' :: '>' :: _ => return (b, read)
    | _ =>
      let a ← writtenAttribute element
      let (b, read) ←
        match a.name.bound? with
        | some label =>
          let d ← definitions
          pure (← bindWritten b label (d.resolve a.value), read)
        | none => pure (b, a :: read)
      match ← rest with
      | '>' :: _ | '/' :: '>' :: _ => return (b, read)
      | _ =>
        needBlanks
        writtenAttributes element b read fuel

/-- Remarks about an attribute behind others.  One without a namespace is taken for one without a
prefix.  Whether the attribute is new. -/
def checkAttribute (scope : Scope) (before : List QualifiedName) (q : QualifiedName) :
    Scan Bool := do
  let space (q : QualifiedName) := (scope.ofAttribute? q).getD ""
  match before.find? (fun p => p.base = q.base && space p = space q) with
  | none => return true
  | some p =>
    if p.label = q.label then return false
    else
      fault
      return true

/-- Remarks about the attributes of an element. -/
def checkAttributes (scope : Scope) (names : List QualifiedName) : Scan Unit := do
  for q in names do
    faultIf (scope.ofAttribute? q).isNone
  let _ ← names.foldlM (fun before q => do
    require (← checkAttribute scope before q)
    return q :: before) []

/-- Remarks about the default values of attributes of an element. -/
def checkDefaults (scope : Scope) (names : List QualifiedName) (defaults : List WrittenAttribute) :
    Scan Unit := do
  let _ ← defaults.foldlM (fun before a => do
    if a.name.bound?.isSome then return before
    else
      faultIf (scope.ofAttribute? a.name).isNone
      if ← checkAttribute scope before a.name then
        spend (byteSize a.name.written + byteSize a.value.written)
        return a.name :: before
      else return before) names

/-! ## §5. Identities. -/

/-- Whether a text is a name without a colon, with blanks around it. -/
def isSpacedName (s : List Char) : Bool :=
  match baseName? (skipSpace s) with
  | some (_, rest) => (skipSpace rest).isEmpty
  | none => false

/-- Give an element a name that no other has. -/
def identify (name : List Char) : Scan Unit := do
  let p ← get
  if name.isEmpty || p.identities.contains name then fault
  else set { p with identities := name :: p.identities }

/-- Take account of an attribute of an element: it may name the element, and the entities that it
refers to are read now.  A value with references names nothing, and neither does one inside an
entity. -/
def settle (element : List Char) (a : WrittenAttribute) : Scan Unit := do
  define fun d => a.value.references.foldl (fun d name => d.markParsed (d.entities.length + 1) name) d
  match a.value.chars? with
  | none => return ()
  | some chars =>
    if (← get).depth ≠ 0 then return ()
    else if a.name = ⟨xmlLabel, "id".toList⟩ then
      faultIf (!isSpacedName chars)
      identify chars
    else
      let type := ((← definitions).attribute? element a.name.written).map (·.type)
      if type = some .identity then identify chars

/-! ## §6. Tags. -/

/-- The start of an element. -/
structure Tag where
  /-- The name as written, which the end of the element has to repeat. -/
  written : List Char
  name : Name
  attributes : List Attribute
  scope : Scope

/-- A name with at most one colon that separates something from something. -/
def splitDefault (name : List Char) : QualifiedName :=
  match QualifiedName.read? name with
  | some (q, []) => q
  | _ => ⟨[], name⟩

/-- The default values of the attributes of an element. -/
def defaultsOf (d : Definitions) (element : List Char) : List WrittenAttribute :=
  (d.attributesOf element).filterMap fun a =>
    a.value.map fun value => ⟨splitDefault a.name, .ofChars value⟩

/-- The legal default values of an element that an attribute of its own does not hide. -/
def defaultAttributes (d : Definitions) (element : List Char) (own : List Attribute) :
    List Attribute :=
  (d.attributesOf element).filterMap fun a =>
    let name := Name.plain (String.ofList a.name)
    match a.value with
    | some value =>
      if a.isLegal && !own.any (·.name = name) then some ⟨name, String.ofList value⟩ else none
    | none => none

/-- The start of an element after its opening bracket, up to its end.  The fuel is the number of
attributes. -/
def tag (scope : Scope) (fuel : Nat) : Scan Tag := do
  let q ← qualifiedName
  let element := q.written
  let _ ← blanks
  let (b, read) ← writtenAttributes element { scope } [] fuel
  let given := read.reverse
  let defaults := defaultsOf (← definitions) element
  let b ← bindDefaults b defaults
  let names := given.map (·.name)
  checkAttributes b.scope names
  checkDefaults b.scope names defaults
  faultIf (!q.label.isEmpty && (b.scope.lookup q.label).isNone)
  for a in given do
    settle element a
  let d ← definitions
  let own : List Attribute := given.map fun a =>
    ⟨b.scope.attributeName a.name, String.ofList (d.resolve a.value)⟩
  return ⟨element, b.scope.elementName q, own ++ defaultAttributes d element own, b.scope⟩

end Scan

end ScriptingBindings.Markup
