/-
  ScriptingBindings.Proofs.Swift.Naming
  ──────────────────────────────────
  **STAGES WITH EVERY NAME MADE.**

  One stage after the other comes to what they come to one after the other:

      (x >>= f).made  =  x.made >>= fun a => (f a).made

  With this, each function that asks for names is unfolded into those that it
  calls, with every name made.
-/
import ScriptingBindings.Generation.Result
import ScriptingBindings.Proofs.Identifier.Memory
import ScriptingBindings.Proofs.Success

namespace ScriptingBindings.Swift

open Dictionary Identifier

variable {α β : Type}

/-! ## §1. Stages. -/

namespace Naming

@[simp] theorem made_pure (a : α) : (pure a : Naming α).made = .ok a := rfl

@[simp] theorem made_ofExcept (x : Except GenerationError α) : (ofExcept x).made = x := rfl

@[simp] theorem made_convert (c : Conversion) :
    (convert c).made = (sanitizer.convert c).mapError .ofRefusal := rfl

@[simp] theorem made_bind (x : Naming α) (f : α → Naming β) :
    (x >>= f).made = x.made >>= fun a => (f a).made := by
  show Asking.made sanitizer (x.run >>= ExceptT.bindCont f) = _
  rw [Asking.made_bind]
  show Asking.made sanitizer (ExceptT.bindCont f x.made) = _
  cases x.made with
  | ok a => rfl
  | error e => rfl

/-- What is made of the result of a stage comes last. -/
@[simp] theorem made_bind_pure (x : Naming α) (f : α → β) :
    (x >>= fun a => pure (f a)).made = x.made.map f := by
  rw [made_bind]
  cases x.made with
  | ok a => rfl
  | error e => rfl

@[simp] theorem made_ite {c : Prop} [Decidable c] (x y : Naming α) :
    (if c then x else y).made = if c then x.made else y.made :=
  apply_ite made c x y

@[simp] theorem made_mapM (f : α → Naming β) (as : List α) :
    (as.mapM f).made = as.mapM fun a => (f a).made := by
  induction as with
  | nil => rfl
  | cons a rest ih => simp only [List.mapM_cons, made_bind, ih, made_pure]; rfl

@[simp] theorem made_foldlM (f : β → α → Naming β) (b : β) (as : List α) :
    (as.foldlM f b).made = as.foldlM (fun b a => (f b a).made) b := by
  induction as generalizing b with
  | nil => rfl
  | cons a rest ih => simp only [List.foldlM_cons, made_bind, ih]

end Naming

namespace Stage

@[simp] theorem made_pure (a : α) : (pure a : Stage α).made = pure a := rfl

@[simp] theorem made_ofLogged (x : Logged α) : (ofLogged x).made = x := rfl

@[simp] theorem made_bind (x : Stage α) (f : α → Stage β) :
    (x >>= f).made = x.made >>= fun a => (f a).made := by
  exact (Asking.made_bind (α := Logged α) x _).trans (Asking.made_bind (α := Logged β) _ _)

@[simp] theorem made_ofNaming (x : Naming α) : (ofNaming x).made = pure x.made :=
  Asking.made_bind x.run _

/-- A stage that goes on after a failure goes on with what was made. -/
@[simp] theorem made_ofNaming_bind (x : Naming α) (f : Except GenerationError α → Stage β) :
    (ofNaming x >>= f).made = (f x.made).made := by
  rw [made_bind, made_ofNaming, pure_bind]

@[simp] theorem made_ite {c : Prop} [Decidable c] (x y : Stage α) :
    (if c then x else y).made = if c then x.made else y.made :=
  apply_ite made c x y

/-- **A stage comes to the same if names are kept**, and what is kept stays true. -/
theorem exists_recalled_eq {m : Memory} (h : m.IsSound sanitizer) (x : Stage α) :
    ∃ m' : Memory, m'.IsSound sanitizer ∧ x.recalled.run m = (x.made, m') := by
  obtain ⟨hmade, hsound⟩ := Asking.recalled_eq_made (α := Logged α) h x
  exact ⟨_, hsound, Prod.ext hmade rfl⟩

end Stage

namespace Declaring

@[simp] theorem made_pure (a : α) : (pure a : Declaring α).made = pure a := rfl

/-- A stage that goes on after a failure goes on with what was made. -/
theorem value_made_run (x : Declaring α) : (Stage.made x.run).value = x.made.outcome := rfl

@[simp] theorem made_ofRun (x : Run GenerationError α) : (ofRun x).made = x := rfl

@[simp] theorem made_ofExcept (x : Except GenerationError α) :
    (ofExcept x).made = Run.ofExcept x := rfl

@[simp] theorem made_ofNaming (x : Naming α) : (ofNaming x).made = Run.ofExcept x.made := by
  exact congrArg ExceptT.mk (Stage.made_ofNaming x)

@[simp] theorem made_bind (x : Declaring α) (f : α → Declaring β) :
    (x >>= f).made = x.made >>= fun a => (f a).made := by
  show ExceptT.mk (Stage.made (x.run >>= ExceptT.bindCont f)) = ExceptT.mk (x.made.run >>= _)
  rw [Stage.made_bind]
  refine congrArg ExceptT.mk (congrArg _ (funext fun r => ?_))
  cases r with
  | ok a => rfl
  | error e => rfl

@[simp] theorem made_ite {c : Prop} [Decidable c] (x y : Declaring α) :
    (if c then x else y).made = if c then x.made else y.made :=
  apply_ite made c x y

@[simp] theorem made_mapM (f : α → Declaring β) (as : List α) :
    (as.mapM f).made = as.mapM fun a => (f a).made := by
  induction as with
  | nil => rfl
  | cons a rest ih => simp only [List.mapM_cons, made_bind, ih, made_pure]

@[simp] theorem made_foldlM (f : β → α → Declaring β) (b : β) (as : List α) :
    (as.foldlM f b).made = as.foldlM (fun b a => (f b a).made) b := by
  induction as generalizing b with
  | nil => rfl
  | cons a rest ih => simp only [List.foldlM_cons, made_bind, ih]

end Declaring

/-! ## §2. Names. -/

namespace Names

variable (n : Names) (name : String)

theorem prefixed_eq : n.prefixed name
    = ((sanitizer.sanitize .pascal false name).map (n.basename ++ ·)).mapError .ofRefusal := by
  show (Naming.prefixed n name).made = _
  simp only [Naming.prefixed, Naming.made_bind_pure, Naming.made_convert, Sanitizer.convert]
  cases sanitizer.sanitize .pascal false name with
  | ok made => rfl
  | error e => rfl

theorem interfaceName_eq : n.interfaceName name
    = (n.prefixed name).map fun made => if n.isFixed made then made ++ "Class" else made := by
  unfold interfaceName Naming.interfaceName
  rw [Naming.made_bind_pure]
  rfl

theorem enumerationName_eq : n.enumerationName name
    = (n.prefixed name).map fun made =>
        if n.isFixed made && !n.isSaveOptions made then made ++ "Enum" else made := by
  unfold enumerationName Naming.enumerationName
  rw [Naming.made_bind_pure]
  rfl

variable {n name} in
theorem interfaceName_eq_ok {made : String} : n.interfaceName name = .ok made ↔
    ∃ start, n.prefixed name = .ok start ∧
      (if n.isFixed start then start ++ "Class" else start) = made := by
  rw [interfaceName_eq, map_eq_ok]

variable {n name} in
theorem enumerationName_eq_ok {made : String} : n.enumerationName name = .ok made ↔
    ∃ start, n.prefixed name = .ok start ∧
      (if n.isFixed start && !n.isSaveOptions start then start ++ "Enum" else start) = made := by
  rw [enumerationName_eq, map_eq_ok]

theorem reference_eq : n.reference name
    = match (n.types.get? name).or (n.types.get? (Text.lower name)) with
      | some known => .ok known
      | none => n.interfaceName name := by
  unfold reference Naming.reference
  cases (n.types.get? name).or (n.types.get? (Text.lower name)) with
  | some known => rfl
  | none => rfl

theorem member_eq :
    member name = (sanitizer.sanitize .camel true name).mapError .ofRefusal := by
  unfold member Naming.member
  rw [Naming.made_convert, Sanitizer.convert]

theorem accessor_eq : accessor name = member (Text.lower name ++ "s") := rfl

end Names

theorem mapBase_eq (overrides : OrderedMap Json) (names : Names) (base : String) :
    mapBase overrides names base
      = if Text.isAllBlank base.toList then .error (.unsupportedType base)
        else
          let head := String.ofList (base.toList.takeWhile (· != '.'))
          if base.toList.contains '.' && Text.lower head == dottedTextClass then
            (names.reference head).map .generated
          else
            match spelling? overrides head with
            | some v => .ok (.plain v)
            | none => (names.reference head).map .generated := by
  unfold mapBase Naming.mapBase
  rw [Naming.made_ite]
  refine if_congr Iff.rfl rfl ?_
  dsimp only
  rw [Naming.made_ite]
  refine if_congr Iff.rfl (Naming.made_bind_pure _ _) ?_
  cases spelling? overrides (String.ofList (base.toList.takeWhile (· != '.'))) with
  | some v => rfl
  | none => exact Naming.made_bind_pure _ _

theorem mapType_eq (overrides : OrderedMap Json) (names : Names) (t : Dictionary.ValueType) :
    mapType overrides names t = (mapBase overrides names t.base).map fun r =>
      let r := if t.isList then r.asList else r
      if t.isOptional then r.asOptional else r :=
  Naming.made_bind_pure _ _

/-! ## §3. Declarations. -/

section Declarations

variable (o : Options) (names : Names) (title : String)

theorem declareCases_cons (seen : List String) (e : Enumerator) (rest : List Enumerator) :
    declareCases title seen (e :: rest) = do
      let name ← Run.ofExcept (Names.member e.name)
      if seen.contains name then
        noteDuplicateCase e.name title
        declareCases title seen rest
      else
        let more ← declareCases title (name :: seen) rest
        return ⟨name, e.code, e.description⟩ :: more := by
  simp only [declareCases, Naming.declareCases, Declaring.made_bind, Declaring.made_ite,
    Declaring.made_ofNaming, Declaring.made_ofRun, Declaring.made_pure]
  rfl

theorem declareEnumeration_eq (e : Enumeration) : declareEnumeration names e = do
    let cases ← declareCases e.name [] e.enumerators
    let name ← Run.ofExcept (names.enumerationName e.name)
    return ⟨e.name, name, e.description, cases⟩ := by
  simp only [declareEnumeration, Naming.declareEnumeration, Declaring.made_bind,
    Declaring.made_ofNaming, Declaring.made_pure]
  rfl

theorem addProperty_eq (m : Members) (p : Property) : m.addProperty o names title p = do
    if p.name = identifierName then
      let type ← Run.ofExcept (mapBase o.overrides names p.type.base)
      return { m with identifier := some type.spelling, taken := identifierName :: m.taken }
    else
      let name ← Run.ofExcept (Names.member p.name)
      if m.taken.contains name then
        noteDuplicate name title
        return m
      else
        let type ← Run.ofExcept (mapType o.overrides names p.type)
        return { m with
          taken := name :: m.taken
          properties := m.properties ++ [⟨name, type.spelling, p.description⟩] } := by
  simp only [Members.addProperty, Naming.addProperty, Declaring.made_bind, Declaring.made_ite,
    Declaring.made_ofNaming, Declaring.made_ofRun, Declaring.made_pure]
  rfl

theorem declareAccessors_cons (taken : List String) (e : Dictionary.Element)
    (rest : List Dictionary.Element) : declareAccessors o names title taken (e :: rest) = do
      let name ← Run.ofExcept (Names.accessor e.type)
      if taken.contains name then
        noteDuplicate name title
        declareAccessors o names title taken rest
      else
        let type ← Run.ofExcept (names.reference e.type)
        let untyped := if o.typedAccessors then some (Names.untyped name) else none
        let more ← declareAccessors o names title (name :: taken) rest
        return ⟨name, untyped, e.type, type⟩ :: more := by
  simp only [declareAccessors, Naming.declareAccessors, Declaring.made_bind, Declaring.made_ite,
    Declaring.made_ofNaming, Declaring.made_ofRun, Declaring.made_pure]
  rfl

theorem declareSetter_eq (p : Property) : declareSetter o names p = do
    let parameter ← Names.member p.name
    let type ← mapType o.overrides names p.type
    return ⟨Names.setter p.name, parameter, type.spelling⟩ := by
  simp only [declareSetter, Naming.declareSetter, Naming.made_bind, Naming.made_pure]
  rfl

theorem declareSetters_cons (taken : List String) (p : Property) (rest : List Property) :
    declareSetters o names taken (p :: rest) =
      if p.isReadOnly then declareSetters o names taken rest
      else do
        let s ← declareSetter o names p
        if taken.contains s.name then declareSetters o names taken rest
        else
          let more ← declareSetters o names (s.name :: taken) rest
          return s :: more := by
  simp only [declareSetters, Naming.declareSetters, Naming.made_ite, Naming.made_bind,
    Naming.made_pure]
  rfl

theorem inheritanceOf_eq (interface : String) (c : Dictionary.Class) :
    inheritanceOf names interface c = do
      let basic ← basicInheritance names c
      match c.inherits with
      | some parent =>
        if parent.isEmpty then return basic
        else
          let parent ← names.reference parent
          if parent = interface || basic.contains parent then return basic
          else return basic ++ [parent]
      | none => return basic := by
  unfold inheritanceOf Naming.inheritanceOf
  rw [Naming.made_bind]
  refine congrArg _ (funext fun basic => ?_)
  cases c.inherits with
  | none => rfl
  | some parent =>
    simp only [Naming.made_ite, Naming.made_bind, Naming.made_pure]
    rfl

theorem declareClass_eq (c : Dictionary.Class) : declareClass o names c = do
    let interface ← Run.ofExcept (names.interfaceName c.name)
    let inheritance ← Run.ofExcept (inheritanceOf names interface c)
    let members ← c.properties.foldlM (Members.addProperty o names c.name) {}
    let accessors ← declareAccessors o names c.name members.taken c.elements
    let taken := accessors.flatMap AccessorDeclaration.taken ++ members.taken
    let setters ← Run.ofExcept (declareSetters o names taken c.properties)
    return {
      title := c.name
      name := interface
      description := c.description
      inheritance := inheritance
      properties := members.properties
      identifier := members.identifier
      accessors := accessors
      setters := setters } := by
  simp only [declareClass, Naming.declareClass, Declaring.made_bind, Declaring.made_foldlM,
    Declaring.made_ofNaming, Declaring.made_pure]
  rfl

theorem declareTypedAccessors_eq (c : Dictionary.Class) : declareTypedAccessors o names c = do
    let own := c.properties.filter (fun p => p.name != identifierName)
    let taken ← Run.ofExcept (own.mapM (fun p => Names.member p.name))
    let accessors ← declareAccessors o names c.name taken c.elements
    if accessors.isEmpty then return none
    else
      let name ← Run.ofExcept (names.interfaceName c.name)
      return some ⟨c.name, name, accessors⟩ := by
  simp only [declareTypedAccessors, Naming.declareTypedAccessors, Declaring.made_bind,
    Declaring.made_ite, Declaring.made_ofNaming, Naming.made_mapM, Declaring.made_pure]
  rfl

theorem declareClassNames_cons (seen : List String) (c : Dictionary.Class)
    (rest : List Dictionary.Class) : declareClassNames seen (c :: rest) = do
      let name ← Names.member c.name
      if seen.contains name then declareClassNames seen rest
      else
        let more ← declareClassNames (name :: seen) rest
        return ⟨name, c.name⟩ :: more := by
  simp only [declareClassNames, Naming.declareClassNames, Naming.made_ite, Naming.made_bind,
    Naming.made_pure]
  rfl

end Declarations

/-! ## §4. Whole files. -/

section Files

variable (o : Options) (names : Names)

theorem chooseClasses_cons (seen : List String) (c : Dictionary.Class)
    (rest : List Dictionary.Class) : chooseClasses names seen (c :: rest) =
      match names.interfaceName c.name with
      | .error e => return .error e
      | .ok name =>
        if seen.contains name then do
          noteChoice .debug ("Skipping duplicate class '" ++ c.name ++ "'")
          chooseClasses names seen rest
        else do
          let more ← chooseClasses names (name :: seen) rest
          return more.map (c :: ·) := by
  show (Naming.chooseClasses names seen (c :: rest)).made = _
  rw [Naming.chooseClasses, Stage.made_ofNaming_bind, ← Names.interfaceName]
  cases names.interfaceName c.name with
  | error e => rfl
  | ok name =>
    simp only [Stage.made_ite, Stage.made_bind, Stage.made_ofLogged, Stage.made_pure]
    rfl

theorem chooseEnumerations_cons (seen : List String) (e : Enumeration)
    (rest : List Enumeration) : chooseEnumerations names seen (e :: rest) =
      match names.enumerationName e.name with
      | .error failure => return (names, .error failure)
      | .ok type =>
        let names := names.noteSaveOptions e.name type
        if seen.contains type then do
          noteChoice .debug ("Skipping duplicate enumeration '" ++ e.name ++ "'")
          chooseEnumerations names seen rest
        else if e.enumerators.isEmpty then
          if names.empties.contains e.name then chooseEnumerations names seen rest
          else do
            noteChoice .warning ("Skipping enumeration '" ++ e.name ++ "': it has no enumerators")
            chooseEnumerations { names with empties := names.empties ++ [e.name] } seen rest
        else do
          let (names, more) ← chooseEnumerations names (type :: seen) rest
          return (names, more.map (e :: ·)) := by
  show (Naming.chooseEnumerations names seen (e :: rest)).made = _
  rw [Naming.chooseEnumerations, Stage.made_ofNaming_bind, ← Names.enumerationName]
  cases names.enumerationName e.name with
  | error failure => rfl
  | ok type =>
    simp only [Stage.made_ite, Stage.made_bind, Stage.made_ofLogged, Stage.made_pure]
    rfl

theorem registerAll_eq (p : Plan) : names.registerAll p = do
    let n ← p.enumerations.foldlM (fun (n : Names) e => do
      return n.register e.name (← n.enumerationName e.name)) names
    let n ← p.classes.foldlM (fun (n : Names) c => do
      return n.register c.name (← n.interfaceName c.name)) n
    return n.empties.foldl (fun n name => n.register name emptyEnumerationType) n := by
  simp only [Names.registerAll, Naming.registerAll, Naming.made_bind, Naming.made_foldlM,
    Naming.made_pure]
  rfl

theorem plan_eq (d : Dictionary) (basename : String) : plan d basename = do
    let start := Names.start basename
    match ← chooseClasses start [] d.classes with
    | .error e => return (start, .error e)
    | .ok classes =>
      let (names, enumerations) ←
        chooseEnumerations start [(FixedNames.of basename).saveOptions] d.enumerations
      match enumerations with
      | .error e => return (names, .error e)
      | .ok enumerations =>
        let p : Plan := ⟨classes, enumerations⟩
        match names.registerAll p with
        | .ok names => return (names, .ok p)
        | .error e => return (names, .error e) := by
  unfold plan Naming.plan
  rw [Stage.made_bind]
  refine congrArg _ (funext fun classes => ?_)
  cases classes with
  | error e => rfl
  | ok classes =>
    dsimp only
    rw [Stage.made_bind]
    refine congrArg _ (funext fun chosen => ?_)
    obtain ⟨known, enumerations⟩ := chosen
    cases enumerations with
    | error e => rfl
    | ok enumerations =>
      dsimp only
      rw [Stage.made_ofNaming_bind, ← Names.registerAll]
      cases known.registerAll ⟨classes, enumerations⟩ with
      | ok known => rfl
      | error e => rfl

theorem enumerationText_eq (e : Enumeration) : enumerationText o names e
    = declareEnumeration names e >>= fun declaration =>
        Run.ofExcept (declaration.text o.addComments) := by
  simp only [enumerationText, Naming.enumerationText, Declaring.made_bind,
    Declaring.made_ofExcept]
  rfl

theorem classText_eq (c : Dictionary.Class) : classText o names c
    = declareClass o names c >>= fun declaration =>
        Run.ofExcept (declaration.text o.addComments) := by
  simp only [classText, Naming.classText, Declaring.made_bind, Declaring.made_ofExcept]
  rfl

variable {o names} in
theorem enumerationText_eq_ok {e : Enumeration} {text : String} :
    (enumerationText o names e).outcome = .ok text ↔
      ∃ declaration, (declareEnumeration names e).outcome = .ok declaration ∧
        declaration.text o.addComments = .ok text := by
  rw [enumerationText_eq, Run.outcome_bind_eq_ok]
  exact Iff.rfl

variable {o names} in
theorem classText_eq_ok {c : Dictionary.Class} {text : String} :
    (classText o names c).outcome = .ok text ↔
      ∃ declaration, (declareClass o names c).outcome = .ok declaration ∧
        declaration.text o.addComments = .ok text := by
  rw [classText_eq, Run.outcome_bind_eq_ok]
  exact Iff.rfl

theorem typedAccessorsPart_eq (classes : List Dictionary.Class) :
    typedAccessorsPart o names classes =
      if o.typedAccessors then do
        let declared ← classes.mapM (declareTypedAccessors o names)
        match declared.filterMap id with
        | [] => return []
        | ts =>
          let text ← Run.ofExcept (typedAccessorsText o.addComments ts)
          return [text]
      else return [] := by
  unfold typedAccessorsPart Naming.typedAccessorsPart
  rw [Declaring.made_ite, Declaring.made_bind, Declaring.made_mapM]
  refine if_congr Iff.rfl (congrArg _ (funext fun declared => ?_)) rfl
  cases declared.filterMap id with
  | nil => rfl
  | cons t ts => exact Declaring.made_bind _ _

theorem classNamesPart_eq (f : FixedNames) (classes : List Dictionary.Class) :
    classNamesPart o f classes =
      if o.classNames then do
        let entries ← declareClassNames [] classes
        return [← classNamesText o.addComments f entries]
      else return [] := by
  simp only [classNamesPart, Naming.classNamesPart, Naming.made_ite, Naming.made_bind,
    Naming.made_ofExcept, Naming.made_pure]
  rfl

theorem parts_eq (basename : String) (p : Plan) : parts o names basename p = do
    let f := FixedNames.of basename
    let header ← Run.ofExcept (headerText basename o.imports f)
    let standard ← Run.ofExcept (standardText o.addComments f)
    let enumerations ← p.enumerations.mapM (enumerationText o names)
    let enumerationNames ←
      Run.ofExcept (p.enumerations.mapM (fun e => names.enumerationName e.name))
    let classes ← p.classes.mapM (classText o names)
    let protocols ← Run.ofExcept (p.classes.mapM (fun c => names.interfaceName c.name))
    let typed ← typedAccessorsPart o names p.classes
    let classNames ← Run.ofExcept (classNamesPart o f p.classes)
    let application ←
      Run.ofExcept (applicationText o.addComments f o.bundleIdentifier names.applicationFunction)
    let bindings ← Run.ofExcept (bindingsText protocols f)
    let aliases ← Run.ofExcept (aliasesPart o basename f (enumerationNames ++ protocols))
    noteParts basename p
    return [header, standard] ++ enumerations ++ classes ++ typed ++ classNames
      ++ [application, bindings] ++ aliases := by
  simp only [parts, Naming.parts, Declaring.made_bind, Declaring.made_mapM,
    Declaring.made_ofNaming, Declaring.made_ofExcept, Declaring.made_ofRun, Naming.made_mapM,
    Declaring.made_pure]
  rfl

theorem generate_eq (d : Dictionary) (basename : String) : generate o d basename = do
    let (names, p) ← plan d basename
    match p with
    | .error e => return (names, .error e)
    | .ok p =>
      let written ← (parts o names basename p).logged
      return (names, written.map joinParts) := by
  unfold generate Naming.generate
  rw [Stage.made_bind]
  refine congrArg _ (funext fun planned => ?_)
  obtain ⟨known, p⟩ := planned
  cases p with
  | error e => rfl
  | ok p => exact Stage.made_bind _ _

end Files

end ScriptingBindings.Swift

namespace ScriptingBindings.Generator

open Dictionary

/-! ## §5. Generations. -/

theorem generate_eq [Machine] (g : Generator) (d : Dictionary) (basename : String) :
    g.generate d basename =
      match Generation.check d with
      | .error e => do
        let result ← fail basename e
        return (g, result)
      | .ok warnings => do
        let (names, code) ← Swift.generate g.options d basename
        let g := { g with names := names }
        match code with
        | .error e => do
          let result ← fail basename e
          return (g, result)
        | .ok code =>
          return (g, (g.layOut code).map (g.finish d basename warnings)) := by
  unfold generate generation
  cases Generation.check d with
  | error e => exact Swift.Stage.made_bind _ _
  | ok warnings =>
    refine (Swift.Stage.made_bind _ _).trans (congrArg _ (funext fun written => ?_))
    obtain ⟨names, code⟩ := written
    cases code with
    | error e => exact Swift.Stage.made_bind _ _
    | ok code => rfl

end ScriptingBindings.Generator
