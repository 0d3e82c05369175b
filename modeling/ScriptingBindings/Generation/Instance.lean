/-
  ScriptingBindings.Generation.Instance
  ──────────────────────────────────
  **A GENERATOR THAT LIVES ON.**

  One generator can be asked for many things, one after the other: for files,
  for the declaration of a single class or enumeration, for types and for
  names.  It keeps the names of its last file and every identifier that its
  sanitizer made.
-/
import ScriptingBindings.Generation.Result

namespace ScriptingBindings

open Dictionary Identifier

/-! ## §1. Calls. -/

/-- What a generator can be asked for. -/
inductive Call where
  /-- The code for a merged dictionary. -/
  | generate (d : Dictionary) (basename : String)
  /-- The warnings about a dictionary. -/
  | check (d : Dictionary)
  /-- The text of the protocol of a class. -/
  | protocol (c : Dictionary.Class)
  /-- The text of an enumeration. -/
  | enumeration (e : Enumeration)
  /-- The reference for a type. -/
  | typeRef (t : ValueType)
  /-- The name of the protocol of a class. -/
  | interfaceName (name : String)
  /-- The name of an enumeration. -/
  | enumerationName (name : String)
  /-- The type that a name refers to. -/
  | reference (name : String)
  /-- The name of a member. -/
  | member (name : String)
  /-- The name of an accessor. -/
  | accessor (type : String)
  /-- The name of the untyped accessor behind a typed one. -/
  | untyped (accessor : String)
  /-- The name of a setter. -/
  | setter (property : String)
  /-- The name of the function that reaches the application. -/
  | applicationFunction
  /-- An identifier, from the sanitizer itself. -/
  | convert (c : Conversion)

/-- What a generator answers. -/
inductive Answer where
  | generated (result : Except Misuse Generated)
  | warnings (result : Except GenerationError (List String))
  | text (result : Except GenerationError String)
  | type (result : Except GenerationError Swift.TypeRef)
  | identifier (result : Except Refusal String)

/-! ## §2. One call. -/

namespace Generator

variable [Machine]

/-- The stage that answers a call. -/
def respond (g : Generator) : Call → Swift.Stage (Generator × Answer)
  | .generate d basename => do
    let (g, result) ← g.generation d basename
    return (g, .generated result)
  | .check d => return (g, .warnings (Generation.check d))
  | .protocol c => do return (g, .text (← (Swift.Naming.classText g.options g.names c).run))
  | .enumeration e => do
    return (g, .text (← (Swift.Naming.enumerationText g.options g.names e).run))
  | .typeRef t => do
    return (g, .type (← .ofNaming (Swift.Naming.mapType g.options.overrides g.names t)))
  | .interfaceName name => do
    return (g, .text (← .ofNaming (Swift.Naming.interfaceName g.names name)))
  | .enumerationName name => do
    return (g, .text (← .ofNaming (Swift.Naming.enumerationName g.names name)))
  | .reference name => do return (g, .text (← .ofNaming (Swift.Naming.reference g.names name)))
  | .member name => do return (g, .text (← .ofNaming (Swift.Naming.member name)))
  | .accessor type => do return (g, .text (← .ofNaming (Swift.Naming.accessor type)))
  | .untyped accessor => return (g, .text (.ok (Swift.Names.untyped accessor)))
  | .setter property => return (g, .text (.ok (Swift.Names.setter property)))
  | .applicationFunction => return (g, .text (.ok g.names.applicationFunction))
  | .convert c => do return (g, .identifier (← LoggedT.ofStage (.ask c .done)))

end Generator

/-! ## §3. Many calls. -/

/-- A generator together with what its sanitizer remembers. -/
structure Instance where
  generator : Generator
  memory : Memory := []

namespace Instance

variable [Machine]

/-- A generator with some options, before its first call. -/
def new (o : Swift.Options) : Instance where
  generator := { options := o }

/-- A generator for a configuration, before its first call. -/
def ofConfig (c : Config) : Except Misuse Instance :=
  (Swift.Options.ofConfig c).map new

/-- Answer a call with the identifiers that are kept, and keep those that are new. -/
def call (i : Instance) (c : Call) : Logged (Instance × Answer) := do
  let (answered, memory) := (i.generator.respond c).recalled.run i.memory
  let (g, answer) ← answered
  return (⟨g, memory⟩, answer)

/-- Answer calls one after the other. -/
def callAll (i : Instance) : List Call → Logged (Instance × List Answer)
  | [] => return (i, [])
  | c :: rest => do
    let (i, answer) ← i.call c
    let (i, answers) ← i.callAll rest
    return (i, answer :: answers)

end Instance

end ScriptingBindings
