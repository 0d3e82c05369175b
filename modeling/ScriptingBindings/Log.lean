/-
  ScriptingBindings.Log
  ──────────────────────────────────
  **LOG RECORDS AS VALUES.**

  A stage of the program returns its value together with the records it
  leaves, in order.  A stage that can fail keeps the records that it left
  before failing, so failure sits inside the value:

      Run ε α = Logged (Except ε α)
-/

namespace ScriptingBindings

/-! ## §1. Records. -/

/-- The severity of a record. -/
inductive Level where
  /-- Steps of interest while looking for a fault. -/
  | debug
  /-- Milestones. -/
  | info
  /-- Something was skipped or replaced. -/
  | warning
  /-- Something failed. -/
  | error
  deriving Repr, DecidableEq

namespace Level

/-- The number by which levels are compared. -/
def rank : Level → Nat
  | debug => 10
  | info => 20
  | warning => 30
  | error => 40

/-- The name of a level in a log file. -/
def label : Level → String
  | debug => "DEBUG"
  | info => "INFO"
  | warning => "WARNING"
  | error => "ERROR"

/-- The lowest level to record for the two verbosity switches. -/
def ofSwitches (verbose debugging : Bool) : Level :=
  if debugging then debug else if verbose then info else warning

end Level

/-- The part of the program that left a record. -/
inductive Component where
  | source
  | reader
  | catalog
  | merge
  | build
  | output
  | emission
  | swift
  | command
  deriving Repr, DecidableEq

/-- The name at the root of every logger. -/
def loggerRoot : String := "sdef_explorer"

/-- The logger's name of a component. -/
def Component.loggerName : Component → String
  | .source => loggerRoot ++ ".utils"
  | .reader => loggerRoot ++ ".parser"
  | .catalog => loggerRoot ++ ".includes"
  | .merge => loggerRoot ++ ".merge"
  | .build => loggerRoot ++ ".pipeline"
  | .output => loggerRoot ++ ".codegen"
  | .emission => loggerRoot ++ ".codegen.core.generator"
  | .swift => loggerRoot ++ ".codegen.languages.swift.generator"
  | .command => loggerRoot ++ ".cli"

/-- A name below the root logger: names that already start with the root's name are kept. -/
def loggerName (name : String) : String :=
  if name.startsWith loggerRoot then name else loggerRoot ++ "." ++ name

/-- One record. -/
structure Record where
  component : Component
  level : Level
  message : String
  deriving Repr, DecidableEq

/-- A record as a line of a log file, without its time. -/
def Record.line (r : Record) : String :=
  r.level.label ++ " " ++ r.component.loggerName ++ ": " ++ r.message

/-! ## §2. Values with records. -/

/-- A value and the records left while computing it. -/
structure Logged (α : Type) where
  value : α
  log : List Record := []

namespace Logged

instance : Monad Logged where
  pure a := ⟨a, []⟩
  bind x f := ⟨(f x.value).value, x.log ++ (f x.value).log⟩

/-- Leave one record. -/
def record (component : Component) (level : Level) (message : String) : Logged Unit :=
  ⟨(), [⟨component, level, message⟩]⟩

/-- A step taken for each item in turn, the records in the same order. -/
def forEach {α β : Type} (f : α → Logged β) : List α → Logged (List β)
  | [] => pure []
  | a :: rest => do
    let b ← f a
    let bs ← forEach f rest
    return b :: bs

/-- A value carried through the items in turn, the records in the same order. -/
def carry {α β : Type} (f : β → α → Logged β) : β → List α → Logged β
  | b, [] => pure b
  | b, a :: rest => do
    let b ← f b a
    carry f b rest

instance : LawfulMonad Logged := LawfulMonad.mk' Logged
  (fun ⟨_, _⟩ => by simp [Functor.map])
  (fun _ _ => rfl)
  (fun _ _ _ => by simp [bind])

@[simp] theorem value_pure {α : Type} (a : α) : (pure a : Logged α).value = a := rfl

@[simp] theorem value_map {α β : Type} (f : α → β) (x : Logged α) :
    (f <$> x).value = f x.value := rfl

@[simp] theorem value_bind {α β : Type} (x : Logged α) (f : α → Logged β) :
    (x >>= f).value = (f x.value).value := rfl

@[simp] theorem log_bind {α β : Type} (x : Logged α) (f : α → Logged β) :
    (x >>= f).log = x.log ++ (f x.value).log := rfl

@[simp] theorem value_forEach {α β : Type} (f : α → Logged β) (as : List α) :
    (forEach f as).value = as.map (fun a => (f a).value) := by
  induction as with
  | nil => rfl
  | cons a rest ih => simp [forEach, ih]

@[simp] theorem value_carry {α β : Type} (f : β → α → Logged β) (b : β) (as : List α) :
    (carry f b as).value = as.foldl (fun b a => (f b a).value) b := by
  induction as generalizing b with
  | nil => rfl
  | cons a rest ih => simp [carry, ih]

end Logged

/-- Values with records in stages of some kind. -/
def LoggedT (M : Type → Type) (α : Type) : Type :=
  M (Logged α)

namespace LoggedT

variable {M : Type → Type} [Monad M] {α : Type}

/-- A stage that leaves records and needs nothing else. -/
def ofLogged (x : Logged α) : LoggedT M α :=
  (pure x : M (Logged α))

/-- A stage that leaves no records. -/
def ofStage (x : M α) : LoggedT M α :=
  (do return ⟨← x, []⟩ : M (Logged α))

/-- The value of a stage goes on to the next one, whose records come behind those it left. -/
protected def bind {β : Type} (x : LoggedT M α) (f : α → LoggedT M β) : LoggedT M β :=
  (do
    let a ← x
    let b ← f a.value
    return ⟨b.value, a.log ++ b.log⟩ : M (Logged β))

instance : Monad (LoggedT M) where
  pure a := ofLogged ⟨a, []⟩
  bind := LoggedT.bind

-- The laws are those of the stages below, where the values still have their records.
instance [LawfulMonad M] : LawfulMonad (LoggedT M) := LawfulMonad.mk' (LoggedT M)
  (fun {α} (x : M (Logged α)) => by
    show @Eq (M (Logged α)) (LoggedT.bind x fun a => ofLogged ⟨a, []⟩) x
    simp [LoggedT.bind, ofLogged])
  (fun {α β} a (f : α → M (Logged β)) => by
    show @Eq (M (Logged β)) (LoggedT.bind (ofLogged ⟨a, []⟩) f) (f a)
    simp [LoggedT.bind, ofLogged])
  (fun {α β γ} (x : M (Logged α)) (f : α → M (Logged β)) (g : β → M (Logged γ)) => by
    show @Eq (M (Logged γ)) (LoggedT.bind (LoggedT.bind x f) g)
      (LoggedT.bind x fun a => LoggedT.bind (f a) g)
    simp [LoggedT.bind, List.append_assoc])

end LoggedT

/-! ## §3. Stages that can fail. -/

/-- A stage that leaves records and may fail; the records survive the failure. -/
abbrev Run (ε α : Type) := ExceptT ε Logged α

namespace Run

variable {ε α : Type}

/-- The outcome and the records of a stage. -/
def logged (x : Run ε α) : Logged (Except ε α) := x.run

/-- A stage that cannot fail. -/
def ofLogged (x : Logged α) : Run ε α := ExceptT.lift x

/-- A stage that leaves no records. -/
def ofExcept (x : Except ε α) : Run ε α := ExceptT.mk ⟨x, []⟩

/-- Leave one record. -/
def record (component : Component) (level : Level) (message : String) : Run ε Unit :=
  ofLogged (Logged.record component level message)

/-- The outcome of a stage as a value, so that what follows can go on after a failure. -/
def attempt {δ : Type} (x : Run ε α) : Run δ (Except ε α) :=
  ofLogged x.logged

/-- The outcome of a stage without its records. -/
def outcome (x : Run ε α) : Except ε α := x.logged.value

/-- A stage with each failure taken as another kind of failure. -/
def mapError {δ : Type} (f : ε → δ) (x : Run ε α) : Run δ α :=
  ExceptT.mk ⟨x.logged.value.mapError f, x.logged.log⟩

@[simp] theorem outcome_pure (a : α) : (pure a : Run ε α).outcome = .ok a := rfl

@[simp] theorem outcome_throw (e : ε) : (throw e : Run ε α).outcome = .error e := rfl

@[simp] theorem outcome_ofLogged (x : Logged α) : (ofLogged x : Run ε α).outcome = .ok x.value :=
  rfl

@[simp] theorem outcome_ofExcept (x : Except ε α) : (ofExcept x).outcome = x := rfl

@[simp] theorem outcome_record (component : Component) (level : Level) (message : String) :
    (record component level message : Run ε Unit).outcome = .ok () := rfl

@[simp] theorem outcome_attempt {δ : Type} (x : Run ε α) :
    (attempt x : Run δ (Except ε α)).outcome = .ok x.outcome := rfl

@[simp] theorem outcome_mapError {δ : Type} (f : ε → δ) (x : Run ε α) :
    (mapError f x).outcome = x.outcome.mapError f := rfl

/-- The outcome of two stages depends on their outcomes alone. -/
@[simp] theorem outcome_bind {β : Type} (x : Run ε α) (f : α → Run ε β) :
    (x >>= f).outcome = x.outcome >>= fun a => (f a).outcome := by
  match x with
  | ⟨.ok _, _⟩ => rfl
  | ⟨.error _, _⟩ => rfl

/-- Two stages succeed where the first one does and the second one does after it. -/
theorem outcome_bind_eq_ok {β : Type} {x : Run ε α} {f : α → Run ε β} {b : β} :
    (x >>= f).outcome = .ok b ↔ ∃ a, x.outcome = .ok a ∧ (f a).outcome = .ok b := by
  rw [outcome_bind]
  cases x.outcome with
  | error e => simp [bind, Except.bind]
  | ok a => simp [bind, Except.bind]

/-- The outcome of a stage for each item. -/
@[simp] theorem outcome_mapM {β : Type} (f : α → Run ε β) (as : List α) :
    (as.mapM f).outcome = as.mapM (fun a => (f a).outcome) := by
  induction as with
  | nil => rfl
  | cons a rest ih => simp only [List.mapM_cons, outcome_bind, outcome_pure, ih]; rfl

/-- The outcome of a stage that carries a value through items. -/
@[simp] theorem outcome_foldlM {β : Type} (f : β → α → Run ε β) (b : β) (as : List α) :
    (as.foldlM f b).outcome = as.foldlM (fun b a => (f b a).outcome) b := by
  induction as generalizing b with
  | nil => rfl
  | cons a rest ih => simp only [List.foldlM_cons, outcome_bind, ih]

end Run

end ScriptingBindings
