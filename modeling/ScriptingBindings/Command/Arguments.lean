/-
  ScriptingBindings.Command.Arguments
  ──────────────────────────────────
  **READING THE COMMAND LINE.**

  Words are told apart first: a word that starts with a hyphen is a switch,
  and after a word of two hyphens every word is plain.  A long switch may be
  cut short as long as only one switch fits, and its value may follow an
  equals sign.  Short switches may share one hyphen, and the last of them may
  have its value right behind it.

  The first plain word is the file; more of them, and switches that nobody
  knows, are refused at the end.
-/
import ScriptingBindings.Command.Switch
import ScriptingBindings.Text.Digit
import ScriptingBindings.Text.Quoted

namespace ScriptingBindings.Command

/-! ## §1. What was asked for. -/

/-- The arguments of a run. -/
structure Arguments where
  file : Option String := none
  /-- The values of switches, the last one first. -/
  values : List (Switch × String) := []
  /-- The switches that are on. -/
  switches : List Switch := []
  deriving Repr, DecidableEq

/-- The value of a switch; one that is not given counts as empty. -/
def Arguments.value (a : Arguments) (s : Switch) : String :=
  (a.values.lookup s).getD ""

/-- Whether a switch is on. -/
def Arguments.has (a : Arguments) (s : Switch) : Bool :=
  a.switches.contains s

/-- The file; none counts as empty. -/
def Arguments.path (a : Arguments) : String :=
  a.file.getD ""

/-- Why a command line is refused. -/
inductive UsageError where
  /-- More than one switch starts like this. -/
  | ambiguous (word : String) (fitting : List String)
  /-- A switch needs a value. -/
  | noValue (s : Switch)
  /-- A switch takes no value. -/
  | unwantedValue (s : Switch) (value : String)
  /-- A file was given after an address. -/
  | fileAfterAddress
  /-- An address was given after a file. -/
  | addressAfterFile
  /-- Words are left over. -/
  | unrecognized (words : List String)
  deriving Repr, DecidableEq

/-- The name of the file among the arguments. -/
def fileLabel : String := "file"

namespace UsageError

/-- A complaint about one argument. -/
def about (label complaint : String) : String :=
  "argument " ++ label ++ ": " ++ complaint

/-- The words for a refusal. -/
def message : UsageError → String
  | ambiguous word fitting =>
    "ambiguous option: " ++ word ++ " could match " ++ ", ".intercalate fitting
  | noValue s => about s.label "expected one argument"
  | unwantedValue s value => about s.label ("ignored explicit argument " ++ Text.quoted value)
  | fileAfterAddress => about fileLabel ("not allowed with argument " ++ Switch.url.label)
  | addressAfterFile => about Switch.url.label ("not allowed with argument " ++ fileLabel)
  | unrecognized words => "unrecognized arguments: " ++ " ".intercalate words

end UsageError

/-! ## §2. Words. -/

/-- A switch as a word gives it. -/
structure Given where
  switch : Switch
  spelling : String
  /-- What the word has behind the spelling and, after a full one, behind an equals sign. -/
  attached : Option (List Char) := none
  deriving Repr, DecidableEq

/-- A word of the command line. -/
inductive Word where
  /-- A word of its own. -/
  | plain
  /-- Two hyphens. -/
  | divider
  /-- A switch. -/
  | switch (g : Given)
  /-- A word that looks like a switch and is none. -/
  | unknown
  deriving Repr, DecidableEq

/-- A word cut at its first equals sign. -/
def cutAtEquals (word : List Char) : String × Option (List Char) :=
  let name := word.takeWhile (· != '=')
  (String.ofList name,
    match word.drop name.length with
    | [] => none
    | _ :: value => some value)

/-- The long switches that a word may be short for. -/
def fittingLong (word : List Char) : List Given :=
  let (name, attached) := cutAtEquals word
  (Switch.table.filter (fun entry => entry.1.startsWith name)).map
    (fun (spelling, s) => ⟨s, spelling, attached⟩)

/-- The short switch that a word starts with, the rest of the word attached. -/
def fittingShort (c : Char) (rest : List Char) : List Given :=
  let spelling := String.ofList ['-', c]
  (Switch.find? spelling).toList.map (fun s => ⟨s, spelling, some rest⟩)

/-- The switches that a word may mean without spelling one out. -/
def fitting : List Char → List Given
  | '-' :: '-' :: name => fittingLong ('-' :: '-' :: name)
  | '-' :: c :: rest => fittingShort c rest
  | _ => []

/-- Digits to the end, or to a line feed that ends the word. -/
def isDigits (s : List Char) : Bool :=
  !s.isEmpty && s.head?.all Text.isDecimal &&
    (match s.dropWhile Text.isDecimal with
      | [] => true
      | ['\n'] => true
      | _ => false)

/-- A hyphen and a number, with or without a point.  Such a word is plain. -/
def isNegativeNumber : List Char → Bool
  | '-' :: s =>
    isDigits s ||
      (match s.dropWhile Text.isDecimal with
        | '.' :: fraction => isDigits fraction
        | _ => false)
  | _ => false

/-- The switch that a word spells out, up to an equals sign if there is one. -/
def spelledOut? (word : String) : Option Given :=
  match Switch.find? word with
  | some s => some ⟨s, word, none⟩
  | none =>
    match cutAtEquals word.toList with
    | (name, some attached) => (Switch.find? name).map (⟨·, name, some attached⟩)
    | (_, none) => none

/-- What a word is, unless it is two hyphens or comes after them. -/
def Word.of (word : String) : Except UsageError Word :=
  match word.toList with
  | '-' :: c :: cs =>
    match spelledOut? word with
    | some g => .ok (.switch g)
    | none =>
      -- Nothing is spelled out: a switch cut short, or no switch.
      match fitting ('-' :: c :: cs) with
      | [g] => .ok (.switch g)
      | [] =>
        .ok (if isNegativeNumber ('-' :: c :: cs) || (c :: cs).contains ' ' then .plain
          else .unknown)
      | gs => .error (.ambiguous word (gs.map Given.spelling))
  | _ => .ok .plain

/-- The words of a command line. -/
def Word.all : List String → Except UsageError (List (String × Word))
  | [] => .ok []
  | word :: rest =>
    if word = "--" then .ok ((word, .divider) :: rest.map (·, .plain))
    else do
      let w ← Word.of word
      let ws ← Word.all rest
      return (word, w) :: ws

/-! ## §3. Switches in one word. -/

/-- How a word of switches ends. -/
inductive WordEnd where
  /-- With a switch that takes no value. -/
  | done
  /-- With a switch and its value. -/
  | value (s : Switch) (text : String)
  /-- With a switch whose value is the next word. -/
  | awaits (s : Switch)
  deriving Repr, DecidableEq

/-- A word of switches: those that it turns on, and how it ends. -/
structure Cluster where
  on : List Switch := []
  ending : WordEnd := .done
  deriving Repr, DecidableEq

/-- A switch with nothing attached. -/
def Cluster.lone (s : Switch) : Cluster :=
  if s.takesValue then ⟨[], .awaits s⟩ else ⟨[s], .done⟩

/-- A switch with its value attached.  Two hyphens stand for no value at all. -/
def Cluster.valued (s : Switch) (text : List Char) : Cluster :=
  ⟨[], .value s (if text = ['-', '-'] then "" else String.ofList text)⟩

/-- A switch with something attached: its value, or after a short switch that takes none the
next short switch. -/
def Cluster.read (s : Switch) (short : Bool) : List Char → Except UsageError Cluster
  | [] => if s.takesValue then .ok (valued s []) else .error (.unwantedValue s "")
  | c :: rest =>
    if s.takesValue then .ok (valued s (c :: rest))
    else
      -- Only behind a short switch can `c` be a switch itself.
      match (if short then Switch.ofChar? c else none) with
      | none => .error (.unwantedValue s (String.ofList (c :: rest)))
      | some next =>
        let following : Except UsageError Cluster :=
          match rest with
          | [] => .ok (lone next)
          | d :: ds => read next true (d :: ds)
        following.map (fun cluster => ⟨s :: cluster.on, cluster.ending⟩)

/-- Whether a spelling is a hyphen and one character. -/
def isShort (spelling : String) : Bool :=
  spelling.length == 2

/-- The switches of a word. -/
def Given.cluster (g : Given) : Except UsageError Cluster :=
  match g.attached with
  | none => .ok (.lone g.switch)
  | some text => Cluster.read g.switch (isShort g.spelling) text

/-! ## §4. The whole line. -/

/-- How reading a command line ends without arguments to run with. -/
inductive Halt where
  /-- Help is asked for. -/
  | help
  /-- The version is asked for. -/
  | version
  /-- The line is refused. -/
  | refused (e : UsageError)
  deriving Repr, DecidableEq

/-- Turn a switch on. -/
def Arguments.turnOn (a : Arguments) : Switch → Except Halt Arguments
  | .help => .error .help
  | .version => .error .version
  | s => .ok { a with switches := s :: a.switches }

/-- Give a switch its value.  The address has no place beside a file. -/
def Arguments.setValue (a : Arguments) (s : Switch) (text : String) : Except Halt Arguments :=
  if s = .url && a.file.isSome then .error (.refused .addressAfterFile)
  else .ok { a with values := (s, text) :: a.values }

/-- Name the file, which has no place beside an address. -/
def Arguments.setFile (a : Arguments) (file : String) : Except Halt Arguments :=
  if (a.values.lookup .url).isSome then .error (.refused .fileAfterAddress)
  else .ok { a with file := some file }

/-- How far reading has come. -/
structure Progress where
  arguments : Arguments := {}
  /-- Whether the place of the file is taken. -/
  fileDone : Bool := false
  /-- The words that nothing takes. -/
  extras : List String := []

/-- A word that nothing takes. -/
def Progress.leave (p : Progress) (word : String) : Progress :=
  { p with extras := p.extras ++ [word] }

/-- The file, from a word. -/
def Progress.takeFile (p : Progress) (word : String) : Except Halt Progress := do
  let a ← p.arguments.setFile word
  return { p with arguments := a, fileDone := true }

/-- The switches of a word that are on. -/
def Progress.turnOn (p : Progress) (on : List Switch) : Except Halt Progress := do
  let a ← on.foldlM Arguments.turnOn p.arguments
  return { p with arguments := a }

/-- The value of a switch, after the switches before it in its word. -/
def Progress.setValue (p : Progress) (on : List Switch) (s : Switch) (text : String) :
    Except Halt Progress := do
  let p ← p.turnOn on
  let a ← p.arguments.setValue s text
  return { p with arguments := a }

/-- Read the words in order.  A divider beside the word for the file belongs to it. -/
def Progress.read (p : Progress) : List (String × Word) → Except Halt Progress
  | [] => .ok p
  | (word, .unknown) :: rest => (p.leave word).read rest
  | (word, .plain) :: rest =>
    if p.fileDone then (p.leave word).read rest
    else do
      let p ← p.takeFile word
      match rest with
      | (_, .divider) :: rest => p.read rest
      | rest => p.read rest
  | (word, .divider) :: rest =>
    if p.fileDone then (p.leave word).read rest
    else
      -- The divider takes the place of the file even if no file follows.
      match rest with
      | (file, .plain) :: rest => do
        let p ← p.takeFile file
        p.read rest
      | rest => { p with fileDone := true }.read rest
  | (_, .switch g) :: rest => do
    let cluster ← g.cluster.mapError .refused
    match cluster.ending with
    | .done => (← p.turnOn cluster.on).read rest
    | .value s text => (← p.setValue cluster.on s text).read rest
    | .awaits s =>
      match rest with
      | (text, .plain) :: rest => (← p.setValue cluster.on s text).read rest
      | _ => throw (.refused (.noValue s))

/-- The arguments of a command line. -/
def Arguments.read (line : List String) : Except Halt Arguments := do
  let words ← (Word.all line).mapError .refused
  let p ← ({} : Progress).read words
  if p.extras.isEmpty then return p.arguments
  else throw (.refused (.unrecognized p.extras))

end ScriptingBindings.Command
