/-
  ScriptingBindings.Source
  ──────────────────────────────────
  **WHERE DOCUMENTS COME FROM.**

  A document is read from a file or asked for at a network address, never
  both.  What answers at an address is given as a value.  Each way of failing
  is told apart, and every attempt leaves records.
-/
import ScriptingBindings.Address
import ScriptingBindings.FileSystem.Basic
import ScriptingBindings.Log
import ScriptingBindings.Markup.Reader

namespace ScriptingBindings

open FileSystem (Path PathError)

/-! ## §1. The network. -/

/-- What comes back when a document is asked for at an address. -/
inductive Reply where
  /-- Nothing in time. -/
  | timeout
  /-- No connection, for some reason. -/
  | noConnection (reason : String)
  /-- Another failure. -/
  | failure (reason : String)
  /-- An answer with its status, the kind of its content, and its content. -/
  | answer (status : Nat) (contentType : String) (content : Content)
  deriving DecidableEq

/-- Everything outside the program that it reads from. -/
structure Surroundings where
  files : FileSystem := {}
  reply : Reply := .noConnection "refused"

/-! ## §2. Failures. -/

/-- Why a document cannot be had. -/
inductive LoadError where
  /-- There is no root element. -/
  | noRoot
  /-- The content is not a well-formed document. -/
  | malformed (source : String)
  /-- There is no such file. -/
  | fileNotFound (path : Path)
  /-- The file cannot be read. -/
  | unreadable (e : PathError)
  /-- The path cannot even be looked for. -/
  | unusable (e : PathError)
  /-- Neither a file nor an address is given. -/
  | noSource
  /-- Both a file and an address are given. -/
  | twoSources
  /-- The address lacks a scheme or an authority. -/
  | incompleteAddress (url : String)
  /-- The authority of the address is refused. -/
  | refusedAddress
  /-- There was no answer in time. -/
  | timeout (url : String)
  /-- There was no connection. -/
  | noConnection (url : String)
  /-- The status of the answer tells of an error. -/
  | badStatus (status : Nat) (url : String)
  /-- Asking failed in another way. -/
  | requestFailed (url reason : String)
  deriving Repr, DecidableEq

namespace LoadError

/-- The words for a failure. -/
def message : LoadError → String
  | noRoot => "Invalid SDEF structure: no root element"
  | malformed source => "Invalid SDEF structure: invalid XML in " ++ source
  | fileNotFound path => "File not found: " ++ path.text
  | unreadable e => "Cannot read SDEF file " ++ e.path.text ++ ": " ++ e.message
  | unusable e => e.message
  | noSource => "Either file_path or url must be provided"
  | twoSources => "Cannot specify both file_path and url"
  | incompleteAddress url => "Invalid URL: " ++ url
  | refusedAddress => "Invalid IPv6 URL"
  | timeout url => "Request timeout for URL: " ++ url
  | noConnection url => "Connection error for URL: " ++ url
  | badStatus status url => "HTTP error " ++ toString status ++ " for URL: " ++ url
  | requestFailed url reason => "Request error for URL " ++ url ++ ": " ++ reason

end LoadError

/-- A document together with the name of the place where it was found. -/
structure Document where
  source : String
  root : Markup.Element

namespace Document

/-! ## §3. Reading. -/

/-- Leave a record about loading. -/
def note (level : Level) (message : String) : Run LoadError Unit :=
  Run.record .source level message

/-- Fail and leave a record of it. -/
def fail {α : Type} (e : LoadError) (record : String) : Run LoadError α := do
  note .error record
  throw e

/-- The document that a content is. -/
def ofContent (content : Content) (source : String := "<memory>") : Run LoadError Document :=
  match Markup.read? content with
  | some root => return ⟨source, root⟩
  | none => fail (.malformed source) ("Invalid XML in " ++ source)

/-- The extension of the files that hold dictionaries. -/
def fileExtension : String := ".sdef"

/-- Where a document is to be had. -/
inductive Origin where
  /-- In a file. -/
  | file (path : Path)
  /-- At an address. -/
  | address (url : String)
  deriving Repr, DecidableEq

/-- The origin of a document from a file and an address, of which exactly one is to be given.
An empty text counts as none. -/
def Origin.choose (file url : String) : Run LoadError Origin :=
  match file.isEmpty, url.isEmpty with
  | true, true => fail .noSource "Neither file_path nor url provided"
  | false, false => fail .twoSources "Both file_path and url provided"
  | false, true => return .file (.ofString file)
  | true, false => return .address url

/-- Leave a record of the attempt to load a document. -/
def Origin.announce : Origin → Run LoadError Unit
  | .file path => note .debug ("Attempting to load sdef from file: " ++ path.text)
  | .address url => note .debug ("Attempting to load sdef from URL: " ++ url)

/-- The document in a file. -/
def ofFile (files : FileSystem) (path : Path) : Run LoadError Document := do
  let found ← Run.ofExcept ((files.hasPath path).mapError .unusable)
  if !found then
    fail (.fileNotFound path) ("File not found: " ++ path.text)
  else
    if !path.hasExtension fileExtension then
      note .warning ("File does not have .sdef extension: " ++ path.text)
    match files.read path with
    | .error e =>
      fail (.unreadable e) ("Error reading file " ++ path.text ++ ": " ++ e.message)
    | .ok content => do
      let document ← ofContent content path.text
      note .info ("Successfully loaded sdef from " ++ path.text)
      return document

/-- Whether a status tells of an error. -/
def isErrorStatus (status : Nat) : Bool :=
  400 ≤ status && status < 600

/-- The document that answers at an address. -/
def ofReply (url : String) : Reply → Run LoadError Document
  | .timeout => fail (.timeout url) ("Request timeout for URL: " ++ url)
  | .noConnection reason =>
    fail (.noConnection url) ("Connection error for URL " ++ url ++ ": " ++ reason)
  | .failure reason =>
    fail (.requestFailed url reason) ("Request error for URL " ++ url ++ ": " ++ reason)
  | .answer status contentType content => do
    if isErrorStatus status then
      let e := LoadError.badStatus status url
      fail e e.message
    else
      let kind := Text.lower contentType
      if !Markup.hasMark "xml".toList kind.toList && !url.endsWith fileExtension then
        note .warning ("URL " ++ url ++ " does not have an XML content type: " ++ kind)
      let document ← ofContent content url
      note .info ("Successfully loaded sdef from " ++ url)
      return document

/-- The document at an address. -/
def ofAddress (reply : Reply) (url : String) : Run LoadError Document :=
  match Address.read? url with
  | none => throw .refusedAddress
  | some address =>
    if address.isComplete then ofReply url reply
    else fail (.incompleteAddress url) ("Invalid URL format: " ++ url)

/-- The document that is to be had at its origin. -/
def Origin.fetch (around : Surroundings) : Origin → Run LoadError Document
  | .file path => ofFile around.files path
  | .address url => ofAddress around.reply url

/-- The document of an origin, with a record of the attempt. -/
def ofOrigin (around : Surroundings) (origin : Origin) : Run LoadError Document := do
  origin.announce
  origin.fetch around

/-- The document in a file or at an address. -/
def load (around : Surroundings) (file url : String) : Run LoadError Document := do
  ofOrigin around (← Origin.choose file url)

end Document

end ScriptingBindings
