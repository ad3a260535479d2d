import ClassLens.Editor.Wire
import ClassLens.Server.Method
import ClassLens.Uri.File
import ClassLens.Watch.Basic
/-
  The server — one message of an editor at a time

  A server starts out uninitialised and answers nothing but `initialize` until
  that has succeeded. After `shutdown` it refuses requests and ignores
  notifications, and after `exit` it is gone. In between it keeps the open
  documents, reports unknown classes whenever one is opened or changed, and
  answers queries about them.

  What this holds:
    1. `Server`, `Message`, `Reply` and `Outgoing`;
    2. a handler for each method that is served;
    3. `receive`, which decides whether a message is handled at all.
-/

namespace ClassLens

/-- How far a server has come. -/
inductive Stage where
  | uninitialized
  | running
  | shutDown
  | exited
  deriving Repr, DecidableEq

/-- A message from the editor. -/
structure Message where
  /-- Whether the editor waits for an answer. -/
  isRequest : Bool
  method : Text
  params : Option Json
  deriving Repr

/-- A message to the editor that is no answer. -/
structure Outgoing where
  method : String
  params : Json
  deriving Repr

/-- Why a request was refused. -/
inductive Refusal where
  | notInitialized
  | invalidRequest
  | methodNotFound
  | invalidParams
  deriving Repr, DecidableEq

/-- The number that stands for a refusal. -/
def Refusal.code : Refusal → Int
  | .notInitialized => -32002
  | .invalidRequest => -32600
  | .methodNotFound => -32601
  | .invalidParams => -32602

def Refusal.message : Refusal → String
  | .notInitialized => "Server not initialized"
  | .invalidRequest => "Invalid request"
  | .methodNotFound => "Method not found"
  | .invalidParams => "Invalid params"

/-- What comes of a message. -/
inductive Reply where
  /-- Nothing is answered. -/
  | silence
  | result (value : Json)
  | refused (why : Refusal)
  /-- Handling the message stopped midway. -/
  | stopped (fault : Fault)
  /-- The server is gone. -/
  | gone
  deriving Repr

/-- A server between two messages. -/
structure Server where
  stage : Stage
  engine : Engine
  config : Config
  documents : Table Uri Document
  watch : Option Watch
  items : ItemTable
  root : Option Path

namespace Server

/-- The name a server gives itself. -/
def programName : String := "stylename"

/-- The version a server gives itself. -/
def programVersion : String := "0.1.0"

/-- A server before the first message. -/
def new : Server where
  stage := .uninitialized
  engine := Engine.new Config.standard.debounceMs
  config := Config.standard
  documents := Table.empty
  watch := none
  items := ItemTable.empty
  root := none

/-- A server after a message, what the message came to, and what was sent meanwhile. -/
abbrev Outcome := Server × Reply × List Outgoing

/-! ## Reading parameters -/

/-- The value behind a chain of field names. -/
def at? (v : Json) : List String → Option Json
  | [] => some v
  | name :: rest => (v.field? name).bind fun w => at? w rest

/-- The text behind a chain of field names. -/
def text (v : Json) (names : List String) : Text := ((at? v names).bind Json.text?).getD []

/-- The natural number behind a chain of field names. -/
def nat (v : Json) (names : List String) : Nat := ((at? v names).bind Json.nat?).getD 0

/-- The integer behind a chain of field names. -/
def int (v : Json) (names : List String) : Int := ((at? v names).bind Json.int?).getD 0

/-- The items behind a chain of field names. -/
def itemsAt (v : Json) (names : List String) : List Json :=
  ((at? v names).bind Json.items?).getD []

/-- The URI behind a chain of field names. -/
def uri? (v : Json) (names : List String) : Option Uri := Uri.ofText? (text v names)

/-- The place that parameters ask about. -/
def positionOf (params : Json) : Position :=
  ⟨nat params ["position", "line"], nat params ["position", "character"]⟩

/-- The document that parameters ask about, if it is open. -/
def documentOf (s : Server) (params : Json) : Option Document :=
  (uri? params ["textDocument", "uri"]).bind s.documents.get?

/-! ## Starting and stopping -/

/-- The directory that an editor works in: the first workspace folder, or else the root. -/
def rootOf (params : Json) : Option Path :=
  let uri := match itemsAt params ["workspaceFolders"] with
    | folder :: _ => uri? folder ["uri"]
    | [] => uri? params ["rootUri"]
  uri.bind Uri.toPath?

/-- The settings for a workspace and the options an editor sends. What is unusable is left out. -/
def configFor (disk : Disk) (root : Option Path) (options : Option Json) : Config :=
  let loaded := match root with
    | some root => (Config.load disk root).toOption.getD Config.standard
    | none => Config.standard
  match options with
  | some options => (loaded.merge options).toOption.getD loaded
  | none => loaded

def capabilities : Json :=
  Json.ofFields [
    ("capabilities", Json.ofFields [
      ("textDocumentSync", .ofNat 1),
      ("completionProvider", Json.ofFields [
        ("resolveProvider", .bool true),
        ("triggerCharacters", .arr [.ofString "\"", .ofString "'", .ofString " "])]),
      ("hoverProvider", .bool true),
      ("definitionProvider", .bool true)]),
    ("serverInfo", Json.ofFields [
      ("name", .ofString programName), ("version", .ofString programVersion)])]

/-- The editor introduces itself. -/
def start (disk : Disk) (s : Server) (params : Json) : Outcome :=
  let root := rootOf params
  let config := configFor disk root (params.field? "initializationOptions")
  let engine := s.engine.setWindow config.debounceMs
  ({ s with stage := .running, config, root, engine }, .result capabilities, [])

/-- Asks the editor to report changes of the files that globs match. -/
def registration (globs : List Text) : Outgoing where
  method := "client/registerCapability"
  params := Json.ofFields [("registrations", .arr [Json.ofFields [
    ("id", .ofString "stylename-watched-files"),
    ("method", .ofString "workspace/didChangeWatchedFiles"),
    ("registerOptions", Json.ofFields [
      ("watchers", .arr (globs.map fun g => Json.ofFields [("globPattern", .str g)]))])]])]

/-- Tells the editor that files are not watched. -/
def watchingDisabled (e : WatchError) : Outgoing where
  method := "window/logMessage"
  params := Json.ofFields [("type", .ofNat 2),
    ("message", .str ("stylename: file watching disabled (".toList ++ e.message ++ [')']))]

/-- The editor is ready: watching begins. -/
def initialized (disk : Disk) (s : Server) : Outcome :=
  let watch := match s.root, s.config.watch with
    | some root, true => Watch.onRoot disk s.config root
    | _, _ => Watch.passive s.config
  match watch with
  | .error e => (s, .silence, [watchingDisabled e])
  | .ok w =>
    let sent := if w.isWatching then [] else [registration w.filter.watchGlobs]
    ({ s with watch := some w }, .silence, sent)

/-- The editor is done: everything is forgotten. -/
def shutdown (s : Server) : Outcome :=
  ({ s with
      watch := none
      engine := s.engine.clear
      items := s.items.clear
      documents := Table.empty }, .result .null, [])

/-! ## Documents -/

/-- Reports for a document, at a version of it unless it is closed. -/
def publication (uri : Uri) (reports : List Json) (version : Option Int) : Outgoing where
  method := "textDocument/publishDiagnostics"
  params := Json.ofFields ([("uri", .str uri.toText), ("diagnostics", .arr reports)] ++
    (version.map fun v => ("version", Json.int v)).toList)

/-- Sends the reports for a document, if reports are wanted. -/
def publish (disk : Disk) (s : Server) (uri : Uri) (doc : Document) : Outcome :=
  if !s.config.diagnostics then (s, .silence, [])
  else
    match diagnose disk s.engine doc s.config.attributeName with
    | (engine, .error fault) => ({ s with engine }, .stopped fault, [])
    | (engine, .ok found) =>
      let reports := found.map (Diagnostic.toJson s.config.diagnosticSeverity)
      ({ s with engine }, .silence, [publication uri reports (some doc.version)])

/-- Keeps the text of a document, if it is a component, and reports on it. -/
def keep (disk : Disk) (s : Server) (uri : Uri) (text : Text) (version : Int) : Outcome :=
  match uri.toPath? with
  | none => (s, .silence, [])
  | some path =>
    if s.config.isComponent path then
      let doc : Document := ⟨path, text, version⟩
      publish disk { s with documents := s.documents.insert uri doc } uri doc
    else (s, .silence, [])

def didOpen (disk : Disk) (s : Server) (params : Json) : Outcome :=
  match uri? params ["textDocument", "uri"] with
  | none => (s, .silence, [])
  | some uri =>
    keep disk s uri (text params ["textDocument", "text"]) (int params ["textDocument", "version"])

/-- A document was changed; of several texts the last one counts. -/
def didChange (disk : Disk) (s : Server) (params : Json) : Outcome :=
  match uri? params ["textDocument", "uri"], (itemsAt params ["contentChanges"]).getLast? with
  | some uri, some change =>
    keep disk s uri (text change ["text"]) (int params ["textDocument", "version"])
  | _, _ => (s, .silence, [])

/-- A document was closed; its reports are taken back. -/
def didClose (s : Server) (params : Json) : Outcome :=
  match uri? params ["textDocument", "uri"] with
  | none => (s, .silence, [])
  | some uri =>
    if s.documents.contains uri then
      ({ s with documents := s.documents.erase uri }, .silence, [publication uri [] none])
    else (s, .silence, [])

/-- The change that a number stands for. -/
def changeOfCode? : Int → Option Change
  | 1 => some .created
  | 2 => some .modified
  | 3 => some .deleted
  | _ => none

/-- The change of a file that the editor reports. -/
def fileChange? (v : Json) : Option FileChange := do
  let path ← (← uri? v ["uri"]).toPath?
  return ⟨path, ← changeOfCode? (int v ["type"])⟩

def didChangeWatchedFiles (disk : Disk) (s : Server) (params : Json) : Outcome :=
  match s.watch with
  | none => (s, .silence, [])
  | some w =>
    let changes := (itemsAt params ["changes"]).filterMap fileChange?
    ({ s with engine := w.dispatchAll disk s.engine changes }, .silence, [])

/-! ## Queries -/

/-- The answer of a query: its value, null where there is none, or the fault it met. -/
def answer {α : Type} (toJson : α → Json) : Except Fault (Option α) → Reply
  | .ok (some v) => .result (toJson v)
  | .ok none => .result .null
  | .error fault => .stopped fault

def completion (disk : Disk) (s : Server) (params : Json) : Outcome :=
  match s.documentOf params with
  | none => (s, .result .null, [])
  | some doc =>
    let (engine, items, found) :=
      complete disk s.engine s.items doc (positionOf params) s.config.attributeName
    ({ s with engine, items }, answer (fun l => .arr (l.map Item.toJson)) found, [])

def resolveItem (s : Server) (params : Json) : Outcome :=
  match Item.ofJson? params with
  | none => (s, .refused .invalidParams, [])
  | some item => (s, .result (resolve s.engine s.items item).toJson, [])

def hoverAt (disk : Disk) (s : Server) (params : Json) : Outcome :=
  match s.documentOf params with
  | none => (s, .result .null, [])
  | some doc =>
    let (engine, found) := hover disk s.engine doc (positionOf params) s.config.attributeName
    ({ s with engine }, answer Hover.toJson found, [])

/-- Where the class at a place is defined. -/
def definitionAt (disk : Disk) (s : Server) (params : Json) : Outcome :=
  match s.documentOf params with
  | none => (s, .result .null, [])
  | some doc =>
    let (engine, found) :=
      goToDefinition disk s.engine doc (positionOf params) s.config.attributeName
    ({ s with engine }, answer Destination.toJson found, [])

/-! ## Messages -/

/-- Handles a message whose parameters have the shape they need. -/
def run (disk : Disk) (s : Server) (params : Json) : Method → Outcome
  | .start => start disk s params
  | .initialized => initialized disk s
  | .shutdown => shutdown s
  | .didOpen => didOpen disk s params
  | .didChange => didChange disk s params
  | .didClose => didClose s params
  | .didChangeWatchedFiles => didChangeWatchedFiles disk s params
  | .completion => completion disk s params
  | .resolveItem => resolveItem s params
  | .hover => hoverAt disk s params
  | .definition => definitionAt disk s params
  | .unserved _ => (s, .refused .methodNotFound, [])
  | .unheeded => (s, .silence, [])
  | .exit | .cancel => (s, .silence, [])

/-- Refuses a request; a notification is passed over. -/
def refuse (s : Server) (m : Message) (why : Refusal) : Outcome :=
  (s, if m.isRequest then .refused why else .silence, [])

/-- Handles a message of a known method: it has to be sent as what it is, or it
is refused, and its parameters need the right shape. -/
def handle (disk : Disk) (s : Server) (m : Message) (method : Method) : Outcome :=
  if m.isRequest ≠ method.isRequest then refuse s m .invalidRequest
  else
    match m.params.bind method.params.normalize? with
    | some params => run disk s params method
    | none => refuse s m .invalidParams

def handleShutdown (s : Server) (m : Message) : Outcome :=
  if !m.isRequest then (s, .silence, [])
  else if m.params.isSome then refuse s m .invalidParams
  else shutdown s

/-- Why nothing but the start and the end of a session is served now, if so. -/
def closedFor (s : Server) : Option Refusal :=
  match s.stage with
  | .running => none
  | .uninitialized => some .notInitialized
  | .shutDown => some .invalidRequest
  | .exited => some .invalidRequest

/-- Whether a method belongs to a family that may be ignored when unknown. -/
def isOptionalMethod (name : Text) : Bool := Text.startsWith ['$', '/'] name

def receive (disk : Disk) (s : Server) (m : Message) : Outcome :=
  if s.stage = .exited then (s, .gone, [])
  else
    match Method.ofName? m.method with
    | none =>
      if isOptionalMethod m.method then (s, .silence, []) else refuse s m .methodNotFound
    | some .exit => ({ s with stage := .exited }, .silence, [])
    | some .cancel => refuse s m .invalidRequest
    | some .start =>
      if s.stage = .uninitialized then handle disk s m .start
      else refuse s m .invalidRequest
    | some .shutdown =>
      match s.closedFor with
      | some why => refuse s m why
      | none => handleShutdown { s with stage := .shutDown } m
    | some method =>
      match s.closedFor with
      | some why => refuse s m why
      | none => handle disk s m method

end Server

end ClassLens
