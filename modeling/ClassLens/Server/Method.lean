import ClassLens.Server.Capabilities
import ClassLens.Server.Unserved
/-
  Methods — the messages an editor can send

  Some methods ask for an answer and some only notify. Those that the protocol
  knows but this server has no feature for are told apart from unknown ones,
  because their parameters are looked at first.

  What this holds:
    1. `Method`, with the names that are served and those that change nothing;
    2. `ofName?`, the method of a name;
    3. what each method expects: an answer or not, and which parameters.
-/

namespace ClassLens

/-- What a message asks for. -/
inductive Method where
  | start
  | shutdown
  | exit
  | initialized
  | didOpen
  | didChange
  | didClose
  | didChangeWatchedFiles
  | completion
  | resolveItem
  | hover
  | definition
  /-- Takes back an earlier request; answers come at once, so there is none left. -/
  | cancel
  /-- A request of the protocol that is not served. -/
  | unserved (params : Shape)
  /-- A notification of the protocol that changes nothing. -/
  | unheeded

namespace Method

def served : List (String × Method) :=
  [("initialize", .start), ("shutdown", .shutdown), ("exit", .exit),
   ("initialized", .initialized),
   ("textDocument/didOpen", .didOpen), ("textDocument/didChange", .didChange),
   ("textDocument/didClose", .didClose),
   ("workspace/didChangeWatchedFiles", .didChangeWatchedFiles),
   ("textDocument/completion", .completion), ("completionItem/resolve", .resolveItem),
   ("textDocument/hover", .hover), ("textDocument/definition", .definition),
   ("$/cancelRequest", .cancel)]

/-- Notifications that change nothing. -/
def unheededNames : List String :=
  ["textDocument/willSave", "textDocument/didSave", "workspace/didChangeWorkspaceFolders",
   "workspace/didChangeConfiguration", "workspace/didCreateFiles", "workspace/didRenameFiles",
   "workspace/didDeleteFiles"]

def ofName? (name : Text) : Option Method :=
  let isName : String → Bool := fun n => n.toList = name
  match served.find? (isName ·.1) with
  | some (_, m) => some m
  | none =>
    match Shape.unservedParams.find? (isName ·.1) with
    | some (_, shape) => some (.unserved shape)
    | none => if unheededNames.any isName then some .unheeded else none

/-- Whether a method asks for an answer. -/
def isRequest : Method → Bool
  | .start | .shutdown | .completion | .resolveItem | .hover | .definition => true
  | .unserved _ => true
  | _ => false

/-- What the parameters of a method have to look like. -/
def params : Method → Shape
  | .start => Shape.initializeParams
  | .didOpen => Shape.openParams
  | .didChange => Shape.changeParams
  | .didClose => Shape.closeParams
  | .didChangeWatchedFiles => Shape.watchedParams
  | .completion => Shape.completionParams
  | .resolveItem => Shape.completionItem
  | .hover => Shape.hoverParams
  | .definition => Shape.definitionParams
  | .unserved shape => shape
  | .initialized => Shape.plain []
  | .unheeded | .shutdown | .exit | .cancel => .any

end Method

end ClassLens
