import ClassLens.Server.Params
/-
  Requests that are not served

  The protocol has many requests that this server has no feature for. Their
  parameters are looked at all the same, because bad ones are refused for
  another reason than good ones.

  What this holds:
    1. what these requests send along: symbols, edits, actions and hints;
    2. `unservedParams`, the requests by name with what they have to bring.
-/

namespace ClassLens

namespace Shape

/-- A stretch of a document somewhere. -/
def location : Shape := plain [needed "uri" .uri, needed "range" range]

/-! ## Reports and actions -/

/-- A report on a stretch of a document. -/
def diagnostic : Shape :=
  plain [
    needed "range" range, maybe "severity" signed32, maybe "code" token,
    maybe "codeDescription" (plain [needed "href" .uri]), maybe "source" .text,
    needed "message" .text,
    maybe "relatedInformation" (.list (plain [needed "location" location, needed "message" .text])),
    maybe "tags" (.list signed32), maybe "data" .any]

def documentEdit : Shape :=
  plain [
    needed "textDocument" (plain [needed "uri" .uri, maybe "version" signed32]),
    needed "edits" (.list (.either textEdit (mixed
      [needed "range" range, needed "newText" .text, needed "annotationId" .text])))]

/-- A file that is created, renamed or deleted. -/
def fileOperation : Shape :=
  .either
    (mixed [
      needed "kind" (.exactly "create".toList), needed "uri" .uri,
      maybe "options" (flags ["overwrite", "ignoreIfExists"]), maybe "annotationId" .text])
    (.either
      (mixed [
        needed "kind" (.exactly "rename".toList), needed "oldUri" .uri, needed "newUri" .uri,
        maybe "options" (flags ["overwrite", "ignoreIfExists"]), maybe "annotationId" .text])
      (mixed [
        needed "kind" (.exactly "delete".toList), needed "uri" .uri,
        maybe "options" (plain [
          maybe "recursive" .bool, maybe "ignoreIfNotExists" .bool, maybe "annotationId" .text])]))

def workspaceEdit : Shape :=
  plain [
    droppable "changes" (.mapping .uri (.list textEdit)),
    maybe "documentChanges"
      (.either (.list documentEdit) (.list (.either fileOperation documentEdit))),
    maybe "changeAnnotations" (.mapping .text (plain [
      needed "label" .text, maybe "needsConfirmation" .bool, maybe "description" .text]))]

def codeAction : Shape :=
  plain [
    needed "title" .text, maybe "kind" .text, maybe "diagnostics" (.list diagnostic),
    maybe "edit" workspaceEdit, maybe "command" command, maybe "isPreferred" .bool,
    maybe "disabled" (plain [needed "reason" .text]), maybe "data" .any]

def codeActionContext : Shape :=
  plain [
    needed "diagnostics" (.list diagnostic), maybe "only" (.list .text),
    maybe "triggerKind" signed32]

/-! ## Symbols, signatures and hints -/

/-- A symbol and its place, with tags of a given shape. -/
def hierarchyItem (tags : Shape) : Shape :=
  plain [
    needed "name" .text, needed "kind" signed32, maybe "tags" tags, maybe "detail" .text,
    needed "uri" .uri, needed "range" range, needed "selectionRange" range, maybe "data" .any]

def callItem : Shape := hierarchyItem (.list signed32)

/-- A symbol of a type, which has one tag at most. -/
def typeItem : Shape := hierarchyItem signed32

def workspaceSymbol : Shape :=
  plain [
    needed "name" .text, needed "kind" signed32, maybe "tags" (.list signed32),
    maybe "containerName" .text, needed "location" (.either location documentName),
    maybe "data" .any]

/-- The signatures that a call can have. -/
def signatureHelp : Shape :=
  let parameter := plain [
    needed "label" (.either .text (.tuple [unsigned32, unsigned32])),
    maybe "documentation" documentation]
  let signature := plain [
    needed "label" .text, maybe "documentation" documentation,
    maybe "parameters" (.list parameter), maybe "activeParameter" unsigned32]
  plain [
    needed "signatures" (.list signature), maybe "activeSignature" unsigned32,
    maybe "activeParameter" unsigned32]

/-- How a signature came to be asked for. -/
def signatureContext : Shape :=
  plain [
    needed "triggerKind" signed32, maybe "triggerCharacter" .text, needed "isRetrigger" .bool,
    maybe "activeSignatureHelp" signatureHelp]

/-- A hint between the characters of a document. -/
def inlayHint : Shape :=
  let labelPart := plain [
    needed "value" .text, maybe "tooltip" documentation, maybe "location" location,
    maybe "command" command]
  plain [
    needed "position" position, needed "label" (.either .text (.list labelPart)),
    maybe "kind" signed32, maybe "textEdits" (.list textEdit), maybe "tooltip" documentation,
    maybe "paddingLeft" .bool, maybe "paddingRight" .bool, maybe "data" .any]

/-- How to lay out code. -/
def formattingOptions : Shape :=
  .openRecord
    [needed "tabSize" unsigned32, needed "insertSpaces" .bool,
     maybe "trimTrailingWhitespace" .bool, maybe "insertFinalNewline" .bool,
     maybe "trimFinalNewlines" .bool]
    (.either .bool (.either signed32 .text))

def color : Shape :=
  plain [needed "red" .number, needed "green" .number, needed "blue" .number,
    needed "alpha" .number]

/-- Files by fields that hold their names. -/
def fileList (names : List String) : Shape :=
  plain [needed "files" (.list (plain (names.map fun n => needed n .text)))]

/-! ## Requests -/

def wholeDocument : Shape := mixed [ofDocument, workDone, partialResult]

def documentStretch (fields : List (Text × Presence × Shape)) : Shape :=
  mixed (ofDocument :: needed "range" range :: fields)

/-- The requests that are not served, by name, with what they have to bring. -/
def unservedParams : List (String × Shape) := [
  ("textDocument/declaration", definitionParams),
  ("textDocument/typeDefinition", definitionParams),
  ("textDocument/implementation", definitionParams),
  ("textDocument/references", mixed (atPosition ++ [workDone, partialResult,
    needed "context" (plain [needed "includeDeclaration" .bool])])),
  ("textDocument/prepareCallHierarchy", hoverParams),
  ("callHierarchy/incomingCalls", mixed [needed "item" callItem, workDone, partialResult]),
  ("callHierarchy/outgoingCalls", mixed [needed "item" callItem, workDone, partialResult]),
  ("textDocument/prepareTypeHierarchy", hoverParams),
  ("typeHierarchy/supertypes", mixed [needed "item" typeItem, workDone, partialResult]),
  ("typeHierarchy/subtypes", mixed [needed "item" typeItem, workDone, partialResult]),
  ("textDocument/documentHighlight", definitionParams),
  ("textDocument/documentLink", wholeDocument),
  ("documentLink/resolve", plain [needed "range" range, maybe "target" .uri,
    maybe "tooltip" .text, maybe "data" .any]),
  ("textDocument/codeLens", wholeDocument),
  ("codeLens/resolve", plain [needed "range" range, maybe "command" command, maybe "data" .any]),
  ("textDocument/foldingRange", wholeDocument),
  ("textDocument/selectionRange", mixed [ofDocument, needed "positions" (.list position),
    workDone, partialResult]),
  ("textDocument/documentSymbol", wholeDocument),
  ("textDocument/semanticTokens/full", wholeDocument),
  ("textDocument/semanticTokens/full/delta", mixed [workDone, partialResult, ofDocument,
    needed "previousResultId" .text]),
  ("textDocument/semanticTokens/range", documentStretch [workDone, partialResult]),
  ("textDocument/inlineValue", documentStretch [workDone, needed "context" (plain
    [needed "frameId" signed32, needed "stoppedLocation" range])]),
  ("textDocument/inlayHint", documentStretch [workDone]),
  ("inlayHint/resolve", inlayHint),
  ("textDocument/moniker", definitionParams),
  ("textDocument/diagnostic", mixed [ofDocument, maybe "identifier" .text,
    maybe "previousResultId" .text, workDone, partialResult]),
  ("workspace/diagnostic", mixed [maybe "identifier" .text,
    needed "previousResultIds" (.list (plain [needed "uri" .uri, needed "value" .text])),
    workDone, partialResult]),
  ("textDocument/signatureHelp", mixed (maybe "context" signatureContext :: atPosition ++
    [workDone])),
  ("textDocument/codeAction", documentStretch [needed "context" codeActionContext, workDone,
    partialResult]),
  ("codeAction/resolve", codeAction),
  ("textDocument/documentColor", wholeDocument),
  ("textDocument/colorPresentation", documentStretch [needed "color" color, workDone,
    partialResult]),
  ("textDocument/formatting", mixed [ofDocument, needed "options" formattingOptions, workDone]),
  ("textDocument/rangeFormatting", documentStretch [needed "options" formattingOptions, workDone]),
  ("textDocument/onTypeFormatting", mixed (atPosition ++ [needed "ch" .text,
    needed "options" formattingOptions])),
  ("textDocument/rename", mixed (atPosition ++ [needed "newName" .text, workDone])),
  ("textDocument/prepareRename", plain atPosition),
  ("textDocument/linkedEditingRange", hoverParams),
  ("textDocument/willSaveWaitUntil", plain [ofDocument, needed "reason" signed32]),
  ("workspace/symbol", mixed [partialResult, workDone, needed "query" .text]),
  ("workspaceSymbol/resolve", workspaceSymbol),
  ("workspace/willCreateFiles", fileList ["uri"]),
  ("workspace/willRenameFiles", fileList ["oldUri", "newUri"]),
  ("workspace/willDeleteFiles", fileList ["uri"]),
  ("workspace/executeCommand", mixed [needed "command" .text, preset "arguments" (.list .any),
    workDone])]

end Shape

end ClassLens
