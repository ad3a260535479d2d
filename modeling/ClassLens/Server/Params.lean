import ClassLens.Server.Shape
/-
  Parameters — what the messages that are served have to bring

  What this holds:
    1. places, documents and edits, which many messages share;
    2. the parameters of each message that is served.
-/

namespace ClassLens

namespace Shape

/-! ## Places and documents -/

def position : Shape := plain [needed "line" unsigned32, needed "character" unsigned32]

def range : Shape := plain [needed "start" position, needed "end" position]

def documentName : Shape := plain [needed "uri" .uri]

/-- A token for progress reports, or a code. -/
def token : Shape := .either signed32 .text

/-- The name of a document as a field. -/
def ofDocument : Text × Presence × Shape := needed "textDocument" documentName

/-- A place in a named document as fields. -/
def atPosition : List (Text × Presence × Shape) := [ofDocument, needed "position" position]

/-- The token for reports on the progress of work. -/
def workDone : Text × Presence × Shape := maybe "workDoneToken" token

/-- The token for results that come in parts. -/
def partialResult : Text × Presence × Shape := maybe "partialResultToken" token

/-! ## Texts and edits -/

def markupKind : Shape := oneOf ["plaintext", "markdown"]

/-- Text in one of two formats. -/
def markup : Shape := plain [needed "kind" markupKind, needed "value" .text]

def documentation : Shape := .either .text markup

def textEdit : Shape := plain [needed "range" range, needed "newText" .text]

/-- A replacement of text that depends on how it is put in. -/
def insertReplaceEdit : Shape :=
  plain [needed "newText" .text, needed "insert" range, needed "replace" range]

/-- Something that an editor can be told to do. -/
def command : Shape :=
  plain [needed "title" .text, needed "command" .text, maybe "arguments" (.list .any)]

/-! ## Messages -/

def openParams : Shape :=
  plain [needed "textDocument" (plain
    [needed "uri" .uri, needed "languageId" .text, needed "version" signed32, needed "text" .text])]

def changeParams : Shape :=
  plain [
    needed "textDocument" (plain [needed "uri" .uri, needed "version" signed32]),
    needed "contentChanges" (.list (plain
      [maybe "range" range, maybe "rangeLength" unsigned32, needed "text" .text]))]

def closeParams : Shape := plain [ofDocument]

/-- Files that were changed. -/
def watchedParams : Shape :=
  plain [needed "changes" (.list (plain [needed "uri" .uri, needed "type" signed32]))]

def completionParams : Shape :=
  mixed (atPosition ++ [workDone, partialResult,
    maybe "context" (plain [needed "triggerKind" signed32, maybe "triggerCharacter" .text])])

def hoverParams : Shape := mixed (atPosition ++ [workDone])

def definitionParams : Shape := mixed (atPosition ++ [workDone, partialResult])

def completionItem : Shape :=
  plain [
    needed "label" .text,
    maybe "labelDetails" (plain [maybe "detail" .text, maybe "description" .text]),
    maybe "kind" signed32, maybe "detail" .text, maybe "documentation" documentation,
    maybe "deprecated" .bool, maybe "preselect" .bool, maybe "sortText" .text,
    maybe "filterText" .text, maybe "insertText" .text, maybe "insertTextFormat" signed32,
    maybe "insertTextMode" signed32, maybe "textEdit" (.either textEdit insertReplaceEdit),
    maybe "additionalTextEdits" (.list textEdit), maybe "command" command,
    maybe "commitCharacters" (.list .text), maybe "data" .any, maybe "tags" (.list signed32)]

end Shape

end ClassLens
