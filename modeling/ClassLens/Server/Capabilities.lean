import ClassLens.Server.Params
/-
  Capabilities — what an editor says about itself at the start

  None of it is used here but the workspace and the options. All of it has to be
  in shape, or the session does not start.

  What this holds:
    1. the capabilities of an editor, group by group;
    2. `initializeParams`, the whole of its introduction.
-/

namespace ClassLens

namespace Shape

/-- A feature that can be registered later. -/
def registrable : Shape := flags ["dynamicRegistration"]

/-- A feature that can be refreshed. -/
def refreshable : Shape := flags ["refreshSupport"]

/-- The values that an editor knows, as numbers. -/
def valueSet : Shape := plain [maybe "valueSet" (.list signed32)]

/-- The tags that an editor knows; older ones say only whether they know any. -/
def tagSupport : Shape := .either .bool (plain [needed "valueSet" (.list signed32)])

/-- The properties that an editor asks for later. -/
def lazyProperties : Shape := plain [needed "properties" (.list .text)]

/-- A feature that leads elsewhere. -/
def gotoCapability : Shape := flags ["dynamicRegistration", "linkSupport"]

/-- What an editor can do with a workspace. -/
def workspaceCapabilities : Shape :=
  plain [
    maybe "applyEdit" .bool,
    maybe "workspaceEdit" (plain [
      maybe "documentChanges" .bool,
      maybe "resourceOperations" (.list (oneOf ["create", "rename", "delete"])),
      maybe "failureHandling" (oneOf ["abort", "transactional", "textOnlyTransactional", "undo"]),
      maybe "normalizesLineEndings" .bool,
      maybe "changeAnnotationSupport" (flags ["groupsOnLabel"])]),
    maybe "didChangeConfiguration" registrable,
    maybe "didChangeWatchedFiles" (flags ["dynamicRegistration", "relativePatternSupport"]),
    maybe "symbol" (plain [
      maybe "dynamicRegistration" .bool, maybe "symbolKind" valueSet,
      droppable "tagSupport" tagSupport, maybe "resolveSupport" lazyProperties]),
    maybe "executeCommand" registrable,
    maybe "workspaceFolders" .bool,
    maybe "configuration" .bool,
    maybe "semanticTokens" refreshable,
    maybe "codeLens" refreshable,
    maybe "fileOperations" (flags ["dynamicRegistration", "didCreate", "willCreate", "didRename",
      "willRename", "didDelete", "willDelete"]),
    maybe "inlineValue" refreshable,
    maybe "inlayHint" refreshable,
    maybe "diagnostic" refreshable]

/-- What an editor can do with completion. -/
def completionCapability : Shape :=
  plain [
    maybe "dynamicRegistration" .bool,
    maybe "completionItem" (plain [
      maybe "snippetSupport" .bool, maybe "commitCharactersSupport" .bool,
      maybe "documentationFormat" (.list markupKind), maybe "deprecatedSupport" .bool,
      maybe "preselectSupport" .bool, droppable "tagSupport" tagSupport,
      maybe "insertReplaceSupport" .bool, maybe "resolveSupport" lazyProperties,
      maybe "insertTextModeSupport" (plain [needed "valueSet" (.list signed32)]),
      maybe "labelDetailsSupport" .bool]),
    maybe "completionItemKind" valueSet,
    maybe "contextSupport" .bool,
    maybe "insertTextMode" signed32,
    maybe "completionList" (plain [maybe "itemDefaults" (.list .text)])]

/-- What an editor can do with the signatures of calls. -/
def signatureCapability : Shape :=
  plain [
    maybe "dynamicRegistration" .bool,
    maybe "signatureInformation" (plain [
      maybe "documentationFormat" (.list markupKind),
      maybe "parameterInformation" (flags ["labelOffsetSupport"]),
      maybe "activeParameterSupport" .bool]),
    maybe "contextSupport" .bool]

/-- What an editor can do with actions on code. -/
def codeActionCapability : Shape :=
  plain [
    maybe "dynamicRegistration" .bool,
    maybe "codeActionLiteralSupport" (plain [
      needed "codeActionKind" (plain [needed "valueSet" (.list .text)])]),
    maybe "isPreferredSupport" .bool,
    maybe "disabledSupport" .bool,
    maybe "dataSupport" .bool,
    maybe "resolveSupport" lazyProperties,
    maybe "honorsChangeAnnotations" .bool]

/-- What an editor can do with semantic tokens. -/
def semanticTokensCapability : Shape :=
  plain [
    maybe "dynamicRegistration" .bool,
    needed "requests" (plain [
      maybe "range" .bool,
      maybe "full" (.either .bool (mixed [maybe "delta" .bool]))]),
    needed "tokenTypes" (.list .text),
    needed "tokenModifiers" (.list .text),
    needed "formats" (.list .text),
    maybe "overlappingTokenSupport" .bool,
    maybe "multilineTokenSupport" .bool,
    maybe "serverCancelSupport" .bool,
    maybe "augmentsSyntaxTokens" .bool]

/-- What an editor can do with a document. -/
def documentCapabilities : Shape :=
  plain [
    maybe "synchronization"
      (flags ["dynamicRegistration", "willSave", "willSaveWaitUntil", "didSave"]),
    maybe "completion" completionCapability,
    maybe "hover" (plain [
      maybe "dynamicRegistration" .bool, maybe "contentFormat" (.list markupKind)]),
    maybe "signatureHelp" signatureCapability,
    maybe "references" registrable,
    maybe "documentHighlight" registrable,
    maybe "documentSymbol" (plain [
      maybe "dynamicRegistration" .bool, maybe "symbolKind" valueSet,
      maybe "hierarchicalDocumentSymbolSupport" .bool, droppable "tagSupport" tagSupport]),
    maybe "formatting" registrable,
    maybe "rangeFormatting" registrable,
    maybe "onTypeFormatting" registrable,
    maybe "declaration" gotoCapability,
    maybe "definition" gotoCapability,
    maybe "typeDefinition" gotoCapability,
    maybe "implementation" gotoCapability,
    maybe "codeAction" codeActionCapability,
    maybe "codeLens" registrable,
    maybe "documentLink" (flags ["dynamicRegistration", "tooltipSupport"]),
    maybe "colorProvider" registrable,
    maybe "rename" (plain [
      maybe "dynamicRegistration" .bool, maybe "prepareSupport" .bool,
      maybe "prepareSupportDefaultBehavior" signed32, maybe "honorsChangeAnnotations" .bool]),
    maybe "publishDiagnostics" (plain [
      maybe "relatedInformation" .bool, droppable "tagSupport" tagSupport,
      maybe "versionSupport" .bool, maybe "codeDescriptionSupport" .bool,
      maybe "dataSupport" .bool]),
    maybe "foldingRange" (plain [
      maybe "dynamicRegistration" .bool, maybe "rangeLimit" unsigned32,
      maybe "lineFoldingOnly" .bool,
      maybe "foldingRangeKind" (plain [
        maybe "valueSet" (.list (oneOf ["comment", "imports", "region"]))]),
      maybe "foldingRange" (flags ["collapsedText"])]),
    maybe "selectionRange" registrable,
    maybe "linkedEditingRange" registrable,
    maybe "callHierarchy" registrable,
    maybe "semanticTokens" semanticTokensCapability,
    maybe "moniker" registrable,
    maybe "typeHierarchy" registrable,
    maybe "inlineValue" registrable,
    maybe "inlayHint" (plain [
      maybe "dynamicRegistration" .bool, maybe "resolveSupport" lazyProperties]),
    maybe "diagnostic" (flags ["dynamicRegistration", "relatedDocumentSupport"])]

/-- What an editor can do with its window. -/
def windowCapabilities : Shape :=
  plain [
    maybe "workDoneProgress" .bool,
    maybe "showMessage" (plain [
      maybe "messageActionItem" (flags ["additionalPropertiesSupport"])]),
    maybe "showDocument" (plain [needed "support" .bool])]

/-- What an editor can do besides. -/
def generalCapabilities : Shape :=
  plain [
    maybe "regularExpressions" (plain [needed "engine" .text, maybe "version" .text]),
    maybe "markdown" (plain [
      needed "parser" .text, maybe "version" .text, maybe "allowedTags" (.list .text)]),
    maybe "staleRequestSupport" (plain [
      needed "cancel" .bool, needed "retryOnContentModified" (.list .text)]),
    maybe "positionEncodings" (.list .text)]

def clientCapabilities : Shape :=
  plain [
    maybe "workspace" workspaceCapabilities,
    maybe "textDocument" documentCapabilities,
    maybe "window" windowCapabilities,
    maybe "general" generalCapabilities,
    maybe "experimental" .any]

/-- What an editor says about itself at the start. -/
def initializeParams : Shape :=
  plain [
    maybe "processId" unsigned32,
    maybe "rootPath" .text,
    droppable "rootUri" .uri,
    maybe "initializationOptions" .any,
    needed "capabilities" clientCapabilities,
    droppable "trace" (oneOf ["off", "messages", "verbose"]),
    maybe "workspaceFolders" (.list (plain [needed "uri" .uri, needed "name" .text])),
    maybe "clientInfo" (plain [needed "name" .text, maybe "version" .text]),
    maybe "locale" .text]

end Shape

end ClassLens
