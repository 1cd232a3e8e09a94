import JinieServer.Protocol.Shape

/-!
# What a client can do

The shape of the capabilities that a client announces, feature by feature.
-/

namespace JinieServer.Protocol

open Shape

/-! ## Pieces -/

/-- A feature that may be registered while the server runs. -/
def registrable : Shape := flags ["dynamicRegistration"]

/-- A feature whose results the server may ask to be drawn again. -/
def refreshable : Shape := flags ["refreshSupport"]

/-- Where a feature leads to. -/
def linking : Shape := flags ["dynamicRegistration", "linkSupport"]

def markupKind : Shape := .oneOf ["plaintext", "markdown"]

def markupKinds : Shape := .listOf markupKind

/-- The values of a numbered kind that a client knows. -/
def kindSet : Shape := object [may "valueSet" (.listOf signedWord)]

/-- The tags that a client knows; some clients send a flag instead. -/
def tagSupport : String × Presence × Shape :=
  mayEnd "tagSupport" (.either .bool (object [need "valueSet" (.listOf signedWord)]))

/-- The properties that a client asks for later. -/
def lateProperties : Shape := object [need "properties" strings]

/-! ## The workspace -/

def workspaceEditing : Shape :=
  object [
    may "documentChanges" .bool,
    may "resourceOperations" (.listOf (.oneOf ["create", "rename", "delete"])),
    may "failureHandling" (.oneOf ["abort", "transactional", "textOnlyTransactional", "undo"]),
    may "normalizesLineEndings" .bool,
    may "changeAnnotationSupport" (flags ["groupsOnLabel"])]

def workspaceCapabilities : Shape :=
  object [
    may "applyEdit" .bool,
    may "workspaceEdit" workspaceEditing,
    may "didChangeConfiguration" registrable,
    may "didChangeWatchedFiles" (flags ["dynamicRegistration", "relativePatternSupport"]),
    may "symbol" (object [
      may "dynamicRegistration" .bool, may "symbolKind" kindSet, tagSupport,
      may "resolveSupport" lateProperties]),
    may "executeCommand" registrable,
    may "workspaceFolders" .bool,
    may "configuration" .bool,
    may "semanticTokens" refreshable,
    may "codeLens" refreshable,
    may "fileOperations" (flags ["dynamicRegistration", "didCreate", "willCreate", "didRename",
      "willRename", "didDelete", "willDelete"]),
    may "inlineValue" refreshable,
    may "inlayHint" refreshable,
    may "diagnostic" refreshable]

/-! ## Documents -/

def completionItemSupport : Shape :=
  object [
    may "snippetSupport" .bool,
    may "commitCharactersSupport" .bool,
    may "documentationFormat" markupKinds,
    may "deprecatedSupport" .bool,
    may "preselectSupport" .bool,
    tagSupport,
    may "insertReplaceSupport" .bool,
    may "resolveSupport" lateProperties,
    may "insertTextModeSupport" (object [need "valueSet" (.listOf signedWord)]),
    may "labelDetailsSupport" .bool]

def completionSupport : Shape :=
  object [
    may "dynamicRegistration" .bool,
    may "completionItem" completionItemSupport,
    may "completionItemKind" kindSet,
    may "contextSupport" .bool,
    may "insertTextMode" signedWord,
    may "completionList" (object [may "itemDefaults" strings])]

def signatureHelpSupport : Shape :=
  object [
    may "dynamicRegistration" .bool,
    may "signatureInformation" (object [
      may "documentationFormat" markupKinds,
      may "parameterInformation" (flags ["labelOffsetSupport"]),
      may "activeParameterSupport" .bool]),
    may "contextSupport" .bool]

def codeActionSupport : Shape :=
  object [
    may "dynamicRegistration" .bool,
    may "codeActionLiteralSupport"
      (object [need "codeActionKind" (object [need "valueSet" strings])]),
    may "isPreferredSupport" .bool,
    may "disabledSupport" .bool,
    may "dataSupport" .bool,
    may "resolveSupport" lateProperties,
    may "honorsChangeAnnotations" .bool]

def foldingSupport : Shape :=
  object [
    may "dynamicRegistration" .bool,
    may "rangeLimit" word,
    may "lineFoldingOnly" .bool,
    may "foldingRangeKind"
      (object [may "valueSet" (.listOf (.oneOf ["comment", "imports", "region"]))]),
    may "foldingRange" (flags ["collapsedText"])]

def semanticTokensSupport : Shape :=
  object [
    may "dynamicRegistration" .bool,
    need "requests" (object [
      may "range" .bool,
      may "full" (.either .bool (flat [may "delta" .bool]))]),
    need "tokenTypes" strings,
    need "tokenModifiers" strings,
    need "formats" (.listOf (.oneOf ["relative"])),
    may "overlappingTokenSupport" .bool,
    may "multilineTokenSupport" .bool,
    may "serverCancelSupport" .bool,
    may "augmentsSyntaxTokens" .bool]

def documentCapabilities : Shape :=
  object [
    may "synchronization"
      (flags ["dynamicRegistration", "willSave", "willSaveWaitUntil", "didSave"]),
    may "completion" completionSupport,
    may "hover" (object [may "dynamicRegistration" .bool, may "contentFormat" markupKinds]),
    may "signatureHelp" signatureHelpSupport,
    may "references" registrable,
    may "documentHighlight" registrable,
    may "documentSymbol" (object [
      may "dynamicRegistration" .bool, may "symbolKind" kindSet,
      may "hierarchicalDocumentSymbolSupport" .bool, tagSupport]),
    may "formatting" registrable,
    may "rangeFormatting" registrable,
    may "onTypeFormatting" registrable,
    may "declaration" linking,
    may "definition" linking,
    may "typeDefinition" linking,
    may "implementation" linking,
    may "codeAction" codeActionSupport,
    may "codeLens" registrable,
    may "documentLink" (flags ["dynamicRegistration", "tooltipSupport"]),
    may "colorProvider" registrable,
    may "rename" (object [
      may "dynamicRegistration" .bool, may "prepareSupport" .bool,
      may "prepareSupportDefaultBehavior" signedWord, may "honorsChangeAnnotations" .bool]),
    may "publishDiagnostics" (object [
      may "relatedInformation" .bool, tagSupport, may "versionSupport" .bool,
      may "codeDescriptionSupport" .bool, may "dataSupport" .bool]),
    may "foldingRange" foldingSupport,
    may "selectionRange" registrable,
    may "linkedEditingRange" registrable,
    may "callHierarchy" registrable,
    may "semanticTokens" semanticTokensSupport,
    may "moniker" registrable,
    may "typeHierarchy" registrable,
    may "inlineValue" registrable,
    may "inlayHint"
      (object [may "dynamicRegistration" .bool, may "resolveSupport" lateProperties]),
    may "diagnostic" (flags ["dynamicRegistration", "relatedDocumentSupport"])]

/-! ## The window and the rest -/

def windowCapabilities : Shape :=
  object [
    may "workDoneProgress" .bool,
    may "showMessage"
      (object [may "messageActionItem" (flags ["additionalPropertiesSupport"])]),
    may "showDocument" (object [need "support" .bool])]

def generalCapabilities : Shape :=
  object [
    may "regularExpressions" (object [need "engine" .string, may "version" .string]),
    may "markdown"
      (object [need "parser" .string, may "version" .string, may "allowedTags" strings]),
    may "staleRequestSupport"
      (object [need "cancel" .bool, need "retryOnContentModified" strings]),
    may "positionEncodings" strings]

def clientCapabilities : Shape :=
  object [
    may "workspace" workspaceCapabilities,
    may "textDocument" documentCapabilities,
    may "window" windowCapabilities,
    may "general" generalCapabilities,
    may "offsetEncoding" strings,
    may "experimental" .anything]

end JinieServer.Protocol
