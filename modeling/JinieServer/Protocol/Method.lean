import JinieServer.Protocol.Record

/-!
# Methods

The methods of the protocol that the server knows, what each takes, and whether it is a request.
Requests that are known but not served are listed too: their parameters are still checked.
-/

namespace JinieServer.Protocol

open Shape

/-! ## Parameters of the methods that are served -/

def connectParams : Shape :=
  object [
    may "processId" word,
    may "rootPath" .string,
    mayEnd "rootUri" .url,
    may "initializationOptions" .anything,
    need "capabilities" clientCapabilities,
    mayEnd "trace" (.oneOf ["off", "messages", "verbose"]),
    may "workspaceFolders" (.listOf workspaceFolder),
    may "clientInfo" (object [need "name" .string, may "version" .string]),
    may "locale" .string]

def didOpenParams : Shape :=
  object [need "textDocument" (object [
    need "uri" .url, need "languageId" .string, need "version" signedWord, need "text" .string])]

def didChangeParams : Shape :=
  object [
    need "textDocument" (object [need "uri" .url, need "version" signedWord]),
    need "contentChanges"
      (.listOf (object [may "range" range, may "rangeLength" word, need "text" .string]))]

def didCloseParams : Shape := object atDocument

def didChangeWatchedFilesParams : Shape :=
  object [need "changes" (.listOf (object [need "uri" .url, need "type" signedWord]))]

def documentSymbolParams : Shape := flat (atDocument ++ tokens)

def definitionParams : Shape := flat (atPosition ++ tokens)

/-! ## The table -/

structure Method where
  name : String
  isRequest : Bool
  /-- What the method takes; nothing for the methods that take no parameters. -/
  params : Option Shape

def request (name : String) (params : Shape) : Method := ⟨name, true, some params⟩

def notice (name : String) (params : Shape) : Method := ⟨name, false, some params⟩

def lifecycleMethods : List Method := [
  request "initialize" connectParams,
  ⟨"shutdown", true, none⟩,
  ⟨"exit", false, none⟩]

def servedMethods : List Method := [
  notice "initialized" (object []),
  notice "textDocument/didOpen" didOpenParams,
  notice "textDocument/didChange" didChangeParams,
  notice "textDocument/didClose" didCloseParams,
  notice "workspace/didChangeWatchedFiles" didChangeWatchedFilesParams,
  request "textDocument/documentSymbol" documentSymbolParams,
  request "textDocument/definition" definitionParams]

/-! ## Known and not served -/

def positionRequests : List Method :=
  ["textDocument/declaration", "textDocument/typeDefinition", "textDocument/implementation",
    "textDocument/documentHighlight", "textDocument/moniker"].map
      (request · (flat (atPosition ++ tokens))) ++
  ["textDocument/hover", "textDocument/prepareCallHierarchy",
    "textDocument/prepareTypeHierarchy", "textDocument/linkedEditingRange"].map
      (request · (flat (atPosition ++ progress))) ++ [
  request "textDocument/prepareRename" (object atPosition),
  request "textDocument/references"
    (flat (atPosition ++ tokens ++ [need "context"
      (object [need "includeDeclaration" .bool])])),
  request "textDocument/completion"
    (flat (atPosition ++ tokens ++ [may "context"
      (object [need "triggerKind" signedWord, may "triggerCharacter" .string])])),
  request "textDocument/signatureHelp"
    (flat (may "context" signatureHelpContext :: atPosition ++ progress)),
  request "textDocument/onTypeFormatting"
    (flat (atPosition ++ [need "ch" .string, need "options" formattingOptions])),
  request "textDocument/rename" (flat (atPosition ++ [need "newName" .string] ++ progress))]

def documentRequests : List Method :=
  ["textDocument/documentLink", "textDocument/codeLens", "textDocument/foldingRange",
    "textDocument/semanticTokens/full", "textDocument/documentColor"].map
      (request · (flat (atDocument ++ tokens))) ++ [
  request "textDocument/willSaveWaitUntil" (object (atDocument ++ [need "reason" signedWord])),
  request "textDocument/selectionRange"
    (flat (atDocument ++ [need "positions" (.listOf position)] ++ tokens)),
  request "textDocument/semanticTokens/full/delta"
    (flat (atDocument ++ [need "previousResultId" .string] ++ tokens)),
  request "textDocument/semanticTokens/range" (flat (atRange ++ tokens)),
  request "textDocument/inlineValue"
    (flat (atRange ++ [need "context"
      (object [need "frameId" signedWord, need "stoppedLocation" range])] ++ progress)),
  request "textDocument/inlayHint" (flat (atRange ++ progress)),
  request "textDocument/diagnostic"
    (flat (atDocument ++ [may "identifier" .string, may "previousResultId" .string] ++ tokens)),
  request "textDocument/codeAction"
    (flat (atRange ++ [need "context" codeActionContext] ++ tokens)),
  request "textDocument/colorPresentation" (flat (atRange ++ [need "color" color] ++ tokens)),
  request "textDocument/formatting"
    (flat (atDocument ++ [need "options" formattingOptions] ++ progress)),
  request "textDocument/rangeFormatting"
    (flat (atRange ++ [need "options" formattingOptions] ++ progress))]

/-- Requests about a record that an earlier answer held. -/
def itemRequests : List Method := [
  request "callHierarchy/incomingCalls" (flat (need "item" callItem :: tokens)),
  request "callHierarchy/outgoingCalls" (flat (need "item" callItem :: tokens)),
  request "typeHierarchy/supertypes" (flat (need "item" typeItem :: tokens)),
  request "typeHierarchy/subtypes" (flat (need "item" typeItem :: tokens)),
  request "documentLink/resolve" documentLink,
  request "codeLens/resolve" codeLens,
  request "inlayHint/resolve" inlayHint,
  request "completionItem/resolve" completionItem,
  request "codeAction/resolve" codeAction,
  request "workspaceSymbol/resolve" workspaceSymbol]

def workspaceRequests : List Method := [
  request "workspace/symbol" (flat (need "query" .string :: tokens)),
  request "workspace/diagnostic"
    (flat ([may "identifier" .string, need "previousResultIds"
      (.listOf (object [need "uri" .url, need "value" .string]))] ++ tokens)),
  request "workspace/willCreateFiles" (fileList ["uri"]),
  request "workspace/willRenameFiles" (fileList ["oldUri", "newUri"]),
  request "workspace/willDeleteFiles" (fileList ["uri"]),
  request "workspace/executeCommand"
    (flat ([need "command" .string, ("arguments", .defaulted, .listOf .anything)] ++ progress))]

/-- Notifications that are known and have no effect. -/
def silentNotifications : List Method := [
  notice "textDocument/willSave" (object (atDocument ++ [need "reason" signedWord])),
  notice "textDocument/didSave" (object (atDocument ++ [may "text" .string])),
  notice "workspace/didChangeConfiguration" (object [need "settings" .anything]),
  notice "workspace/didChangeWorkspaceFolders" (object [need "event" (object [
    need "added" (.listOf workspaceFolder), need "removed" (.listOf workspaceFolder)])]),
  notice "workspace/didCreateFiles" (fileList ["uri"]),
  notice "workspace/didRenameFiles" (fileList ["oldUri", "newUri"]),
  notice "workspace/didDeleteFiles" (fileList ["uri"])]

def cancelParams : Shape := object [need "id" token]

def knownMethods : List Method :=
  lifecycleMethods ++ servedMethods ++ positionRequests ++ documentRequests ++ itemRequests ++
    workspaceRequests ++ silentNotifications ++ [notice "$/cancelRequest" cancelParams]

def method? (name : String) : Option Method := knownMethods.find? (·.name = name)

/-- Whether the parameters of a message fit a method. -/
def Method.takes (method : Method) (params : Option Json) : Bool :=
  match method.params, params with
  | none, none => true
  | some shape, some params => shape.accepts params
  | _, _ => false

end JinieServer.Protocol
